import LittleMan.Console
import LittleMan.Proofs.Histories
import LittleMan.Proofs.TraceLines

/-! Operations that have a result only within bounds: arithmetic of a fixed width, division, writes
to cells, flags of a word and cuts of a text. A cycle and a load done by these operations come to
the same as they do without bounds, in every state that can be reached, so the bounds are never
left. -/

namespace LittleMan

open Text Program

inductive Violation where
  | overflow (range : NumeralRange) (value : Int)
  | zeroDivisor
  | write (address word : Nat)
  | flags (word : Nat)
  | cut (position : Nat)

/-- The result of operations within bounds, or the first that left them. -/
abbrev Guarded (Answer : Type) := Except Violation Answer

namespace Guarded

def fit (range : NumeralRange) (value : Int) : Guarded Int :=
  if range.lowest ≤ value ∧ value ≤ range.highest then .ok value
  else .error (.overflow range value)

def quotient (dividend divisor : Nat) : Guarded Nat :=
  if divisor = 0 then .error .zeroDivisor else .ok (dividend / divisor)

def write (memory : Memory) (address word : Nat) : Guarded Memory :=
  if address ≤ 999 ∧ word ≤ 999 then .ok (memory.write address word)
  else .error (.write address word)

def flags (word : Nat) : Guarded Flags :=
  if word ≤ 999 then .ok (Flags.of word) else .error (.flags word)

/-- Cuts a text at a byte position, where a character must begin or the text end. -/
def cut (position : Nat) : List Char → Guarded (List Char × List Char)
  | [] => if position = 0 then .ok ([], []) else .error (.cut position)
  | c :: rest =>
    if position = 0 then .ok ([], c :: rest)
    else if position < c.utf8Size then .error (.cut position)
    else do
      let (before, after) ← cut (position - c.utf8Size) rest
      return (c :: before, after)

section

variable {World : Type} (channel : Channel World) (machine : Machine) (world : World)

def setFlags (word : Nat) : Guarded Machine := do
  return { machine with flags := ← flags word }

def settle (value : Int) : Guarded (Machine × Nat) := do
  let word := Word.truncate value
  return (← setFlags machine word, word)

/-- An instruction that computes with 32 bits from the word in a cell. -/
def combine (cell : Nat) (value : Nat → Int) : Guarded (Except Fault (Machine × Nat)) :=
  match machine.memory.read cell with
  | .error fault => return .error fault
  | .ok word => do return .ok (← settle machine (← fit (.signed 32) (value word)))

def execute (instruction : Instruction) (working : Nat) :
    Guarded (Except Fault (Machine × Nat) × World) :=
  match instruction with
  | .add cell => do return (← combine machine cell fun word => working + word, world)
  | .subtract cell => do return (← combine machine cell fun word => working - word, world)
  | .store cell => do
    let stored := { machine with memory := ← write machine.memory cell working }
    return (.ok (← setFlags stored working, working), world)
  | .multiply => do
    return (.ok (← settle machine (← fit (.signed 32) (machine.b * working))), world)
  | .divide =>
    if working = 0 then return (.error (.divisionByZero machine.b), world)
    else do return (.ok (← settle machine (← quotient machine.b working)), world)
  | .load cell =>
    match machine.memory.read cell with
    | .error fault => return (.error fault, world)
    | .ok word => do return (.ok (← setFlags machine word, word), world)
  | .input =>
    match channel.ask world with
    | (.error fault, world) => return (.error fault, world)
    | (.ok value, world) =>
      if 0 ≤ value ∧ value ≤ 999 then do return (.ok (← settle machine value), world)
      else return (.error (.inputOutOfRange value), world)
  | .output =>
    match channel.tell working world with
    | (.error fault, world) => return (.error fault, world)
    | (.ok _, world) => do return (.ok (← setFlags machine working, working), world)
  -- The other instructions do nothing that has bounds.
  | .halt | .trap _ | .useB | .unknownExtended _ | .branch _ | .branchIfZero _
  | .branchIfPositive _ | .device _ =>
    return machine.execute channel instruction working world

/-- The program counter has 16 bits. -/
def advance : Guarded Machine := do
  let next ← fit (.unsigned 16) (machine.pc + 1)
  return { machine with pc := (next % 1000).toNat }

/-- The count of cycles has 64 bits. -/
def complete (instruction : Instruction) (onB : Bool) (result : Nat) : Guarded Machine := do
  let written := machine.writeBack instruction onB result
  let count ← fit (.unsigned 64) (written.cycles + 1)
  return { written with cycles := count.toNat }

def cycle : Guarded (Turn (Except Fault Unit) World) :=
  match machine.memory.read machine.pc with
  | .error fault => return ⟨.error fault, machine, world⟩
  | .ok word => do
    let advanced ← advance machine
    let instruction := Instruction.decode word
    match ← execute channel advanced world instruction machine.working with
    | (.error fault, world) => return ⟨.error fault, advanced, world⟩
    | (.ok (executed, result), world) =>
      let completed ← complete executed instruction machine.useB result
      return ⟨.ok (), completed, Machine.showCycle channel machine.pc word completed world⟩

end

section

variable (loading : Loading) (line : List Located)

/-- Stores a value at an address that leaves room for the address after it, at most 1000. -/
def define (address : Nat) (value : Token) (extra : List Token) :
    Guarded (Except LoadFault Loading) :=
  match extra with
  | token :: _ => return .error ⟨.trailing, token.extent⟩
  | [] =>
    match readWord .value value with
    | .error fault => return .error fault
    | .ok word =>
      if loading.memory.isMapped address then
        return .error ⟨.duplicateAddress address, (trimmedCode line).extent⟩
      else do
        let written ← write loading.memory address word
        let next ← fit ⟨0, 1000⟩ (address + 1)
        return .ok ⟨written, next.toNat⟩

def loadLine : Guarded (Except LoadFault Loading) :=
  match tokens line with
  | [] => return .ok loading
  | [value] =>
    if loading.next < 1000 then define loading line loading.next value []
    else return .error ⟨.overflow, value.extent⟩
  | first :: value :: extra =>
    match readWord .address first with
    | .error fault => return .error fault
    | .ok address => define loading line address value extra

def loadLines (loading : Loading) : List (List Located) → Guarded (Option LoadFault × Loading)
  | [] => return (none, loading)
  | line :: rest => do
    match ← loadLine loading line with
    | .error fault => return (some fault, loading)
    | .ok loading => loadLines loading rest

def load (text : String) (memory : Memory) : Guarded (Option LoadFault × Memory) := do
  let (fault, loading) ← loadLines ⟨memory, 0⟩ (lines text)
  return (fault, loading.memory)

end

section

variable (console : Console) (stream : Stream) (entry : TraceEntry)

def traceText : Guarded String :=
  if console.minimal then return entry.line
  else do
    let (address, columns) ← cut 3 entry.line.toList
    return String.ofList (Style.dim.sequence ++ (address ++ Style.plain.sequence) ++ columns)

def printTrace : Guarded Console := do
  let ready := console.startNewLine stream
  return ready.print stream (← traceText ready entry)

end

section

variable {World : Type} {channel : Channel World} {machine : Machine} {world : World}

@[simp]
theorem ok_bind {Answer Other : Type} (answer : Answer) (next : Answer → Guarded Other) :
    ((.ok answer : Guarded Answer) >>= next) = next answer := rfl

@[simp]
theorem pure_eq_ok {Answer : Type} (answer : Answer) : (pure answer : Guarded Answer) = .ok answer :=
  rfl

private theorem fit_of_holds {range : NumeralRange} {value : Int} (holds : range.Holds value) :
    fit range value = .ok value :=
  if_pos holds

private theorem write_of_le {address word : Nat} (inside : address ≤ 999) (small : word ≤ 999)
    (memory : Memory) : write memory address word = .ok (memory.write address word) :=
  if_pos ⟨inside, small⟩

private theorem setFlags_of_le {word : Nat} (small : word ≤ 999) (machine : Machine) :
    setFlags machine word = .ok { machine with flags := Flags.of word } := by
  simp [setFlags, flags, small]

@[simp]
theorem settle_eq (machine : Machine) (value : Int) :
    settle machine value = .ok (machine.settle value) := by
  have small : Word.truncate value ≤ 999 := Nat.le_of_lt_succ (Word.truncate_lt value)
  simp [settle, setFlags_of_le small, Machine.settle]

private theorem combine_eq {cell : Nat} {value : Nat → Int} (words : machine.HoldsWords)
    (narrow : ∀ word ≤ 999, (NumeralRange.signed 32).Holds (value word)) :
    combine machine cell value = .ok (machine.combine cell value) := by
  unfold combine Machine.combine
  cases found : machine.memory.read cell with
  | error fault => rfl
  | ok word =>
    have small := words.memory _ _ (Memory.read_eq_ok_iff.mp found)
    simp [fit_of_holds (narrow word small), Except.map]

/-- Words are small enough for an instruction to stay within all bounds. -/
theorem execute_eq {word working : Nat} {instruction : Instruction} (words : machine.HoldsWords)
    (small : working ≤ 999) (encoded : Encodes word instruction) :
    execute channel machine world instruction working =
      .ok (machine.execute channel instruction working world) := by
  have narrow {value : Int} (low : -998001 ≤ value) (high : value ≤ 998001) :
      (NumeralRange.signed 32).Holds value :=
    ⟨Int.le_trans (by decide) low, Int.le_trans high (by decide)⟩
  cases encoded with
  | halt | trap | useB | unknownExtended | branch | branchIfZero | branchIfPositive | device =>
    rfl
  | @add cell =>
    have sum : ∀ word : Nat, word ≤ 999 → (NumeralRange.signed 32).Holds (working + word) :=
      fun word bound => narrow (by omega) (by omega)
    simp [execute, Machine.execute, combine_eq words sum]
  | @subtract cell =>
    have difference : ∀ word : Nat, word ≤ 999 →
        (NumeralRange.signed 32).Holds (working - word) :=
      fun word bound => narrow (by omega) (by omega)
    simp [execute, Machine.execute, combine_eq words difference]
  | @store cell digits =>
    have inside : cell ≤ 999 := by omega
    simp [execute, Machine.execute, write_of_le inside small, setFlags_of_le small]
  | multiply =>
    have bound : machine.b * working ≤ 999 * 999 := Nat.mul_le_mul words.b small
    have product : (NumeralRange.signed 32).Holds ((machine.b : Int) * working) :=
      narrow (by omega) (by exact_mod_cast bound)
    simp [execute, Machine.execute, fit_of_holds product]
  | divide =>
    by_cases zero : working = 0
    · simp [execute, Machine.execute, zero]
    · simp [execute, Machine.execute, zero, quotient]
  | @load cell =>
    simp only [execute, Machine.execute]
    cases found : machine.memory.read cell with
    | error fault => rfl
    | ok word =>
      have bound := words.memory _ _ (Memory.read_eq_ok_iff.mp found)
      simp [setFlags_of_le bound, Except.map]
  | input =>
    simp only [execute, Machine.execute]
    rcases channel.ask world with ⟨fault | value, told⟩
    · rfl
    · by_cases inside : 0 ≤ value ∧ value ≤ 999
      · simp [inside]
      · simp [inside]
  | output =>
    simp only [execute, Machine.execute]
    rcases channel.tell working world with ⟨fault | accepted, told⟩
    · rfl
    · simp [setFlags_of_le small]

private theorem advance_of_le (inside : machine.pc ≤ 999) :
    advance machine = .ok machine.advance := by
  have next : (NumeralRange.unsigned 16).Holds ((machine.pc : Int) + 1) := by
    simp only [NumeralRange.Holds, NumeralRange.unsigned, Nat.pow_eq, Nat.reducePow]
    omega
  have same : (((machine.pc : Int) + 1) % 1000).toNat = (machine.pc + 1) % 1000 := by omega
  simp [advance, Machine.advance, fit_of_holds next, same]

private theorem complete_of_lt (few : machine.cycles < 2 ^ 64 - 1) (instruction : Instruction)
    (onB : Bool)
    (result : Nat) :
    complete machine instruction onB result = .ok (machine.complete instruction onB result) := by
  have counted : (machine.writeBack instruction onB result).cycles = machine.cycles := by
    unfold Machine.writeBack
    split <;> rfl
  have fits : (NumeralRange.unsigned 64).Holds ((machine.cycles : Int) + 1) := by
    simp only [NumeralRange.Holds, NumeralRange.unsigned, Nat.pow_eq, Nat.reducePow]
    omega
  have same : ((machine.cycles : Int) + 1).toNat = machine.cycles + 1 := by omega
  simp [complete, Machine.complete, counted, fit_of_holds fits, same]

private theorem cycle_eq (words : machine.HoldsWords) (few : machine.cycles < 2 ^ 64 - 1) :
    cycle channel machine world = .ok (machine.cycle channel world) := by
  cases found : machine.memory.read machine.pc with
  | error fault => simp [cycle, Machine.cycle, found]
  | ok word =>
    have mapped := Memory.read_eq_ok_iff.mp found
    -- An address beyond memory has been refused by now.
    have inside : machine.pc ≤ 999 := Memory.le_of_get mapped
    have advanced : machine.advance.HoldsWords := ⟨words.memory, words.acc, words.b⟩
    have performs : execute channel machine.advance world (.decode word) machine.working = _ :=
      execute_eq advanced words.working
        (Instruction.encodes_decode_of_le (words.memory _ _ mapped))
    simp only [cycle, Machine.cycle, found, advance_of_le inside, ok_bind, performs]
    cases performed : machine.advance.execute channel (.decode word) machine.working world with
    | mk outcome told =>
      cases outcome with
      | error fault => rfl
      | ok done =>
        obtain ⟨executed, result⟩ := done
        have cycles : executed.cycles = machine.cycles :=
          (congrArg Machine.cycles (Machine.execute_frame performed)).symm
        simp only [complete_of_lt (cycles ▸ few), ok_bind, pure_eq_ok]

end

section

variable {loading : Loading} {line : List Located}

private theorem define_eq {address : Nat} (inside : address ≤ 999) (value : Token)
    (extra : List Token) :
    define loading line address value extra = .ok (loading.define line address value extra) := by
  unfold define Loading.define
  cases extra with
  | cons => rfl
  | nil =>
    cases read : readWord .value value with
    | error fault => rfl
    | ok word =>
      have next : NumeralRange.Holds ⟨0, 1000⟩ ((address : Int) + 1) := by
        simp only [NumeralRange.Holds]
        omega
      by_cases mapped : loading.memory.isMapped address
      · simp [mapped]
      · simp [mapped, write_of_le inside (readWord_le read), fit_of_holds next]

private theorem loadLine_eq : loadLine loading line = .ok (loading.loadLine line) := by
  unfold loadLine Loading.loadLine
  match tokens line with
  | [] => rfl
  | [value] =>
    by_cases room : loading.next < 1000
    · simp [room, define_eq (Nat.le_of_lt_succ room)]
    · simp [room]
  | first :: value :: extra =>
    cases read : readWord .address first with
    | error fault => simp [read]
    | ok address => simp [read, define_eq (readWord_le read)]

private theorem loadLines_eq (lines : List (List Located)) :
    loadLines loading lines = .ok (loading.loadLines lines) := by
  induction lines generalizing loading with
  | nil => rfl
  | cons line rest ih =>
    rw [loadLines, loadLine_eq, Loading.loadLines]
    cases loading.loadLine line with
    | error fault => rfl
    | ok after => exact ih

private theorem load_eq (text : String) (memory : Memory) :
    load text memory = .ok (Program.load text memory) := by
  rw [load, loadLines_eq]
  rfl

end

private theorem cut_append {front : List Char} (single : ∀ c ∈ front, c.utf8Size = 1)
    (rest : List Char) :
    cut front.length (front ++ rest) = .ok (front, rest) := by
  induction front with
  | nil => cases rest <;> rfl
  | cons c front ih =>
    obtain ⟨first, others⟩ := List.forall_mem_cons.mp single
    have shorter : front.length + 1 - 1 = front.length := rfl
    simp [cut, first, shorter, ih others]

private theorem cut_line (entry : TraceEntry) :
    cut 3 entry.line.toList = .ok (entry.line.toList.take 3, entry.line.toList.drop 3) := by
  have single : ∀ c ∈ entry.line.toList, c.utf8Size = 1 := by
    intro c member
    rw [entry.toList_line, List.mem_append, List.mem_singleton] at member
    rcases member with inside | rfl
    · have plain := (entry.isPlain_pieces c inside).2
      exact Char.utf8Size_eq_one_iff.mpr (Nat.le_trans plain (by decide))
    · rfl
  have long : 3 ≤ entry.line.toList.length := by
    simp [entry.toList_line, TraceEntry.pieces]
    omega
  have front : ∀ c ∈ entry.line.toList.take 3, c.utf8Size = 1 :=
    fun c member => single c (List.mem_of_mem_take member)
  have whole := cut_append front (entry.line.toList.drop 3)
  rwa [List.length_take_of_le long, List.take_append_drop] at whole

private theorem traceText_eq (console : Console) (entry : TraceEntry) :
    traceText console entry = .ok (console.traceText entry) := by
  unfold traceText Console.traceText
  rw [cut_line]
  split <;> rfl

private theorem printTrace_eq (console : Console) (stream : Stream) (entry : TraceEntry) :
    printTrace console stream entry = .ok (console.printTrace stream entry) := by
  simp only [printTrace, traceText_eq]
  rfl

end Guarded

/-- No history of operations, with any channel, leads to a cycle or a load that leaves a bound, as
long as cycles can be counted. Nor does the printing of any trace line. -/
theorem reachable_within_bounds {World : Type} (channel : Channel World) {memory : Memory}
    (words : memory.HoldsWords) (world : World) (history : List Operation) :
    let (machine, world) := Operation.performAll channel ({ memory }, world) history
    (machine.cycles < 2 ^ 64 - 1 →
      Guarded.cycle channel machine world = .ok (machine.cycle channel world)) ∧
    (∀ text, Guarded.load text machine.memory = .ok (load text machine.memory)) ∧
    ∀ console stream entry,
      Guarded.printTrace console stream entry = .ok (console.printTrace stream entry) := by
  have sound : (Operation.performAll channel ({ memory }, world) history).1.Sound :=
    Operation.performAll_sound (.initial words) history
  exact ⟨Guarded.cycle_eq sound.words, fun text => Guarded.load_eq text _, Guarded.printTrace_eq⟩

/-- The largest product, at the end of memory and after a load that fails. -/
theorem reachable_within_bounds_at_largest_product :
    let memory := ((Memory.empty.write 0 401).write 1 510).write 2 510
    let history := [.load "10 999\n999 402\n1000 0", .resume 3, .setPc 999]
    let (machine, world) := Operation.performAll Queue.channel ({ memory }, ⟨[], #[]⟩) history
    memory.HoldsWords ∧ machine.b = 999 ∧ machine.acc = 999 ∧
      Guarded.cycle Queue.channel machine world = .ok (machine.cycle Queue.channel world) ∧
      (machine.cycle Queue.channel world).machine.acc = 1 := by
  intro memory history
  have words : memory.HoldsWords :=
    ((Memory.HoldsWords.empty.write 0 (by decide)).write 1 (by decide)).write 2 (by decide)
  have reached := reachable_within_bounds Queue.channel words ⟨[], #[]⟩ history
  exact ⟨words, by decide +kernel, by decide +kernel, reached.1 (by decide +kernel),
    by decide +kernel⟩

/-- A number beyond a word does leave a bound. -/
example (machine : Machine) (world : Queue) :
    Guarded.execute Queue.channel machine world .output 1000 = .error (.flags 1000) := rfl

end LittleMan
