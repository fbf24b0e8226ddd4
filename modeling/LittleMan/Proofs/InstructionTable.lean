import LittleMan.Channel.Queue
import LittleMan.Proofs.CycleFrame

/-! The instruction table: what each word does to a machine. -/

namespace LittleMan

/-- What an instruction does, apart from choosing the register for its result. -/
structure Effect where
  result : Nat
  /-- Whether the flags describe the result from now on. -/
  describes : Bool := false
  /-- The cell that takes the working value. -/
  stored : Option Nat := none
  /-- Where to continue if not at the next address. -/
  target : Option Nat := none
  halts : Bool := false
  selectsB : Bool := false

namespace Machine

/-- A word has a row when the machine and the channel let it complete. The rows leave open
nothing but what the channel answers. -/
inductive Row {World : Type} (channel : Channel World) (machine : Machine) (working : Nat)
    (world : World) : Nat → Effect → World → Prop where
  | halt : Row channel machine working world 0 { result := working, halts := true } world
  | add {cell word : Nat} (digits : cell < 100) (mapped : machine.memory.get cell = some word) :
      Row channel machine working world (100 + cell)
        { result := (working + word) % 1000, describes := true } world
  | subtract {cell word : Nat} (digits : cell < 100)
      (mapped : machine.memory.get cell = some word) :
      Row channel machine working world (200 + cell)
        { result := ((working - word : Int) % 1000).toNat, describes := true } world
  | store {cell : Nat} (digits : cell < 100) :
      Row channel machine working world (300 + cell)
        { result := working, describes := true, stored := some cell } world
  | useB : Row channel machine working world 401 { result := working, selectsB := true } world
  | multiply :
      Row channel machine working world 402
        { result := machine.b * working % 1000, describes := true } world
  | divide (divisor : working ≠ 0) :
      Row channel machine working world 403
        { result := machine.b / working, describes := true } world
  | load {cell word : Nat} (digits : cell < 100) (mapped : machine.memory.get cell = some word) :
      Row channel machine working world (500 + cell) { result := word, describes := true } world
  | branch {target : Nat} (digits : target < 100) :
      Row channel machine working world (600 + target)
        { result := working, target := some target } world
  | branchIfZero {target : Nat} (digits : target < 100) :
      Row channel machine working world (700 + target)
        { result := working
          target := if machine.flags.zero then some target else none } world
  | branchIfPositive {target : Nat} (digits : target < 100) :
      Row channel machine working world (800 + target)
        { result := working
          target := if machine.flags.positive then some target else none } world
  | input {value : Nat} {told : World} (small : value ≤ 999)
      (answered : channel.read
        (if channel.inputInteractive world then channel.prompt "in? " world else world) =
          (.ok (value : Int), told)) :
      Row channel machine working world 901 { result := value, describes := true } told
  | output {told : World}
      (accepted : channel.write working
        (if channel.outputInteractive world then channel.prompt "out=" world else world) =
          (.ok (), told)) :
      Row channel machine working world 902 { result := working, describes := true } told
  | device {operand value : Nat} {told : World} (free : operand = 0 ∨ 2 < operand)
      (digits : operand < 100)
      (answered : channel.device operand working world = (some (.ok value), told)) :
      Row channel machine working world (900 + operand) { result := value % 1000 } told

/-- A machine after a completed cycle. The result goes to B if B was selected, except that the
word which selects B has its result in the accumulator. -/
structure Completion (machine : Machine) (word : Nat) (effect : Effect) (final : Machine) :
    Prop where
  memory (address : Nat) : final.memory.get address =
    if effect.stored = some address then some (if machine.useB then machine.b else machine.acc)
    else machine.memory.get address
  pc : final.pc = effect.target.getD ((machine.pc + 1) % 1000)
  acc : final.acc = if machine.useB ∧ word ≠ 401 then machine.acc else effect.result
  b : final.b = if machine.useB ∧ word ≠ 401 then effect.result else machine.b
  flags : final.flags =
    if effect.describes then ⟨effect.result = 0, effect.result < 500⟩ else machine.flags
  useB : final.useB = effect.selectsB
  halted : final.halted = (machine.halted || effect.halts)
  cycles : final.cycles = machine.cycles + 1
  trace : final.trace = machine.trace
  maxCycles : final.maxCycles = machine.maxCycles

/-- The machine with all of an effect except its result. -/
def undergo (machine : Machine) (effect : Effect) : Machine :=
  { machine with
    memory := match effect.stored with
      | some cell => machine.memory.write cell machine.working
      | none => machine.memory
    pc := effect.target.getD ((machine.pc + 1) % 1000)
    flags := if effect.describes then ⟨effect.result = 0, effect.result < 500⟩
      else machine.flags
    useB := machine.useB || effect.selectsB
    halted := machine.halted || effect.halts }

def after (machine : Machine) (word : Nat) (effect : Effect) : Machine :=
  let changed := machine.undergo effect
  if machine.useB ∧ word ≠ 401 then
    { changed with b := effect.result, useB := false, cycles := machine.cycles + 1 }
  else { changed with acc := effect.result, cycles := machine.cycles + 1 }

section

variable {World : Type} {channel : Channel World} {machine : Machine} {world told : World}

private theorem complete_undergo {word : Nat} {instruction : Instruction}
    (encoded : Encodes word instruction) (effect : Effect) :
    (machine.undergo effect).complete instruction machine.useB effect.result =
      machine.after word effect := by
  have selects : instruction = .useB ↔ word = 401 := by
    cases encoded <;> simp <;> omega
  by_cases redirected : machine.useB ∧ word ≠ 401
  · simp [complete, writeBack, after, undergo, selects, redirected]
  · simp only [complete, writeBack, after, ne_eq, selects, if_neg redirected]
    rfl

private theorem describe (machine : Machine) (result : Nat) :
    { machine.advance with flags := Flags.of result } =
      machine.undergo { result := result, describes := true } := by
  simp [undergo, advance, Flags.of]

private theorem settle_advance (machine : Machine) (value : Int) :
    machine.advance.settle value =
      (machine.undergo { result := Word.truncate value, describes := true },
        Word.truncate value) := by
  rw [← describe]
  rfl

theorem Row.execute {word : Nat} {effect : Effect} (words : machine.HoldsWords)
    (row : Row channel machine machine.working world word effect told) :
    execute channel (.decode word) machine.working machine.advance world =
      (.ok (machine.undergo effect, effect.result), told) := by
  cases row with
  | halt => simp [Encodes.decode .halt, Machine.execute, undergo, advance]
  | @add cell word digits mapped =>
    have found : machine.advance.memory.read cell = .ok word := Memory.read_eq_ok_iff.mpr mapped
    have sum : Word.truncate (machine.working + word) = (machine.working + word) % 1000 :=
      Word.truncate_natCast _
    simp only [Encodes.decode (.add digits), Machine.execute, combine, found, Except.map,
      settle_advance, sum]
  | @subtract cell word digits mapped =>
    have found : machine.advance.memory.read cell = .ok word := Memory.read_eq_ok_iff.mpr mapped
    simp only [Encodes.decode (.subtract digits), Machine.execute, combine, found, Except.map,
      settle_advance, Word.truncate]
  | store digits =>
    simp [Encodes.decode (.store digits), Machine.execute, undergo, advance, Flags.of]
  | useB => simp [Encodes.decode .useB, Machine.execute, undergo, advance]
  | multiply =>
    have product : Word.truncate (machine.b * machine.working) =
        machine.b * machine.working % 1000 := Word.truncate_natCast _
    have same : machine.advance.b = machine.b := rfl
    simp only [Encodes.decode .multiply, Machine.execute, settle_advance, same, product]
  | divide divisor =>
    have small : machine.b / machine.working < 1000 :=
      Nat.lt_of_le_of_lt (Nat.div_le_self _ _) (Nat.lt_succ_of_le words.b)
    have same : machine.advance.b = machine.b := rfl
    simp only [Encodes.decode .divide, Machine.execute, if_neg divisor, settle_advance, same,
      Word.truncate_of_lt small]
  | @load cell word digits mapped =>
    have found : machine.advance.memory.read cell = .ok word := Memory.read_eq_ok_iff.mpr mapped
    simp only [Encodes.decode (.load digits), Machine.execute, found, Except.map, describe]
  | branch digits =>
    simp [Encodes.decode (.branch digits), Machine.execute, jump, undergo, advance]
  | branchIfZero digits =>
    rw [Encodes.decode (.branchIfZero digits)]
    cases zero : machine.flags.zero <;>
      simp [Machine.execute, jump, undergo, advance, zero]
  | branchIfPositive digits =>
    rw [Encodes.decode (.branchIfPositive digits)]
    cases positive : machine.flags.positive <;>
      simp [Machine.execute, jump, undergo, advance, positive]
  | @input value told small answered =>
    have inside : (0 : Int) ≤ value ∧ (value : Int) ≤ 999 := by omega
    simp only [Encodes.decode .input, Machine.execute, Channel.ask, answered, if_pos inside,
      settle_advance, Word.truncate_of_lt (Nat.lt_succ_of_le small)]
  | output accepted =>
    simp only [Encodes.decode .output, Machine.execute, Channel.tell, accepted, describe]
  | @device operand value told free digits answered =>
    simp only [Encodes.decode (.device free digits), Machine.execute, answered,
      Word.truncate_natCast]
    simp [undergo, advance]

private theorem mapped_of_map {α : Type} {memory : Memory} {cell : Nat} {use : Nat → α}
    {outcome : α} (used : (memory.read cell).map use = .ok outcome) :
    ∃ word, memory.get cell = some word := by
  cases found : memory.get cell with
  | none => simp [Memory.read, found, Except.map] at used
  | some word => exact ⟨word, rfl⟩

theorem Row.of_execute {word : Nat} {instruction : Instruction} {executed : Machine}
    {result : Nat} (encoded : Encodes word instruction)
    (performed : Machine.execute channel instruction machine.working machine.advance world =
      (.ok (executed, result), told)) :
    ∃ effect, Row channel machine machine.working world word effect told := by
  cases encoded with
  | trap | unknownExtended => cases performed
  | halt =>
    cases performed
    exact ⟨_, .halt⟩
  | add digits =>
    obtain ⟨used, rfl⟩ := Prod.mk.inj performed
    obtain ⟨word, mapped⟩ := mapped_of_map used
    exact ⟨_, .add digits mapped⟩
  | subtract digits =>
    obtain ⟨used, rfl⟩ := Prod.mk.inj performed
    obtain ⟨word, mapped⟩ := mapped_of_map used
    exact ⟨_, .subtract digits mapped⟩
  | store digits =>
    cases performed
    exact ⟨_, .store digits⟩
  | useB =>
    cases performed
    exact ⟨_, .useB⟩
  | multiply =>
    cases performed
    exact ⟨_, .multiply⟩
  | divide =>
    by_cases zero : machine.working = 0
    · simp [Machine.execute, zero] at performed
    · simp only [Machine.execute, if_neg zero] at performed
      cases performed
      exact ⟨_, .divide zero⟩
  | load digits =>
    obtain ⟨used, rfl⟩ := Prod.mk.inj performed
    obtain ⟨word, mapped⟩ := mapped_of_map used
    exact ⟨_, .load digits mapped⟩
  | branch digits =>
    cases performed
    exact ⟨_, .branch digits⟩
  | branchIfZero digits =>
    obtain ⟨-, rfl⟩ := Prod.mk.inj performed
    exact ⟨_, .branchIfZero digits⟩
  | branchIfPositive digits =>
    obtain ⟨-, rfl⟩ := Prod.mk.inj performed
    exact ⟨_, .branchIfPositive digits⟩
  | input =>
    simp only [Machine.execute] at performed
    split at performed
    · cases performed
    next value told answered =>
      split at performed
      next inside =>
        obtain ⟨value, rfl⟩ := Int.eq_ofNat_of_zero_le inside.1
        cases performed
        exact ⟨_, .input (by omega) answered⟩
      next => cases performed
  | output =>
    simp only [Machine.execute] at performed
    split at performed
    · cases performed
    next accepted =>
      cases performed
      exact ⟨_, .output accepted⟩
  | device free digits =>
    simp only [Machine.execute] at performed
    split at performed
    · cases performed
    · cases performed
    next answered =>
      cases performed
      exact ⟨_, .device free digits answered⟩

theorem Row.result_le {word : Nat} {effect : Effect} (words : machine.HoldsWords)
    (row : Row channel machine machine.working world word effect told) : effect.result ≤ 999 := by
  have working := words.working
  cases row with
  | halt | store | useB | branch | branchIfZero | branchIfPositive | output => exact working
  | add | subtract | multiply | device =>
    dsimp only
    omega
  | divide => exact Nat.le_trans (Nat.div_le_self _ _) words.b
  | load digits mapped => exact words.memory _ _ mapped
  | input small answered => exact small

theorem Row.cycle {word : Nat} {effect : Effect} (words : machine.HoldsWords)
    (fetched : machine.memory.get machine.pc = some word)
    (row : Row channel machine machine.working world word effect told) :
    machine.cycle channel world = ⟨.ok (), machine.after word effect,
      showCycle channel machine.pc word (machine.after word effect) told⟩ := by
  have encoded := Instruction.encodes_decode_of_le (words.memory _ _ fetched)
  rw [cycle_of_executed (Memory.read_eq_ok_iff.mpr fetched) (row.execute words)]
  simp only [complete_undergo encoded]

theorem Row.of_cycle (words : machine.HoldsWords) {final : Machine} {last : World}
    (completed : machine.cycle channel world = ⟨.ok (), final, last⟩) :
    ∃ word effect told, machine.memory.get machine.pc = some word ∧
      Row channel machine machine.working world word effect told := by
  obtain ⟨fault, -, failed⟩ | ⟨word, fault, after, -, -, failed⟩ |
    ⟨word, executed, result, told, fetched, performed, -⟩ := cycle_cases channel machine world
  · rw [failed] at completed
    cases completed
  · rw [failed] at completed
    cases completed
  · have fetched := Memory.read_eq_ok_iff.mp fetched
    have encoded := Instruction.encodes_decode_of_le (words.memory _ _ fetched)
    obtain ⟨effect, row⟩ := Row.of_execute encoded performed
    exact ⟨word, effect, told, fetched, row⟩

private theorem Row.stored_lt {word cell : Nat} {effect : Effect}
    (row : Row channel machine machine.working world word effect told)
    (stored : effect.stored = some cell) : cell < 100 := by
  cases row with
  | store digits =>
    cases stored
    exact digits
  | _ => cases stored

private theorem Row.selectsB_eq {word : Nat} {effect : Effect}
    (row : Row channel machine machine.working world word effect told) :
    effect.selectsB = decide (word = 401) := by
  cases row <;> simp <;> omega

theorem Row.completion {word : Nat} {effect : Effect}
    (row : Row channel machine machine.working world word effect told) :
    Completion machine word effect (machine.after word effect) := by
  have memory (address : Nat) : (machine.undergo effect).memory.get address =
      if effect.stored = some address then some machine.working
      else machine.memory.get address := by
    cases stored : effect.stored with
    | none => simp [undergo, stored]
    | some cell =>
      have inside := row.stored_lt stored
      simp only [undergo, stored, Memory.get_write, Option.some.injEq]
      split <;> split <;> first | rfl | omega
  have selects := row.selectsB_eq
  by_cases redirected : machine.useB ∧ word ≠ 401
  · rw [after, if_pos redirected]
    rw [decide_eq_false redirected.2] at selects
    exact ⟨memory, rfl, (if_pos redirected).symm, (if_pos redirected).symm, rfl, selects.symm,
      rfl, rfl, rfl, rfl⟩
  · rw [after, if_neg redirected]
    have useB : (machine.useB || effect.selectsB) = effect.selectsB := by
      rw [selects]
      cases onB : machine.useB with
      | false => rfl
      | true => simpa [onB] using redirected
    exact ⟨memory, rfl, (if_neg redirected).symm, (if_neg redirected).symm, rfl, useB,
      rfl, rfl, rfl, rfl⟩

theorem Completion.unique {word : Nat} {effect : Effect} {first second : Machine}
    (one : Completion machine word effect first)
    (other : Completion machine word effect second) : first = second := by
  apply Machine.ext
  · exact Memory.ext_get fun address => (one.memory address).trans (other.memory address).symm
  · exact one.pc.trans other.pc.symm
  · exact one.acc.trans other.acc.symm
  · exact one.b.trans other.b.symm
  · exact one.flags.trans other.flags.symm
  · exact one.useB.trans other.useB.symm
  · exact one.halted.trans other.halted.symm
  · exact one.cycles.trans other.cycles.symm
  · exact one.trace.trans other.trace.symm
  · exact one.maxCycles.trans other.maxCycles.symm

/-- A cycle completes exactly where the table has a row for the fetched word, and then it
does what the row says and nothing else. -/
theorem cycle_completes_iff (words : machine.HoldsWords) {final : Machine} {last : World} :
    machine.cycle channel world = ⟨.ok (), final, last⟩ ↔
      ∃ word effect told, machine.memory.get machine.pc = some word ∧
        Row channel machine (if machine.useB then machine.b else machine.acc) world word effect
          told ∧
        Completion machine word effect final ∧
        last = if final.trace then
            channel.trace ⟨machine.pc, word, .decode word, final.acc, final.b, final.flags,
              final.useB⟩ told
          else told := by
  constructor
  · intro completed
    obtain ⟨word, effect, told, fetched, row⟩ := Row.of_cycle words completed
    rw [row.cycle words fetched] at completed
    cases completed
    exact ⟨word, effect, told, fetched, row, row.completion, rfl⟩
  · intro ⟨word, effect, told, fetched, row, done, shown⟩
    have same := done.unique row.completion
    subst same shown
    exact row.cycle words fetched

end

/-- On B, in the last cell: the product of B with itself, after which A is selected. -/
theorem cycle_multiplies_b :
    let memory := Memory.empty.write 999 402
    let machine : Machine := { memory, pc := 999, acc := 7, b := 999, useB := true }
    machine.HoldsWords ∧ machine.cycle Queue.channel ⟨[], #[]⟩ =
      ⟨.ok (), { memory, pc := 0, acc := 7, b := 1, flags := ⟨false, true⟩, cycles := 1 },
        ⟨[], #[]⟩⟩ := by
  intro memory machine
  have words : machine.HoldsWords :=
    ⟨Memory.HoldsWords.empty.write 999 (by decide), by decide, by decide⟩
  have fetched : machine.memory.get machine.pc = some 402 := by
    simp [machine, memory, Memory.get_write]
  refine ⟨words, (cycle_completes_iff words).mpr ⟨402, _, _, fetched, .multiply, ?_, rfl⟩⟩
  have square : machine.b * (if machine.useB then machine.b else machine.acc) % 1000 = 1 := by
    simp [machine]
  have wrapped : (machine.pc + 1) % 1000 = 0 := by simp [machine]
  rw [square]
  exact ⟨fun _ => (if_neg nofun).symm, wrapped.symm, rfl, rfl, rfl, rfl, rfl, rfl, rfl, rfl⟩

end Machine

end LittleMan
