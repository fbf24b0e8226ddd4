import LittleMan.Channel.Queue
import LittleMan.Proofs.RunEnds
import Mathlib.Algebra.BigOperators.Group.List.Basic
import Mathlib.Algebra.Ring.Int.Defs
import Mathlib.Data.List.Induction

/-! Additions and subtractions one after another. Each of them reduces its result to a word, but
only the last reduction shows: the accumulator holds the sum of all terms, in whatever order they
come. With the words from 500 read as negative numbers it is the exact sum wherever that fits. -/

namespace LittleMan

namespace Word

/-- The number that a word stands for if the words from 500 are negative. -/
def signed (word : Nat) : Int := if word < 500 then word else word - 1000

private theorem dvd_signed_sub (word : Nat) : (1000 : Int) ∣ signed word - word := by
  unfold signed
  split <;> omega

private theorem signed_eq {word : Nat} {value : Int} (small : word < 1000)
    (agrees : (1000 : Int) ∣ value - word) (low : -500 ≤ value) (high : value ≤ 499) :
    signed word = value := by
  unfold signed
  split <;> omega

private theorem signed_nonneg_iff {word : Nat} (small : word < 1000) :
    0 ≤ signed word ↔ word < 500 := by
  unfold signed
  split <;> omega

end Word

namespace Memory

structure Adds (memory : Memory) (word : Nat) : Prop where
  group : word / 100 = 1 ∨ word / 100 = 2
  mapped : memory.isMapped (word % 100) = true

def term (memory : Memory) (number : Nat → Int) (word : Nat) : Int :=
  let operand := number ((memory.get (word % 100)).getD 0)
  if word / 100 = 1 then operand else -operand

def total (memory : Memory) (number : Nat → Int) (words : List Nat) : Int :=
  (words.map (memory.term number)).sum

/-- Consecutive cells that hold words, the first cell after the last one. -/
def HoldsBlock (memory : Memory) (start : Nat) (words : List Nat) : Prop :=
  ∀ (index : Nat) word, words[index]? = some word →
    memory.get ((start + index) % 1000) = some word

def writeBlock (memory : Memory) (start : Nat) : List Nat → Memory
  | [] => memory
  | word :: rest => (memory.write (start % 1000) word).writeBlock (start + 1) rest

section

variable {memory other : Memory} {number : Nat → Int} {word start address : Nat}
  {words earlier permuted : List Nat}

theorem Adds.congr (adds : memory.Adds word)
    (same : other.get (word % 100) = memory.get (word % 100)) : other.Adds word := by
  refine ⟨adds.group, ?_⟩
  rw [isMapped, same]
  exact adds.mapped

private theorem total_concat (earlier : List Nat) (word : Nat) :
    memory.total number (earlier ++ [word]) =
      memory.total number earlier + memory.term number word := by
  simp [total]

private theorem total_perm (permutes : permuted.Perm words) :
    memory.total number permuted = memory.total number words :=
  (permutes.map _).sum_eq

private theorem total_congr
    (same : ∀ word ∈ words, other.get (word % 100) = memory.get (word % 100)) :
    other.total number words = memory.total number words := by
  apply congrArg List.sum
  apply List.map_congr_left
  intro word member
  simp only [term, same word member]

/-- Whether words are read as negative numbers does not show in the last three digits. -/
theorem dvd_total_sub (memory : Memory) (words : List Nat) :
    (1000 : Int) ∣ memory.total Word.signed words - memory.total Nat.cast words := by
  induction words with
  | nil => simp [total]
  | cons word rest ih =>
    have one := Word.dvd_signed_sub ((memory.get (word % 100)).getD 0)
    have first : (1000 : Int) ∣ memory.term Word.signed word - memory.term Nat.cast word := by
      unfold term
      dsimp only
      split <;> omega
    simp only [total, List.map_cons, List.sum_cons] at ih ⊢
    omega

private theorem get_writeBlock
    (outside : ∀ index < words.length, (start + index) % 1000 ≠ address) :
    (memory.writeBlock start words).get address = memory.get address := by
  induction words generalizing memory start with
  | nil => rfl
  | cons word rest ih =>
    have first : address ≠ start % 1000 := (outside 0 (Nat.succ_pos _)).symm
    have later : ∀ index < rest.length, (start + 1 + index) % 1000 ≠ address := by
      intro index inside
      rw [Nat.add_assoc, Nat.add_comm 1]
      exact outside (index + 1) (Nat.succ_lt_succ inside)
    rw [writeBlock, ih later, get_write, if_neg fun both => first both.1]

private theorem holdsBlock_writeBlock (memory : Memory) (start : Nat) (few : words.length ≤ 1000) :
    (memory.writeBlock start words).HoldsBlock start words := by
  induction words generalizing memory start with
  | nil => exact fun _ _ none => by cases none
  | cons word rest ih =>
    rw [List.length_cons] at few
    intro index found inside
    cases index with
    | zero =>
      cases inside
      have apart : ∀ index < rest.length, (start + 1 + index) % 1000 ≠ start % 1000 := by omega
      rw [Nat.add_zero, writeBlock, get_writeBlock apart, get_write,
        if_pos ⟨rfl, Nat.mod_lt _ (by decide)⟩]
    | succ index =>
      have held := ih (memory.write (start % 1000) word) (start + 1) (by omega) index found inside
      rwa [Nat.add_assoc, Nat.add_comm 1] at held

end

end Memory

namespace Machine

/-- The words that a number of cycles fetch one after another. -/
def Fetches {World : Type} (channel : Channel World) (machine : Machine) (world : World)
    (words : List Nat) : Prop :=
  ∀ (index : Nat) word, words[index]? = some word →
    let reached := (machine.cycleEach channel index world).machine
    reached.memory.get reached.pc = some word

/-- A machine after a number of cycles that add a sum to the accumulator. -/
structure AddsUp (machine final : Machine) (count : Nat) (sum : Int) : Prop where
  acc : (final.acc : Int) = (machine.acc + sum) % 1000
  flags : final.flags = ⟨final.acc = 0, final.acc < 500⟩
  pc : final.pc = (machine.pc + count) % 1000
  b : final.b = machine.b
  memory : final.memory = machine.memory
  useB : final.useB = machine.useB

section

variable {World : Type} (channel : Channel World) {machine middle final : Machine} (world : World)
  {word : Nat} {words : List Nat}

theorem AddsUp.trans {count more : Nat} {sum rest : Int} (one : machine.AddsUp middle count sum)
    (two : middle.AddsUp final more rest) : machine.AddsUp final (count + more) (sum + rest) where
  acc := by rw [two.acc, one.acc]; omega
  flags := two.flags
  pc := by rw [two.pc, one.pc]; omega
  b := two.b.trans one.b
  memory := two.memory.trans one.memory
  useB := two.useB.trans one.useB

private theorem execute_adds (adds : machine.memory.Adds word) :
    execute channel (.decode word) machine.acc machine.advance world =
      (.ok (machine.advance.settle (machine.acc + machine.memory.term Nat.cast word)), world) := by
  obtain ⟨operand, mapped⟩ := Option.isSome_iff_exists.mp adds.mapped
  have digits : word % 100 < 100 := Nat.mod_lt _ (by decide)
  have read : machine.advance.memory.read (word % 100) = .ok operand :=
    Memory.read_eq_ok_iff.mpr mapped
  have split := Nat.div_add_mod word 100
  unfold Memory.term
  rcases adds.group with group | group
  · rw [group] at split
    have decoded : Instruction.decode word = .add (word % 100) :=
      (congrArg Instruction.decode split.symm).trans (Encodes.add digits).decode
    rw [decoded, execute, combine, read, mapped, if_pos group]
    rfl
  · rw [group] at split
    have decoded : Instruction.decode word = .subtract (word % 100) :=
      (congrArg Instruction.decode split.symm).trans (Encodes.subtract digits).decode
    rw [decoded, execute, combine, read, mapped, if_neg (by omega)]
    rfl

private theorem cycle_addsUp (plain : machine.useB = false)
    (fetched : machine.memory.get machine.pc = some word) (adds : machine.memory.Adds word) :
    ∃ final last, machine.cycle channel world = ⟨.ok (), final, last⟩ ∧
      machine.AddsUp final 1 (machine.memory.term Nat.cast word) := by
  have works : machine.working = machine.acc := by
    rw [working, plain]
    rfl
  have performed := execute_adds channel world adds
  rw [← works] at performed
  refine ⟨_, _, cycle_of_executed (Memory.read_eq_ok_iff.mpr fetched) performed, ?_⟩
  have onA : ¬(machine.useB = true ∧ Instruction.decode word ≠ .useB) := by simp [plain]
  rw [complete, writeBack, if_neg onA, works]
  exact ⟨Int.toNat_of_nonneg (Int.emod_nonneg _ (by decide)), rfl, rfl, rfl, rfl, rfl⟩

private theorem cycleTimes_addsUp (machine : Machine) (plain : machine.useB = false)
    (inside : machine.pc ≤ 999) (block : machine.memory.HoldsBlock machine.pc words)
    (adds : ∀ word ∈ words, machine.memory.Adds word) (present : words ≠ []) :
    ∃ final last, machine.cycleTimes channel words.length world = ⟨.ok (), final, last⟩ ∧
      machine.AddsUp final words.length (machine.memory.total Nat.cast words) := by
  induction words using List.reverseRecOn with
  | nil => contradiction
  | append_singleton earlier word ih =>
    have last : machine.memory.get ((machine.pc + earlier.length) % 1000) = some word := by
      apply block
      simp
    have adding : machine.memory.Adds word := adds word (by simp)
    rw [Memory.total_concat, List.length_append, List.length_singleton]
    by_cases alone : earlier = []
    · subst alone
      rw [List.length_nil, Nat.add_zero, Nat.mod_eq_of_lt (by omega)] at last
      simpa [cycleTimes, Memory.total] using cycle_addsUp channel world plain last adding
    · have before : machine.memory.HoldsBlock machine.pc earlier := by
        intro index other found
        apply block
        rw [List.getElem?_append_left (List.getElem?_eq_some_iff.mp found).1, found]
      obtain ⟨middle, current, completed, sum⟩ :=
        ih before (fun other member => adds other (List.mem_append_left _ member)) alone
      rw [← sum.pc, ← sum.memory] at last
      rw [← sum.memory] at adding
      obtain ⟨final, told, stepped, one⟩ :=
        cycle_addsUp channel current (sum.useB.trans plain) last adding
      refine ⟨final, told, (cycleTimes_succ completed).trans stepped, ?_⟩
      rw [sum.memory] at one
      exact sum.trans one

variable {channel world} in
theorem Fetches.pc_le (fetches : machine.Fetches channel world words) (present : words ≠ []) :
    machine.pc ≤ 999 := by
  obtain ⟨word, rest, rfl⟩ := List.exists_cons_of_ne_nil present
  exact Memory.le_of_get (fetches 0 word rfl)

variable {channel world} in
theorem Fetches.holdsBlock (plain : machine.useB = false)
    (fetches : machine.Fetches channel world words)
    (adds : ∀ word ∈ words, machine.memory.Adds word) :
    machine.memory.HoldsBlock machine.pc words := by
  intro index
  -- The cycles before the one with this index run through a block that is shorter.
  induction index using Nat.strongRecOn with
  | ind index ih =>
    intro word found
    have present : words ≠ [] := by
      rintro rfl
      cases found
    have inside : machine.pc ≤ 999 := fetches.pc_le present
    have reached := fetches index word found
    by_cases first : index = 0
    · subst first
      rwa [Nat.add_zero, Nat.mod_eq_of_lt (Nat.lt_succ_of_le inside)]
    · have short : (words.take index).length = index :=
        List.length_take_of_le (Nat.le_of_lt (List.getElem?_eq_some_iff.mp found).1)
      have block : machine.memory.HoldsBlock machine.pc (words.take index) := by
        intro before other held
        rw [List.getElem?_take] at held
        split at held
        next earlier => exact ih before earlier other held
        next => cases held
      have adding : ∀ other ∈ words.take index, machine.memory.Adds other :=
        fun other member => adds other (List.mem_of_mem_take member)
      have begun : words.take index ≠ [] := List.ne_nil_of_length_pos (by omega)
      obtain ⟨middle, current, completed, sum⟩ :=
        cycleTimes_addsUp channel world machine plain inside block adding begun
      rw [short] at completed sum
      dsimp only at reached
      rwa [(cycleEach_of_cycleTimes completed).1, sum.memory, sum.pc] at reached

theorem AddsUp.signed {count : Nat} {sum value : Int} (adds : machine.AddsUp final count sum)
    (low : -500 ≤ value) (high : value ≤ 499)
    (agrees : (1000 : Int) ∣ value - (machine.acc + sum)) :
    Word.signed final.acc = value ∧ (final.flags.positive = true ↔ 0 ≤ value) := by
  have acc := adds.acc
  have small : final.acc < 1000 := by omega
  have stands : Word.signed final.acc = value := Word.signed_eq small (by omega) low high
  refine ⟨stands, ?_⟩
  rw [← stands, Word.signed_nonneg_iff small, adds.flags]
  simp

private theorem cycle_branchIfPositive {target : Nat} (digits : target < 100)
    (fetched : machine.memory.get machine.pc = some (800 + target)) :
    ∃ jumped told, machine.cycle channel world = ⟨.ok (), jumped, told⟩ ∧
      jumped.pc = if machine.flags.positive then target else (machine.pc + 1) % 1000 := by
  have performed : execute channel (.decode (800 + target)) machine.working machine.advance world =
      (.ok (if machine.flags.positive then { machine.advance with pc := target }
        else machine.advance, machine.working), world) := by
    rw [(Encodes.branchIfPositive digits).decode]
    rfl
  refine ⟨_, _, cycle_of_executed (Memory.read_eq_ok_iff.mpr fetched) performed, ?_⟩
  rw [complete_pc]
  split <;> rfl

/-- The words of a block may change places if none of them is an operand. -/
theorem cycleTimes_permuted {permuted : List Nat} (plain : machine.useB = false)
    (inside : machine.pc ≤ 999) (adds : ∀ word ∈ words, machine.memory.Adds word)
    (present : words ≠ []) (permutes : permuted.Perm words) (few : words.length ≤ 1000)
    (apart : ∀ index < words.length, ∀ word ∈ words, (machine.pc + index) % 1000 ≠ word % 100) :
    let other := { machine with memory := machine.memory.writeBlock machine.pc permuted }
    ∃ final last, other.cycleTimes channel words.length world = ⟨.ok (), final, last⟩ ∧
      other.AddsUp final words.length (machine.memory.total Nat.cast words) := by
  intro other
  have long := permutes.length_eq
  have operands : ∀ word ∈ permuted,
      other.memory.get (word % 100) = machine.memory.get (word % 100) := by
    intro word member
    apply Memory.get_writeBlock
    intro index inside
    exact apart index (long ▸ inside) word (permutes.mem_iff.mp member)
  have adding : ∀ word ∈ permuted, other.memory.Adds word :=
    fun word member => (adds word (permutes.mem_iff.mp member)).congr (operands word member)
  have held : other.memory.HoldsBlock other.pc permuted :=
    Memory.holdsBlock_writeBlock _ _ (long ▸ few)
  have nonempty : permuted ≠ [] := by
    apply List.ne_nil_of_length_pos
    rw [long]
    exact List.length_pos_of_ne_nil present
  have ended := cycleTimes_addsUp channel world other plain inside held adding nonempty
  rwa [Memory.total_congr operands, Memory.total_perm permutes, long] at ended

private theorem cycleTimes_compares {cell operand target : Nat} (plain : machine.useB = false)
    (digits : cell < 100) (target_lt : target < 100)
    (fetched : machine.memory.get machine.pc = some (200 + cell))
    (mapped : machine.memory.get cell = some operand)
    (branches : machine.memory.get ((machine.pc + 1) % 1000) = some (800 + target))
    (low : -500 ≤ Word.signed machine.acc - Word.signed operand)
    (high : Word.signed machine.acc - Word.signed operand ≤ 499) :
    ∃ final last, machine.cycleTimes channel 2 world = ⟨.ok (), final, last⟩ ∧
      final.pc = if Word.signed operand ≤ Word.signed machine.acc then target
        else (machine.pc + 2) % 1000 := by
  have own : (200 + cell) % 100 = cell := by omega
  have group : (200 + cell) / 100 = 2 := by omega
  have adds : machine.memory.Adds (200 + cell) :=
    ⟨.inr group, by rw [own, Memory.isMapped, mapped]; rfl⟩
  have term : machine.memory.term Nat.cast (200 + cell) = -operand := by
    simp [Memory.term, own, group, mapped]
  obtain ⟨middle, current, subtracted, sum⟩ :=
    cycle_addsUp channel world plain fetched adds
  rw [term] at sum
  have first := Word.dvd_signed_sub machine.acc
  have second := Word.dvd_signed_sub operand
  obtain ⟨-, positive⟩ := sum.signed low high (by omega)
  rw [← sum.pc, ← sum.memory] at branches
  obtain ⟨final, last, stepped, pc⟩ :=
    cycle_branchIfPositive channel current target_lt branches
  have next : (middle.pc + 1) % 1000 = (machine.pc + 2) % 1000 := by
    rw [sum.pc]
    omega
  have once : machine.cycleTimes channel 1 world = ⟨.ok (), middle, current⟩ := subtracted
  refine ⟨final, last, (cycleTimes_succ once).trans stepped, ?_⟩
  simp only [pc, positive, next, Int.sub_nonneg]

end

/-- Consecutive additions and subtractions complete and leave their sum, whatever order their words
stand in, and they compare numbers in ten's complement. -/
theorem block_adds_up {World : Type} (channel : Channel World) (machine : Machine) (world : World)
    (plain : machine.useB = false) :
    (∀ words, words ≠ [] → machine.Fetches channel world words →
      (∀ word ∈ words, machine.memory.Adds word) →
      ∃ final last, machine.cycleTimes channel words.length world = ⟨.ok (), final, last⟩ ∧
        machine.AddsUp final words.length (machine.memory.total Nat.cast words) ∧
        (∀ permuted : List Nat, permuted.Perm words → words.length ≤ 1000 →
          (∀ index < words.length, ∀ word ∈ words, (machine.pc + index) % 1000 ≠ word % 100) →
          let memory := machine.memory.writeBlock machine.pc permuted
          ∃ other told,
            cycleTimes channel words.length { machine with memory := memory } world =
              ⟨.ok (), other, told⟩ ∧
            other.acc = final.acc ∧ other.flags = final.flags ∧ other.b = final.b ∧
              other.pc = final.pc) ∧
        ∀ value, value = Word.signed machine.acc + machine.memory.total Word.signed words →
          -500 ≤ value → value ≤ 499 → Word.signed final.acc = value ∧
            ∀ target < 100, final.memory.get final.pc = some (800 + target) →
              ∃ jumped told, final.cycle channel last = ⟨.ok (), jumped, told⟩ ∧
                jumped.pc = if 0 ≤ value then target else (final.pc + 1) % 1000) ∧
    ∀ cell operand target, cell < 100 → target < 100 →
      machine.memory.get machine.pc = some (200 + cell) →
      machine.memory.get cell = some operand →
      machine.memory.get ((machine.pc + 1) % 1000) = some (800 + target) →
      -500 ≤ Word.signed machine.acc - Word.signed operand →
      Word.signed machine.acc - Word.signed operand ≤ 499 →
      ∃ final last, machine.cycleTimes channel 2 world = ⟨.ok (), final, last⟩ ∧
        final.pc = if Word.signed operand ≤ Word.signed machine.acc then target
          else (machine.pc + 2) % 1000 := by
  constructor
  · intro words present fetches adds
    have inside := fetches.pc_le present
    have block := fetches.holdsBlock plain adds
    obtain ⟨final, last, completed, sum⟩ :=
      cycleTimes_addsUp channel world machine plain inside block adds present
    refine ⟨final, last, completed, sum, ?_, ?_⟩
    · intro permuted permutes few apart memory
      obtain ⟨other, told, ended, again⟩ :=
        cycleTimes_permuted channel world plain inside adds present permutes few apart
      have acc : other.acc = final.acc := Int.natCast_inj.mp (again.acc.trans sum.acc.symm)
      refine ⟨other, told, ended, acc, ?_, again.b.trans sum.b.symm, again.pc.trans sum.pc.symm⟩
      rw [again.flags, sum.flags, acc]
    · intro value whole low high
      have first := Word.dvd_signed_sub machine.acc
      have others := machine.memory.dvd_total_sub words
      obtain ⟨stands, positive⟩ := sum.signed low high (by omega)
      refine ⟨stands, ?_⟩
      intro target digits branches
      obtain ⟨jumped, told, stepped, pc⟩ :=
        cycle_branchIfPositive channel last digits branches
      refine ⟨jumped, told, stepped, ?_⟩
      simp only [pc, positive]
  · intro cell operand target digits target_lt fetched mapped branches low high
    exact cycleTimes_compares channel world plain digits target_lt fetched mapped branches low high

/-- Around the last cell, through negative numbers, with the words of the block in another order. -/
theorem block_adds_up_around_last_cell :
    let block := ((Memory.empty.write 998 210).write 999 211).write 0 112
    let memory := (((block.write 1 807).write 10 300).write 11 999).write 12 150
    let machine : Machine := { memory, pc := 998, acc := 100 }
    let queue : Queue := ⟨[], #[]⟩
    ∃ final last, machine.cycleTimes Queue.channel 3 queue = ⟨.ok (), final, last⟩ ∧
      (final.acc : Int) = 951 ∧ Word.signed final.acc = -49 ∧
      (∃ jumped told, final.cycle Queue.channel last = ⟨.ok (), jumped, told⟩ ∧ jumped.pc = 2) ∧
      ∃ other told, cycleTimes Queue.channel 3
        { machine with memory := memory.writeBlock 998 [112, 210, 211] } queue =
          ⟨.ok (), other, told⟩ ∧ other.acc = final.acc := by
  intro block memory machine queue
  have fetches : machine.Fetches Queue.channel queue [210, 211, 112] := by
    intro index word found
    match index, found with
    | 0, rfl | 1, rfl | 2, rfl => decide +kernel
  have groups : ∀ word ∈ [210, 211, 112], word / 100 = 1 ∨ word / 100 = 2 := by decide
  have mapped : ∀ word ∈ [210, 211, 112], memory.isMapped (word % 100) = true := by decide +kernel
  have adds : ∀ word ∈ [210, 211, 112], machine.memory.Adds word :=
    fun word member => ⟨groups word member, mapped word member⟩
  obtain ⟨blocks, -⟩ := block_adds_up Queue.channel machine queue rfl
  obtain ⟨final, last, completed, sum, permuted, signed⟩ := blocks _ (by simp) fetches adds
  have acc : (final.acc : Int) = 951 := by
    rw [sum.acc]
    decide +kernel
  have pc : final.pc = 1 := by
    simp [sum.pc, machine]
  obtain ⟨stands, branch⟩ := signed (-49) (by decide +kernel) (by decide) (by decide)
  obtain ⟨jumped, told, stepped, stays⟩ := branch 7 (by decide) (by
    rw [pc, sum.memory]
    decide +kernel)
  obtain ⟨other, heard, ended, same, -⟩ :=
    permuted [112, 210, 211] (by decide) (by decide) (by decide)
  refine ⟨final, last, completed, acc, stands, ⟨jumped, told, stepped, ?_⟩, other, heard, ended,
    same⟩
  rw [stays, pc]
  rfl

end Machine

end LittleMan
