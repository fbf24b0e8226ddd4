import LittleMan.Channel.Bench
import LittleMan.Proofs.CycleFrame
import LittleMan.Proofs.ReportTexts

/-! The faults of a cycle, read off the fetched word. What a word can fail for is a cell that holds
nothing, a zero divisor, an answer of the channel, or that it means nothing at all; the last of
these is reported with the word itself. -/

namespace LittleMan

namespace Machine

section

variable {World : Type} (channel : Channel World) (machine : Machine) (working : Nat)
  (world : World)

inductive Unknown : Nat → Fault → Prop where
  | trap {operand : Nat} (assigned : 0 < operand) (digits : operand < 100) :
      Unknown operand (.unknownTrap operand)
  | extended {operand : Nat} (free : operand = 0 ∨ 3 < operand) (digits : operand < 100) :
      Unknown (400 + operand) (.unknownExtended operand)
  | device {operand : Nat} {told : World} (free : operand = 0 ∨ 2 < operand)
      (digits : operand < 100)
      (absent : channel.device operand working world = (none, told)) :
      Unknown (900 + operand) (.unknownDevice operand)

inductive Refuses : Nat → Fault → Prop where
  | unknown {word : Nat} {fault : Fault} (unknown : Unknown channel working world word fault) :
      Refuses word fault
  | unmapped {group cell : Nat} (reads : group = 100 ∨ group = 200 ∨ group = 500)
      (digits : cell < 100) (unmapped : machine.memory.get cell = none) :
      Refuses (group + cell) (.unmappedMemory cell)
  | divisor (zero : working = 0) : Refuses 403 (.divisionByZero machine.b)
  | read {fault : Fault} {told : World}
      (failed : channel.read
        (if channel.inputInteractive world then channel.prompt "in? " world else world) =
          (.error fault, told)) : Refuses 901 fault
  | range {value : Int} {told : World}
      (taken : channel.read
        (if channel.inputInteractive world then channel.prompt "in? " world else world) =
          (.ok value, told))
      (outside : value < 0 ∨ 999 < value) : Refuses 901 (.inputOutOfRange value)
  | write {fault : Fault} {told : World}
      (failed : channel.write working
        (if channel.outputInteractive world then channel.prompt "out=" world else world) =
          (.error fault, told)) : Refuses 902 fault
  | device {operand : Nat} {fault : Fault} {told : World} (free : operand = 0 ∨ 2 < operand)
      (digits : operand < 100)
      (failed : channel.device operand working world = (some (.error fault), told)) :
      Refuses (900 + operand) fault

inductive Fails : Fault → Prop where
  | fetch (unfetched : machine.memory.get machine.pc = none ∨ 999 < machine.pc) :
      Fails (.unmappedMemory machine.pc)
  | execute {word : Nat} {fault : Fault} (fetched : machine.memory.get machine.pc = some word)
      (refuses : Refuses channel machine working world word fault) : Fails fault

def CallsUnknown (fault : Fault) (word : Nat) : Prop :=
  ∃ kind ∈ ["Unknown trap instruction: ", "Unknown extended instruction: ",
    "Unknown I/O instruction: "], fault.message = kind ++ String.leftpad 3 '0' (toString word)

/-- The words that never fail: halting, storing, selecting B, multiplying and branching. -/
def NeverFails (word : Nat) : Prop :=
  word = 0 ∨ 300 ≤ word ∧ word ≤ 399 ∨ word = 401 ∨ word = 402 ∨ 600 ≤ word ∧ word ≤ 899

end

section

variable {World : Type} {channel : Channel World} {machine : Machine} {world after : World}
  {word : Nat} {fault : Fault}

theorem Unknown.callsUnknown {working : Nat} (unknown : Unknown channel working world word fault) :
    CallsUnknown fault word := by
  cases unknown with
  | trap | extended | device =>
    exact ⟨_, by simp, congrArg (_ ++ ·) (Text.zeroPadded_eq_leftpad 3 _)⟩

theorem NeverFails.not_refuses {working : Nat} (never : NeverFails word) :
    ¬Refuses channel machine working world word fault := by
  unfold NeverFails at never
  intro refuses
  cases refuses with
  | unknown unknown => cases unknown <;> omega
  | unmapped | device => omega
  | divisor | read | range | write => simp at never

private theorem refuses_of_unmapped {group cell : Nat} {Answer : Type} {use : Nat → Answer}
    (reads : group = 100 ∨ group = 200 ∨ group = 500) (digits : cell < 100)
    (failed : (machine.memory.read cell).map use = .error fault) :
    Refuses channel machine machine.working world (group + cell) fault := by
  cases unread : machine.memory.read cell with
  | ok found =>
    rw [unread] at failed
    cases failed
  | error reason =>
    rw [unread] at failed
    cases failed
    obtain ⟨unmapped, rfl⟩ := Memory.read_eq_error_iff.mp unread
    exact .unmapped reads digits unmapped

theorem Refuses.of_execute {instruction : Instruction} (encoded : Encodes word instruction)
    (failed : Machine.execute channel instruction machine.working machine.advance world =
      (.error fault, after)) : Refuses channel machine machine.working world word fault := by
  cases encoded with
  | halt | store | useB | multiply | branch | branchIfZero | branchIfPositive => cases failed
  | trap assigned digits =>
    cases failed
    exact .unknown (.trap assigned digits)
  | unknownExtended free digits =>
    cases failed
    exact .unknown (.extended free digits)
  | add digits => exact refuses_of_unmapped (.inl rfl) digits (Prod.mk.inj failed).1
  | subtract digits => exact refuses_of_unmapped (.inr (.inl rfl)) digits (Prod.mk.inj failed).1
  | load digits => exact refuses_of_unmapped (.inr (.inr rfl)) digits (Prod.mk.inj failed).1
  | divide =>
    simp only [Machine.execute] at failed
    split at failed
    next zero =>
      cases failed
      exact .divisor zero
    next => cases failed
  | input =>
    simp only [Machine.execute] at failed
    split at failed
    next refused =>
      cases failed
      exact .read refused
    next value told taken =>
      split at failed
      next => cases failed
      next outside =>
        cases failed
        exact .range taken (by omega)
  | output =>
    simp only [Machine.execute] at failed
    split at failed
    next refused =>
      cases failed
      exact .write refused
    next => cases failed
  | device free digits =>
    simp only [Machine.execute] at failed
    split at failed
    next absent =>
      cases failed
      exact .unknown (.device free digits absent)
    next refused =>
      cases failed
      exact .device free digits refused
    next => cases failed

theorem Refuses.execute
    (refuses : Refuses channel machine machine.working world word fault) :
    ∃ after, Machine.execute channel (.decode word) machine.working machine.advance world =
      (.error fault, after) := by
  cases refuses with
  | unknown unknown =>
    cases unknown with
    | trap assigned digits =>
      rw [Encodes.decode (.trap assigned digits)]
      exact ⟨_, rfl⟩
    | extended free digits =>
      rw [Encodes.decode (.unknownExtended free digits)]
      exact ⟨_, rfl⟩
    | device free digits absent =>
      simp only [Encodes.decode (.device free digits), Machine.execute, absent]
      exact ⟨_, rfl⟩
  | @unmapped group cell reads digits unmapped =>
    have unread : machine.advance.memory.read cell = .error (.unmappedMemory cell) :=
      Memory.read_eq_error_iff.mpr ⟨unmapped, rfl⟩
    rcases reads with rfl | rfl | rfl
    · simp only [Encodes.decode (.add digits), Machine.execute, combine, unread]
      exact ⟨_, rfl⟩
    · simp only [Encodes.decode (.subtract digits), Machine.execute, combine, unread]
      exact ⟨_, rfl⟩
    · simp only [Encodes.decode (.load digits), Machine.execute, unread]
      exact ⟨_, rfl⟩
  | divisor zero =>
    simp only [Encodes.decode .divide, Machine.execute, if_pos zero]
    exact ⟨_, rfl⟩
  | read failed =>
    simp only [Encodes.decode .input, Machine.execute, Channel.ask, failed]
    exact ⟨_, rfl⟩
  | @range value told taken outside =>
    have refused : ¬(0 ≤ value ∧ value ≤ 999) := by omega
    simp only [Encodes.decode .input, Machine.execute, Channel.ask, taken, if_neg refused]
    exact ⟨_, rfl⟩
  | write failed =>
    simp only [Encodes.decode .output, Machine.execute, Channel.tell, failed]
    exact ⟨_, rfl⟩
  | device free digits failed =>
    simp only [Encodes.decode (.device free digits), Machine.execute, failed]
    exact ⟨_, rfl⟩

private theorem cycle_answer_eq_error_iff (words : machine.memory.HoldsWords) :
    (machine.cycle channel world).answer = .error fault ↔
      Fails channel machine machine.working world fault := by
  constructor
  · intro failed
    obtain ⟨final, last, stopped⟩ : ∃ final last,
        machine.cycle channel world = ⟨.error fault, final, last⟩ := ⟨_, _, by rw [← failed]⟩
    rcases cycle_failed_cases stopped with ⟨unread, -, -⟩ | ⟨word, fetched, refused, -⟩
    · obtain ⟨unmapped, rfl⟩ := Memory.read_eq_error_iff.mp unread
      exact .fetch (.inl unmapped)
    · have fetched := Memory.read_eq_ok_iff.mp fetched
      have encoded := Instruction.encodes_decode_of_le (words _ _ fetched)
      exact .execute fetched (.of_execute encoded refused)
  · intro fails
    cases fails with
    | fetch unfetched =>
      have unmapped : machine.memory.get machine.pc = none := by
        rcases unfetched with unmapped | beyond
        · exact unmapped
        · exact machine.memory.get_eq_none_of_le beyond
      rw [cycle_of_unmapped (Memory.read_eq_error_iff.mpr ⟨unmapped, rfl⟩)]
    | execute fetched refuses =>
      obtain ⟨after, refused⟩ := refuses.execute
      rw [cycle_of_failed (Memory.read_eq_ok_iff.mpr fetched) refused]

/-- A cycle fails exactly for the reasons that the fetched word and its operand give, and with the
fault that names them. What reports a word as unknown prints that word, and some words never
fail. -/
theorem cycle_fails_iff (words : machine.memory.HoldsWords) :
    let working := if machine.useB then machine.b else machine.acc
    (∀ fault, (machine.cycle channel world).answer = .error fault ↔
      Fails channel machine working world fault) ∧
    (∀ word fault, machine.memory.get machine.pc = some word →
      Unknown channel working world word fault →
      (machine.cycle channel world).answer = .error fault ∧ CallsUnknown fault word) ∧
    ∀ word, machine.memory.get machine.pc = some word → NeverFails word →
      (machine.cycle channel world).answer = .ok () := by
  refine ⟨fun fault => cycle_answer_eq_error_iff words, fun word fault fetched unknown =>
    ⟨(cycle_answer_eq_error_iff words).mpr (.execute fetched (.unknown unknown)),
      unknown.callsUnknown⟩, ?_⟩
  intro word fetched never
  match answered : (machine.cycle channel world).answer with
  | .ok () => rfl
  | .error fault =>
    cases (cycle_answer_eq_error_iff words).mp answered with
    | fetch unfetched =>
      rcases unfetched with unmapped | beyond
      · rw [unmapped] at fetched
        cases fetched
      · rw [machine.memory.get_eq_none_of_le beyond] at fetched
        cases fetched
    | execute same refuses =>
      rw [fetched] at same
      cases same
      exact absurd refuses never.not_refuses

end

/-- The last cell names a device that is not there, though another one is. -/
theorem cycle_fails_without_device :
    let machine : Machine := { memory := Memory.empty.write 999 903, pc := 999, b := 7, useB := true }
    let bench : Bench := { queue := ⟨[], #[]⟩, devices := [Device.constant 5 1] }
    machine.memory.HoldsWords ∧
      (machine.cycle Bench.channel bench).answer = .error (.unknownDevice 3) ∧
      CallsUnknown (.unknownDevice 3) 903 := by
  intro machine bench
  have words : machine.memory.HoldsWords := Memory.HoldsWords.empty.write 999 (by decide)
  have fetched : machine.memory.get machine.pc = some 903 := by
    simp [machine, Memory.get_write]
  have unknown : Unknown Bench.channel 7 bench (900 + 3) (.unknownDevice 3) :=
    .device (.inr (by decide)) (by decide) rfl
  exact ⟨words, (cycle_fails_iff words).2.1 _ _ fetched unknown⟩

end Machine

end LittleMan
