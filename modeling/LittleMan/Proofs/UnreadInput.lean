import LittleMan.Channel.Queue
import LittleMan.Proofs.ChannelAgreement

/-! Input that nobody reads. While no read finds its queue empty, a run cannot tell what stands
further back in it, and what it has read are the values that stood in front. -/

namespace LittleMan

namespace Queue

def starvation : Fault := .channel "input queue is empty"

/-- The queue with more values behind those that wait in it. -/
def followedBy (queue : Queue) (more : List Int) : Queue :=
  { queue with input := queue.input ++ more }

@[simp]
theorem ask_channel (queue : Queue) : channel.ask queue = queue.read := rfl

@[simp]
theorem tell_channel (word : Nat) (queue : Queue) :
    channel.tell word queue = (.ok (), queue.write word) := rfl

@[simp]
theorem device_channel (operand working : Nat) (queue : Queue) :
    channel.device operand working queue = (none, queue) := rfl

theorem foldl_push (values : List Int) (queue : Queue) :
    values.foldl push queue = queue.followedBy values := by
  induction values generalizing queue with
  | nil => simp [followedBy]
  | cons value rest ih => simp [ih, followedBy, push]

end Queue

def Turn.followedBy {Answer : Type} (turn : Turn Answer Queue) (more : List Int) :
    Turn Answer Queue :=
  { turn with world := turn.world.followedBy more }

namespace Machine

/-- The next cycle reads from an empty queue. -/
def Starves (machine : Machine) (queue : Queue) : Prop :=
  (machine.memory.get machine.pc).map Instruction.decode = some .input ∧ queue.input = []

instance (machine : Machine) (queue : Queue) : Decidable (machine.Starves queue) :=
  inferInstanceAs (Decidable (_ ∧ _))

section

variable {machine : Machine} {queue after : Queue} {instruction : Instruction} {working : Nat}

theorem starves_iff : machine.Starves queue ↔
    ∃ word, machine.memory.read machine.pc = .ok word ∧ Instruction.decode word = .input ∧
      queue.input = [] := by
  simp only [Starves, Option.map_eq_some_iff, Memory.read_eq_ok_iff, exists_and_right, ← and_assoc]

private theorem execute_starved
    (refused : machine.execute Queue.channel instruction working queue =
      (.error Queue.starvation, after)) : instruction = .input ∧ queue.input = [] := by
  have read (cell : Nat) : machine.memory.read cell ≠ .error Queue.starvation := by
    unfold Memory.read
    split <;> simp [Queue.starvation]
  cases instruction with
  | input =>
    refine ⟨rfl, ?_⟩
    cases waiting : queue.input with
    | nil => rfl
    | cons value rest =>
      have answered : Queue.channel.ask queue = (.ok value, { queue with input := rest }) := by
        simp [Queue.read, waiting]
      simp only [execute, answered] at refused
      split at refused <;> cases refused
  | add cell | subtract cell | load cell =>
    cases found : machine.memory.read cell with
    | ok word => simp [execute, combine, found, Except.map] at refused
    | error fault =>
      simp only [execute, combine, found, Except.map, Prod.mk.injEq, Except.error.injEq] at refused
      exact absurd (refused.1 ▸ found) (read cell)
  | divide =>
    simp only [execute] at refused
    split at refused <;> cases refused
  | _ => cases refused

theorem cycle_of_starves (starves : machine.Starves queue) :
    machine.cycle Queue.channel queue =
      ⟨.error Queue.starvation, machine.advance, queue⟩ := by
  obtain ⟨word, fetched, input, empty⟩ := starves_iff.mp starves
  apply cycle_of_failed fetched
  simp [input, execute, Queue.read, empty, Queue.starvation]

/-- No other cycle reports what a read from an empty queue does. -/
theorem cycle_starved_iff :
    (machine.cycle Queue.channel queue).answer = .error Queue.starvation ↔
      machine.Starves queue := by
  constructor
  · intro starved
    obtain ⟨fault, fetched, failed⟩ | ⟨word, fault, after, fetched, refused, failed⟩ |
      ⟨word, executed, result, after, -, -, completed⟩ := cycle_cases Queue.channel machine queue
    · rw [failed] at starved
      cases starved
      unfold Memory.read at fetched
      split at fetched <;> cases fetched
    · rw [failed] at starved
      cases starved
      exact starves_iff.mpr ⟨word, fetched, execute_starved refused⟩
    · rw [completed] at starved
      cases starved
  · intro starves
    rw [cycle_of_starves starves]

private theorem answerAlike_followedBy (more : List Int)
    (supplied : instruction = .input → queue.input ≠ []) :
    AnswerAlike Queue.channel Queue.channel (fun first second => second = first.followedBy more)
      instruction working queue (queue.followedBy more) := by
  cases instruction with
  | input =>
    cases waiting : queue.input with
    | nil => exact absurd waiting (supplied rfl)
    | cons value rest =>
      constructor <;> simp [Queue.read, Queue.followedBy, waiting]
  | output | device => exact ⟨rfl, rfl⟩
  | _ => exact rfl

/-- A cycle that does not starve leaves alone what is further back in its queue. -/
theorem cycle_followedBy (fed : ¬machine.Starves queue) (more : List Int) :
    machine.cycle Queue.channel (queue.followedBy more) =
      (machine.cycle Queue.channel queue).followedBy more := by
  have alike : (machine.cycle Queue.channel queue).Alike
      (fun first second => second = first.followedBy more)
      (machine.cycle Queue.channel (queue.followedBy more)) := by
    apply cycle_alike
    · intro entry first second same
      exact same
    · rfl
    · intro word fetched
      apply answerAlike_followedBy
      intro input empty
      exact fed (starves_iff.mpr ⟨word, fetched, input, empty⟩)
  obtain ⟨answer, final, told, heard, one, two, rfl⟩ := alike.exists_eq
  rw [one, two, Turn.followedBy]

private theorem cycleEach_followedBy {count : Nat}
    (fed : ∀ index < count, let reached := machine.cycleEach Queue.channel index queue
      ¬reached.machine.Starves reached.world) (more : List Int) :
    machine.cycleEach Queue.channel count (queue.followedBy more) =
      (machine.cycleEach Queue.channel count queue).followedBy more := by
  induction count with
  | zero => rfl
  | succ count ih =>
    have earlier := ih fun index inside => fed index (Nat.lt_succ_of_lt inside)
    have last := cycle_followedBy (fed count (Nat.lt_succ_self count)) more
    simp only [cycleEach, earlier, Turn.followedBy]
    rw [last]
    rfl

private theorem resume_followedBy {fuel : Nat}
    (fed : ∀ index < fuel, let paused := machine.resume Queue.channel index queue
      paused.answer = none → ¬paused.machine.Starves paused.world) (more : List Int) :
    machine.resume Queue.channel fuel (queue.followedBy more) =
      (machine.resume Queue.channel fuel queue).followedBy more := by
  fun_induction resume Queue.channel fuel machine queue with
  | case1 fuel machine queue answer ended => exact resume_of_verdict ended fuel
  | case2 machine queue going => exact resume_zero going
  | case3 machine queue going fuel fault final after stepped =>
    have first := fed 0 (Nat.succ_pos fuel)
    simp only [resume_zero going, true_implies] at first
    rw [resume_succ going, cycle_followedBy first, stepped]
    rfl
  | case4 machine queue going fuel _ next after stepped ih =>
    have first := fed 0 (Nat.succ_pos fuel)
    simp only [resume_zero going, true_implies] at first
    rw [resume_succ going, cycle_followedBy first, stepped]
    apply ih
    intro index inside
    have later := fed (index + 1) (Nat.succ_lt_succ inside)
    rwa [resume_succ going, stepped] at later

end

end Machine

namespace Call

def taken : Call → Option Int
  | .read (.ok value) => some value
  | _ => none

def accepted : Call → Option Nat
  | .write word (.ok _) => some word
  | _ => none

end Call

/-- A queue next to a log of the calls that have turned another queue into it. -/
structure Queue.Accounts (start queue : Queue) (logged : Queue × Array Call) : Prop where
  same : queue = logged.1
  input : start.input = logged.2.toList.filterMap Call.taken ++ queue.input
  output : queue.output.toList = start.output.toList ++ logged.2.toList.filterMap Call.accepted

theorem Queue.Accounts.call {start queue after : Queue} {log : Array Call} {call : Call}
    (accounts : start.Accounts queue (queue, log))
    (input : queue.input = call.taken.toList ++ after.input)
    (output : after.output.toList = queue.output.toList ++ call.accepted.toList) :
    start.Accounts after (after, log.push call) := by
  refine ⟨rfl, ?_, ?_⟩
  · cases taken : call.taken <;> simp [accounts.input, input, taken]
  · cases accepted : call.accepted <;> simp [accounts.output, output, accepted]

theorem Queue.mirrors_logged (start : Queue) :
    Queue.channel.Mirrors Queue.channel.logged start.Accounts where
  ask := by
    rintro queue ⟨_, log⟩ ⟨rfl, input, output⟩
    have heard : Queue.channel.logged.ask (queue, log) =
        (queue.read.1, queue.read.2, log.push (.read queue.read.1)) := rfl
    rw [ask_channel, heard]
    refine ⟨rfl, Accounts.call ⟨rfl, input, output⟩ ?_ ?_⟩
    · cases waiting : queue.input <;> simp [read, waiting, Call.taken]
    · cases waiting : queue.input <;> simp [read, waiting, Call.accepted]
  tell := by
    rintro word queue ⟨_, log⟩ ⟨rfl, input, output⟩
    have heard : Queue.channel.logged.tell word (queue, log) =
        (.ok (), queue.write word, log.push (.write word (.ok ()))) := rfl
    rw [tell_channel, heard]
    exact ⟨rfl, Accounts.call ⟨rfl, input, output⟩ rfl (by simp [write, Call.accepted])⟩
  device := by
    rintro operand working queue ⟨_, log⟩ ⟨rfl, input, output⟩
    have heard : Queue.channel.logged.device operand working (queue, log) =
        (none, queue, log.push (.device operand working none)) := rfl
    rw [device_channel, heard]
    exact ⟨rfl, Accounts.call ⟨rfl, input, output⟩ rfl (by simp [Call.accepted])⟩
  trace := by
    intro entry queue logged accounts
    exact accounts

theorem Queue.accounts_self (queue : Queue) : queue.Accounts queue (queue, #[]) :=
  ⟨rfl, by simp, by simp⟩

namespace Machine

/-- What stands in a queue behind all that is read from it makes no difference to a run. The
values that a run has read stood first in its queue, in the order of the reads, and the words
that it has written follow those written before. -/
theorem unread_input_irrelevant (machine : Machine) (queue : Queue) :
    (∀ more count,
      (∀ index < count, let reached := machine.cycleEach Queue.channel index queue
        ¬reached.machine.Starves reached.world) →
      machine.cycleEach Queue.channel count (queue.followedBy more) =
        (machine.cycleEach Queue.channel count queue).followedBy more) ∧
    (∀ more fuel,
      (∀ index < fuel, let paused := machine.resume Queue.channel index queue
        paused.answer = none → ¬paused.machine.Starves paused.world) →
      machine.resume Queue.channel fuel (queue.followedBy more) =
        (machine.resume Queue.channel fuel queue).followedBy more) ∧
    (∀ count, (machine.cycleEach Queue.channel count queue).Alike queue.Accounts
      (machine.cycleEach Queue.channel.logged count (queue, #[]))) ∧
    ∀ fuel, (machine.resume Queue.channel fuel queue).Alike queue.Accounts
      (machine.resume Queue.channel.logged fuel (queue, #[])) := by
  refine ⟨?_, ?_, ?_, ?_⟩
  · intro more count fed
    exact cycleEach_followedBy fed more
  · intro more fuel fed
    exact resume_followedBy fed more
  · intro count
    exact queue.mirrors_logged.cycleEach queue.accounts_self machine count
  · intro fuel
    exact queue.mirrors_logged.resume queue.accounts_self machine fuel

/-- The second value is taken and refused, and the third is never looked at. -/
theorem unread_input_irrelevant_behind_refused :
    let memory := ((Memory.empty.write 0 901).write 1 902).write 2 901
    let machine : Machine := { memory }
    let queue : Queue := ⟨[5, 1000], #[]⟩
    (machine.cycleEach Queue.channel 3 queue).world = ⟨[], #[5]⟩ ∧
      machine.cycleEach Queue.channel 3 (queue.followedBy [7]) =
        (machine.cycleEach Queue.channel 3 queue).followedBy [7] ∧
      (machine.resume Queue.channel 9 (queue.followedBy [7])).world = ⟨[7], #[5]⟩ := by
  intro memory machine queue
  obtain ⟨counted, ended, -, -⟩ := unread_input_irrelevant machine queue
  have fed : ∀ index < 3, let reached := machine.cycleEach Queue.channel index queue
      ¬reached.machine.Starves reached.world := by decide +kernel
  have unstarved : ∀ index < 9, let paused := machine.resume Queue.channel index queue
      paused.answer = none → ¬paused.machine.Starves paused.world := by decide +kernel
  refine ⟨by decide +kernel, counted [7] 3 fed, ?_⟩
  rw [ended [7] 9 unstarved]
  decide +kernel

end Machine

end LittleMan
