import LittleMan.Channel.Streams
import LittleMan.Proofs.CallLog
import Mathlib.Data.List.Basic

/-! Prompts are cosmetic. On a channel that answers as it would have answered without them, a run
goes the same way whoever types or reads along, and its calls are those of the instructions that it
fetches, with a prompt before each that is asked for one. -/

namespace LittleMan

/-- A call of a channel, before it is answered, or a cycle that it is shown. -/
inductive Request where
  | read
  | write (word : Nat)
  | device (operand working : Nat)
  | prompt (text : String)
  | trace (entry : TraceEntry)

namespace Request

variable {World : Type}

def isPrompt : Request → Bool
  | prompt _ => true
  | _ => false

def perform (channel : Channel World) (world : World) : Request → World
  | read => (channel.read world).2
  | write word => (channel.write word world).2
  | device operand working => (channel.device operand working world).2
  | prompt text => channel.prompt text world
  | trace entry => channel.trace entry world

def performAll (channel : Channel World) (world : World) (history : List Request) : World :=
  history.foldl (perform channel) world

def withoutPrompts (history : List Request) : List Request :=
  history.filter fun request => !request.isPrompt

end Request

open Request (performAll withoutPrompts)

namespace Channel

variable {World : Type} (channel : Channel World)

/-- After any history a channel answers as it does after the same history without prompts. -/
structure IgnoresPrompts (world : World) : Prop where
  read : ∀ history,
    (channel.read (performAll channel world history)).1 =
      (channel.read (performAll channel world (withoutPrompts history))).1
  write : ∀ word history,
    (channel.write word (performAll channel world history)).1 =
      (channel.write word (performAll channel world (withoutPrompts history))).1
  device : ∀ operand working history,
    (channel.device operand working (performAll channel world history)).1 =
      (channel.device operand working (performAll channel world (withoutPrompts history))).1

/-- The same channel, with nobody who types or reads along. -/
def unattended : Channel World :=
  { channel with inputInteractive := fun _ => false, outputInteractive := fun _ => false }

/-- Worlds that one history leads to, with its prompts and without them. -/
def PromptsApart (start prompted plain : World) : Prop :=
  ∃ history, prompted = performAll channel start history ∧
    plain = performAll channel start (withoutPrompts history)

variable {channel} {start prompted plain : World}

theorem PromptsApart.perform (apart : channel.PromptsApart start prompted plain)
    (request : Request) (asked : request.isPrompt = false) :
    channel.PromptsApart start (request.perform channel prompted)
      (request.perform channel plain) := by
  obtain ⟨history, rfl, rfl⟩ := apart
  refine ⟨history ++ [request], ?_, ?_⟩
  · simp [performAll]
  · simp [performAll, withoutPrompts, asked]

theorem PromptsApart.prompt (apart : channel.PromptsApart start prompted plain) (text : String) :
    channel.PromptsApart start (channel.prompt text prompted) plain := by
  obtain ⟨history, rfl, rfl⟩ := apart
  refine ⟨history ++ [.prompt text], ?_, ?_⟩
  · simp [performAll, Request.perform]
  · simp [withoutPrompts, Request.isPrompt]

namespace IgnoresPrompts

/-- A channel ignores prompts if they do not lead out of the worlds in which it answers alike. -/
theorem of_matched (matched : World → World → Prop)
    (read : ∀ first second, matched first second →
      Alike matched (channel.read first) (channel.read second))
    (write : ∀ word first second, matched first second →
      Alike matched (channel.write word first) (channel.write word second))
    (device : ∀ operand working first second, matched first second →
      Alike matched (channel.device operand working first) (channel.device operand working second))
    (prompt : ∀ text first second, matched first second →
      matched (channel.prompt text first) second)
    (trace : ∀ entry first second, matched first second →
      matched (channel.trace entry first) (channel.trace entry second))
    (same : matched start start) : channel.IgnoresPrompts start := by
  -- Prompts lead the two worlds apart, so the induction is over any two that match.
  have led (history : List Request) : ∀ first second, matched first second →
      matched (performAll channel first history)
        (performAll channel second (withoutPrompts history)) := by
    induction history with
    | nil =>
      intro first second worlds
      exact worlds
    | cons request history ih =>
      intro first second worlds
      cases request with
      | read => exact ih _ _ (read first second worlds).world
      | write word => exact ih _ _ (write word first second worlds).world
      | device operand working => exact ih _ _ (device operand working first second worlds).world
      | prompt text => exact ih _ _ (prompt text first second worlds)
      | trace entry => exact ih _ _ (trace entry first second worlds)
  exact ⟨fun history => (read _ _ (led history _ _ same)).answer,
    fun word history => (write word _ _ (led history _ _ same)).answer,
    fun operand working history => (device operand working _ _ (led history _ _ same)).answer⟩

variable (ignores : channel.IgnoresPrompts start)

include ignores

private theorem alike_read (apart : channel.PromptsApart start prompted plain) :
    Alike (channel.PromptsApart start) (channel.read prompted) (channel.read plain) := by
  have after := apart.perform .read rfl
  obtain ⟨history, rfl, rfl⟩ := apart
  exact ⟨ignores.read history, after⟩

private theorem alike_write (apart : channel.PromptsApart start prompted plain) (word : Nat) :
    Alike (channel.PromptsApart start) (channel.write word prompted)
      (channel.write word plain) := by
  have after := apart.perform (.write word) rfl
  obtain ⟨history, rfl, rfl⟩ := apart
  exact ⟨ignores.write word history, after⟩

private theorem alike_device (apart : channel.PromptsApart start prompted plain)
    (operand working : Nat) :
    Alike (channel.PromptsApart start) (channel.device operand working prompted)
      (channel.device operand working plain) := by
  have after := apart.perform (.device operand working) rfl
  obtain ⟨history, rfl, rfl⟩ := apart
  exact ⟨ignores.device operand working history, after⟩

private theorem mirrors : channel.Mirrors channel.unattended (channel.PromptsApart start) where
  ask prompted plain apart := by
    unfold ask
    split
    · exact ignores.alike_read (apart.prompt _)
    · exact ignores.alike_read apart
  tell word prompted plain apart := by
    unfold tell
    split
    · exact ignores.alike_write (apart.prompt _) word
    · exact ignores.alike_write apart word
  device operand working prompted plain apart := ignores.alike_device apart operand working
  trace entry prompted plain apart := apart.perform (.trace entry) rfl

end IgnoresPrompts

/-- The call that a fetched word makes, by its number. -/
def callOf (channel : Channel World) (word working : Nat) (world : World) : Option Call :=
  let number := word % 1000
  if number = 901 then some (.read (channel.read world).1)
  else if number = 902 then some (.write working (channel.write working world).1)
  else if 900 ≤ number then
    some (.device (number - 900) working (channel.device (number - 900) working world).1)
  else none

end Channel

/-- The standard streams answer the same with prompts and without them. -/
theorem Streams.ignoresPrompts (streams : Streams) : Streams.channel.IgnoresPrompts streams := by
  apply Channel.IgnoresPrompts.of_matched fun first second =>
    first.input = second.input ∧ first.outputTerminal = second.outputTerminal
  case read =>
    rintro ⟨input, terminal, console, stopped⟩ ⟨_, _, other, halted⟩ ⟨rfl, rfl⟩
    simp only [channel, read]
    cases input with
    | redirected pending lines => exact ⟨rfl, rfl, rfl⟩
    | typed keys =>
      dsimp only
      split
      · split <;> exact ⟨rfl, rfl, rfl⟩
      · exact ⟨rfl, rfl, rfl⟩
  case write =>
    rintro word ⟨input, terminal, console, stopped⟩ ⟨_, _, other, halted⟩ ⟨rfl, rfl⟩
    exact ⟨rfl, rfl, rfl⟩
  case device =>
    intro operand working first second same
    exact ⟨rfl, same⟩
  case prompt =>
    rintro text ⟨input, terminal, console, stopped⟩ ⟨_, _, other, halted⟩ ⟨rfl, rfl⟩
    exact ⟨rfl, rfl⟩
  case trace =>
    rintro entry ⟨input, terminal, console, stopped⟩ ⟨_, _, other, halted⟩ ⟨rfl, rfl⟩
    exact ⟨rfl, rfl⟩
  case same => exact ⟨rfl, rfl⟩

def Call.prompted (input output : Bool) : Call → List Call
  | .read answer => if input then [.prompt "in? ", .read answer] else [.read answer]
  | .write word answer =>
    if output then [.prompt "out=", .write word answer] else [.write word answer]
  | call => [call]

/-- The call that the next cycle makes where nobody types or reads along. -/
def Machine.call? (channel : Channel World) (machine : Machine) (world : World) : Option Call :=
  (machine.memory.get machine.pc).bind fun word =>
    channel.callOf word (if machine.useB then machine.b else machine.acc) world

section

variable {World : Type} {channel : Channel World} {start prompted plain : World}

theorem Instruction.calls_unattended (word working : Nat) (world : World) :
    (Instruction.decode word).calls channel.unattended working world =
      (channel.callOf word working world).toList := by
  have encoded := Instruction.encodes_decode word
  generalize Instruction.decode word = instruction at encoded
  unfold Channel.callOf
  generalize word % 1000 = number at encoded
  cases encoded with
  | input => rfl
  | output => rfl
  | @device operand free digits =>
    rw [if_neg (by omega), if_neg (by omega), if_pos (Nat.le_add_right 900 operand),
      Nat.add_sub_cancel_left]
    rfl
  | _ =>
    dsimp only
    rw [if_neg (by omega), if_neg (by omega), if_neg (by omega)]
    rfl

theorem Instruction.calls_prompted (ignores : channel.IgnoresPrompts start)
    (apart : channel.PromptsApart start prompted plain) (instruction : Instruction)
    (working : Nat) :
    instruction.calls channel working prompted =
      (instruction.calls channel.unattended working plain).flatMap
        (Call.prompted (channel.inputInteractive prompted)
          (channel.outputInteractive prompted)) := by
  cases instruction with
  | input =>
    have answered := (ignores.mirrors.ask prompted plain apart).answer
    rw [calls, calls, answered]
    cases channel.inputInteractive prompted <;> rfl
  | output =>
    have answered := (ignores.mirrors.tell working prompted plain apart).answer
    rw [calls, calls, answered]
    cases channel.outputInteractive prompted <;> rfl
  | device operand =>
    have answered := (ignores.mirrors.device operand working prompted plain apart).answer
    rw [calls, calls, answered]
    rfl
  | _ => rfl

namespace Machine

private theorem calls_unattended (machine : Machine) (world : World) :
    machine.calls channel.unattended world = (machine.call? channel world).toList := by
  rw [calls, call?]
  cases machine.memory.get machine.pc with
  | none => rfl
  | some word => exact Instruction.calls_unattended word machine.working world

private theorem calls_prompted (ignores : channel.IgnoresPrompts start)
    (apart : channel.PromptsApart start prompted plain) (machine : Machine) :
    machine.calls channel prompted =
      (machine.call? channel plain).toList.flatMap
        (Call.prompted (channel.inputInteractive prompted)
          (channel.outputInteractive prompted)) := by
  rw [← calls_unattended, calls, calls]
  cases machine.memory.get machine.pc with
  | none => rfl
  | some word => exact Instruction.calls_prompted ignores apart (.decode word) machine.working

variable (machine : Machine) (world : World) (count : Nat)

private theorem cycleEach_unattended_logged :
    (machine.cycleEach channel.unattended.logged count (world, #[])).world.2.toList =
      (List.range count).filterMap fun index =>
        let reached := machine.cycleEach channel.unattended index world
        reached.machine.call? channel reached.world := by
  rw [cycleEach_logged, List.nil_append, List.filterMap_eq_flatMap_toList]
  simp only [calls_unattended]

variable {world}

private theorem promptsApart_cycleEach (ignores : channel.IgnoresPrompts world) :
    (machine.cycleEach channel count world).Alike (channel.PromptsApart world)
      (machine.cycleEach channel.unattended count world) :=
  ignores.mirrors.cycleEach ⟨[], rfl, rfl⟩ machine count

private theorem cycleEach_prompted_logged (ignores : channel.IgnoresPrompts world) :
    (machine.cycleEach channel.logged count (world, #[])).world.2.toList =
      (List.range count).flatMap fun index =>
        let attended := machine.cycleEach channel index world
        let reached := machine.cycleEach channel.unattended index world
        (reached.machine.call? channel reached.world).toList.flatMap
          (Call.prompted (channel.inputInteractive attended.world)
            (channel.outputInteractive attended.world)) := by
  rw [cycleEach_logged, List.nil_append]
  apply List.flatMap_congr
  intro index _
  have alike := promptsApart_cycleEach machine index ignores
  dsimp only
  rw [alike.machine]
  exact calls_prompted ignores alike.world _

variable (channel world) in
/-- Who types or reads along decides over the prompts in the log and over nothing else. -/
structure Cosmetic : Prop where
  answer (count : Nat) : (machine.cycleEach channel count world).answer =
    (machine.cycleEach channel.unattended count world).answer
  state (count : Nat) : (machine.cycleEach channel count world).machine =
    (machine.cycleEach channel.unattended count world).machine
  /-- Without prompts the log has one call for each word that makes one. -/
  plain (count : Nat) :
    (machine.cycleEach channel.unattended.logged count (world, #[])).world.2.toList =
      (List.range count).filterMap fun index =>
        let reached := machine.cycleEach channel.unattended index world
        reached.machine.call? channel reached.world
  prompted (count : Nat) :
    (machine.cycleEach channel.logged count (world, #[])).world.2.toList =
      (List.range count).flatMap fun index =>
        let attended := machine.cycleEach channel index world
        let reached := machine.cycleEach channel.unattended index world
        (reached.machine.call? channel reached.world).toList.flatMap
          (Call.prompted (channel.inputInteractive attended.world)
            (channel.outputInteractive attended.world))
  /-- The log with prompts is the one without, where it is the same all the time who is there. -/
  steady (count : Nat) (input output : Bool)
    (typed : ∀ world, channel.inputInteractive world = input)
    (watched : ∀ world, channel.outputInteractive world = output) :
    (machine.cycleEach channel.logged count (world, #[])).world.2.toList =
      (machine.cycleEach channel.unattended.logged count (world, #[])).world.2.toList.flatMap
        (Call.prompted input output)
  outcome (fuel : Nat) : (machine.resume channel fuel world).answer =
    (machine.resume channel.unattended fuel world).answer
  final (fuel : Nat) : (machine.resume channel fuel world).machine =
    (machine.resume channel.unattended fuel world).machine
  resumed (fuel : Nat) : ∃ count ≤ fuel,
    (machine.resume channel fuel world).machine = (machine.cycleEach channel count world).machine ∧
      (machine.resume channel.logged fuel (world, #[])).world.2.toList =
        (machine.cycleEach channel.logged count (world, #[])).world.2.toList ∧
      (machine.resume channel.unattended.logged fuel (world, #[])).world.2.toList =
        (machine.cycleEach channel.unattended.logged count (world, #[])).world.2.toList

theorem prompts_cosmetic (ignores : channel.IgnoresPrompts world) (machine : Machine) :
    machine.Cosmetic channel world := by
  have apart : channel.PromptsApart world world world := ⟨[], rfl, rfl⟩
  refine {
    answer := fun count => (promptsApart_cycleEach machine count ignores).answer
    state := fun count => (promptsApart_cycleEach machine count ignores).machine
    plain := cycleEach_unattended_logged machine world
    prompted := fun count => cycleEach_prompted_logged machine count ignores
    steady := ?_
    outcome := fun fuel => (ignores.mirrors.resume apart machine fuel).answer
    final := fun fuel => (ignores.mirrors.resume apart machine fuel).machine
    resumed := ?_ }
  · intro count input output typed watched
    rw [cycleEach_unattended_logged, List.filterMap_eq_flatMap_toList, List.flatMap_assoc,
      cycleEach_prompted_logged machine count ignores]
    simp only [typed, watched]
  · intro fuel
    have logged : channel.PromptsApart world (world, (#[] : Array Call)).1
      (world, (#[] : Array Call)).1 := apart
    obtain ⟨count, small, ⟨same, here⟩, -, there⟩ :=
      ignores.mirrors.logged.exists_cycleEach_of_resume logged machine fuel
    refine ⟨count, small, ?_, ?_, ?_⟩
    · have run := resume_logged_alike channel machine world #[] fuel
      have each := cycleEach_logged_alike channel machine world #[] count
      exact run.machine.symm.trans (same.trans each.machine)
    · exact congrArg (fun state => state.2.toList) here
    · exact congrArg (fun state => state.2.toList) there

/-- A value typed at a terminal and shown there, and a device that is not attached. -/
theorem prompts_cosmetic_at_terminal :
    let memory := ((Memory.empty.write 0 901).write 1 902).write 2 907
    let machine : Machine := { memory }
    let streams : Streams := { input := .typed [.character '7', .enter], outputTerminal := true }
    let attended := machine.cycleEach Streams.channel 3 streams
    let unattended := machine.cycleEach Streams.channel.unattended 3 streams
    let log := (machine.cycleEach Streams.channel.logged 3 (streams, #[])).world.2.toList
    let plainLog :=
      (machine.cycleEach Streams.channel.unattended.logged 3 (streams, #[])).world.2.toList
    Streams.channel.IgnoresPrompts streams ∧ attended.answer = unattended.answer ∧
      attended.machine = unattended.machine ∧ attended.machine.acc = 7 ∧
      plainLog.length = 3 ∧ log.length = 5 ∧
      log.filterMap (fun | .prompt text => some text | _ => none) = ["in? ", "out="] := by
  intro memory machine streams attended unattended log plainLog
  have ignores := Streams.ignoresPrompts streams
  have cosmetic := prompts_cosmetic ignores machine
  refine ⟨ignores, cosmetic.answer 3, cosmetic.state 3, ?_, ?_, ?_, ?_⟩ <;> decide +kernel

end Machine

end

end LittleMan
