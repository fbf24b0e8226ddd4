import LittleMan.Channel
import LittleMan.Console

/-! Channels built around others: one keeps a log of all calls, one shows the trace on a
console of its own. -/

namespace LittleMan

/-- One call of a channel operation, with what it answered. -/
inductive Call where
  | read (answer : Except Fault Int)
  | write (word : Nat) (answer : Except Fault Unit)
  | device (operand working : Nat) (answer : Option (Except Fault Nat))
  | prompt (text : String)

namespace Channel

/-- The same channel, with every call added to a log. -/
def logged {World : Type} (channel : Channel World) : Channel (World × Array Call) where
  read state :=
    let (answer, world) := channel.read state.1
    (answer, world, state.2.push (.read answer))
  write word state :=
    let (answer, world) := channel.write word state.1
    (answer, world, state.2.push (.write word answer))
  device operand working state :=
    let (answer, world) := channel.device operand working state.1
    (answer, world, state.2.push (.device operand working answer))
  inputInteractive state := channel.inputInteractive state.1
  outputInteractive state := channel.outputInteractive state.1
  prompt text state := (channel.prompt text state.1, state.2.push (.prompt text))
  trace entry state := (channel.trace entry state.1, state.2)

/-- The same channel, with the trace printed on a console beside it. -/
def traced {World : Type} (channel : Channel World) : Channel (World × Console) where
  read state :=
    let (answer, world) := channel.read state.1
    (answer, world, state.2)
  write word state :=
    let (answer, world) := channel.write word state.1
    (answer, world, state.2)
  device operand working state :=
    let (answer, world) := channel.device operand working state.1
    (answer, world, state.2)
  inputInteractive state := channel.inputInteractive state.1
  outputInteractive state := channel.outputInteractive state.1
  prompt text state := (channel.prompt text state.1, state.2)
  trace entry state := (state.1, state.2.printTrace .trace entry)

end Channel

end LittleMan
