import LittleMan.Trace

/-! What a running machine is connected to. A channel acts on a world of its own, and
each of its operations answers and passes that world on, so every run is a
function of the machine and the world it starts from. -/

namespace LittleMan

/-- The surroundings of a machine, acting on a world. -/
structure Channel (World : Type) where
  /-- Takes one value. Its range is left to the machine. -/
  read : World → Except Fault Int × World
  /-- Hands over one word. -/
  write : Nat → World → Except Fault Unit × World
  /-- Asks the device with this operand for the next working value, or answers `none`
  when there is no such device. -/
  device : Nat → Nat → World → Option (Except Fault Nat) × World :=
    fun _ _ world => (none, world)
  inputInteractive : World → Bool := fun _ => false
  outputInteractive : World → Bool := fun _ => false
  /-- Shows a short remark to whoever types or reads along. -/
  prompt : String → World → World := fun _ world => world
  /-- Shows one completed cycle. -/
  trace : TraceEntry → World → World := fun _ world => world

namespace Channel

/-- Takes one value, after a prompt if someone types it. -/
def ask {World : Type} (channel : Channel World) (world : World) :
    Except Fault Int × World :=
  channel.read (if channel.inputInteractive world then channel.prompt "in? " world else world)

/-- Hands over one word, after a prompt if someone reads along. -/
def tell {World : Type} (channel : Channel World) (word : Nat) (world : World) :
    Except Fault Unit × World :=
  channel.write word
    (if channel.outputInteractive world then channel.prompt "out=" world else world)

end Channel

end LittleMan
