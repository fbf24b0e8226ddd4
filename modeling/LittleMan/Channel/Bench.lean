import LittleMan.Channel.Queue

/-! A bench: a queue with devices attached, a limit on what may be written, and a choice
whether someone types or reads along. -/

namespace LittleMan

/-- Hardware that answers the device instructions with one operand. -/
structure Device where
  operand : Nat
  /-- The next working value, from the current one. -/
  answer : Nat → Except Fault Nat

namespace Device

/-- Devices answer numbers of sixteen bits, without a sign. -/
def reduce (value : Int) : Nat := (value % 65536).toNat

/-- Adds an amount to the working value. -/
def adding (operand : Nat) (amount : Int) : Device :=
  ⟨operand, fun working => .ok (reduce (working + amount))⟩

/-- Answers the same value to every question. -/
def constant (operand : Nat) (value : Int) : Device := ⟨operand, fun _ => .ok (reduce value)⟩

/-- Never answers. -/
def failing (operand : Nat) (fault : Fault) : Device := ⟨operand, fun _ => .error fault⟩

end Device

/-- A queue on a bench, and what it is connected to. -/
structure Bench where
  queue : Queue
  devices : List Device := []
  /-- The number of words that may be written. -/
  capacity : Option Nat := none
  inputInteractive : Bool := false
  outputInteractive : Bool := false

namespace Bench

/-- Whether no more words may be written. -/
def isFull (bench : Bench) : Bool :=
  bench.capacity.any fun capacity => decide (capacity ≤ bench.queue.output.size)

/-- Asks the first device with the operand. -/
def query (bench : Bench) (operand working : Nat) : Option (Except Fault Nat) :=
  (bench.devices.find? fun device => device.operand = operand).map fun device =>
    device.answer working

/-- The bench as the surroundings of a machine. -/
def channel : Channel Bench where
  read bench :=
    let (answer, queue) := bench.queue.read
    (answer, { bench with queue := queue })
  write word bench :=
    if bench.isFull then (.error (.channel "write limit"), bench)
    else (.ok (), { bench with queue := bench.queue.write word })
  device operand working bench := (bench.query operand working, bench)
  inputInteractive := inputInteractive
  outputInteractive := outputInteractive

end Bench

end LittleMan
