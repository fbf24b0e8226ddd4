import LittleMan.Channel

/-! A channel in memory: values wait in a queue, and the words written are kept. -/

namespace LittleMan

/-- Queued input and captured output. -/
structure Queue where
  input : List Int
  output : Array Nat := #[]
deriving DecidableEq

namespace Queue

def push (queue : Queue) (value : Int) : Queue :=
  { queue with input := queue.input ++ [value] }

def read (queue : Queue) : Except Fault Int × Queue :=
  match queue.input with
  | [] => (.error (.channel "input queue is empty"), queue)
  | value :: rest => (.ok value, { queue with input := rest })

def write (queue : Queue) (word : Nat) : Queue :=
  { queue with output := queue.output.push word }

/-- The queue as the surroundings of a machine. It has no devices and no reader. -/
def channel : Channel Queue where
  read := read
  write word queue := (.ok (), queue.write word)

end Queue

end LittleMan
