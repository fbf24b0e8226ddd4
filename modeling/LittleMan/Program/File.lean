import LittleMan.Files
import LittleMan.Program.Load

/-! Loading a program from the bytes of a file. -/

namespace LittleMan.Program

/-- Loads the text that bytes hold into empty memory, under a name. -/
def loadBytes (name : String) (bytes : List UInt8) : Except Report Memory :=
  match String.fromUTF8? bytes.toByteArray with
  | none => .error FileFault.notText.report
  | some text =>
    match load text Memory.empty with
    | (some fault, _) => .error (fault.report ⟨name, text⟩)
    | (none, memory) => .ok memory

/-- Loads the program file at a path, which also names it in diagnostics, from what
reading the file gave. -/
def loadFile (path : String) : Except FileFault (List UInt8) → Except Report Memory
  | .error fault => .error fault.report
  | .ok bytes => loadBytes path bytes

end LittleMan.Program
