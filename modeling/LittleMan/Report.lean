import LittleMan.Source

/-! Diagnostics: what is shown to a user when loading or running fails. -/

namespace LittleMan

/-- A stretch of the program text with a remark on it. -/
structure Label where
  text : String
  extent : Extent
deriving DecidableEq

inductive Severity where
  | error
deriving DecidableEq

def Severity.name : Severity → String
  | .error => "Error"

/-- A diagnostic. Faults of the operating system have a message only. -/
structure Report where
  message : String
  code : Option String := none
  severity : Option Severity := none
  help : Option String := none
  labels : List Label := []
  source : Option Source := none

namespace Report

/-- Where the first label begins. -/
def place (report : Report) : Option String := do
  let source ← report.source
  let label ← report.labels.head?
  return source.place label.extent.offset

/-- The diagnostic as text: code and message, then the place with its remark and the
help, as far as there are any. -/
def text (report : Report) : String :=
  let heading := match report.code with
    | some code => code ++ "\n\n  " ++ report.message ++ "\n"
    | none => report.message ++ "\n"
  let remark := match report.place, report.labels.head? with
    | some place, some label => "  at " ++ place ++ ": " ++ label.text ++ "\n"
    | _, _ => ""
  let help := match report.help with
    | some help => "  help: " ++ help ++ "\n"
    | none => ""
  "Error: " ++ heading ++ remark ++ help

end Report

end LittleMan
