/-! Environment variables and the settings they decide. -/

namespace LittleMan.Command

/-- Variables by name; the first of a name counts. -/
structure Environment where
  bindings : List (String × String) := []

namespace Environment

def get? (environment : Environment) (name : String) : Option String :=
  environment.bindings.lookup name

/-- Whether colours are used. They can be forced on, or else off, and are used at a
terminal otherwise. -/
def usesColour (environment : Environment) (outputTerminal : Bool) : Bool :=
  if (environment.get? "CLICOLOR_FORCE").any (· ≠ "0") then true
  else if (environment.get? "NO_COLOR").isSome then false
  else outputTerminal && (environment.get? "CLICOLOR").all (· ≠ "0")

/-- Whether any colour can be shown, not only the sixteen basic ones. -/
def hasTrueColour (environment : Environment) : Bool :=
  (environment.get? "COLORTERM").any fun value => value = "truecolor" ∨ value = "24bit"

/-- A switch in words, in upper or lower case. -/
def readSwitch (value : String) : Option Bool :=
  let word := String.ofList (value.toList.map Char.toLower)
  if word ∈ ["y", "yes", "t", "true", "on", "1"] then some true
  else if word ∈ ["n", "no", "f", "false", "off", "0"] then some false
  else none

/-- Whether the environment asks for a trace, or `none` if it says something else. -/
def tracing (environment : Environment) : Option Bool :=
  match environment.get? "LMC_TRACE" with
  | none => some false
  | some value => readSwitch value

end Environment

end LittleMan.Command
