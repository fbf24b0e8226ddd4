import LittleMan.Text.Printable

/-! Quoted text: the form in which a diagnostic shows a string, on one line and
with every character recognisable. -/

namespace LittleMan.Text

/-- Lower-case hexadecimal digits without leading zeros. -/
def hexadecimal (number : Nat) : List Char := Nat.toDigits 16 number

/-- One character inside quotes. What cannot be printed, or would join the
character before it, is given by its code. -/
def quoteChar (c : Char) : List Char :=
  if c = '"' then ['\\', '"']
  else if c = '\\' then ['\\', '\\']
  else if c = '\n' then ['\\', 'n']
  else if c = '\r' then ['\\', 'r']
  else if c = '\t' then ['\\', 't']
  else if c.toNat = 0 then ['\\', '0']
  else if isPrintable c && !joinsPrevious c then [c]
  else '\\' :: 'u' :: '\x7b' :: hexadecimal c.toNat ++ ['\x7d']

/-- A text between quotation marks. -/
def quoted (text : String) : String :=
  String.ofList ('"' :: text.toList.flatMap quoteChar ++ ['"'])

end LittleMan.Text
