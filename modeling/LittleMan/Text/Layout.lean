/-! Fixed-width layout of texts and of decimal numbers. -/

namespace LittleMan.Text

/-- Decimal digits with leading zeros up to the width; longer numbers are not cut. -/
def zeroPadded (width number : Nat) : String :=
  String.ofList ((Nat.toDigits 10 number).leftpad width '0')

/-- Text followed by blanks up to the width. -/
def leftAligned (width : Nat) (text : String) : String :=
  String.ofList (text.toList.rightpad width ' ')

/-- Text preceded by blanks up to the width. -/
def rightAligned (width : Nat) (text : String) : String :=
  String.ofList (text.toList.leftpad width ' ')

end LittleMan.Text
