/-! # Numbers and columns

Fixed-width pieces of a line: hexadecimal numbers with a mark and leading zeros, and text set to
one side of a column. A text wider than its column is left as it is. -/

namespace ClassVM.Text

/-- The number in lowercase hexadecimal after `0x`, with leading zeros up to `width` digits. -/
def hex (width n : Nat) : String :=
  "0x" ++ String.ofList ((Nat.toDigits 16 n).leftpad width '0')

/-- The text at the right end of a column. -/
def alignRight (width : Nat) (text : String) : String :=
  String.ofList (text.toList.leftpad width ' ')

/-- The text at the left end of a column. -/
def alignLeft (width : Nat) (text : String) : String :=
  String.ofList (text.toList.rightpad width ' ')

end ClassVM.Text
