import ClassVM.Text.GraphemeExtend
import ClassVM.Text.Ignorable
import ClassVM.Text.Printable

/-! # Quoted text

Text inside a description stands in double quotes. Quotes, backslashes and the usual control
characters are written with a backslash; every other character that would not show by itself, or
would change the look of the one before it, is written by its code point. -/

namespace ClassVM.Text

/-- The two halfwidth sound marks of kana, which extend the character before them and still are
letters with a shape of their own. -/
def isHalfwidthSoundMark (c : Char) : Bool :=
  c.toNat = 0xFF9E || c.toNat = 0xFF9F

/-- The character would be drawn onto the one before it. -/
def isCombining (c : Char) : Bool :=
  isGraphemeExtend c && !isHalfwidthSoundMark c

/-- The character shows by itself, as one that stands on its own and has a printed form. -/
def isShown (c : Char) : Bool :=
  isPrintable c && !isIgnorable c && !isCombining c

/-- A character written by its code point, in hexadecimal between braces. -/
def codePointEscape (c : Char) : List Char :=
  ['\\', 'u', '\x7b'] ++ Nat.toDigits 16 c.toNat ++ ['\x7d']

/-- A character as it stands inside quotes. Printable ASCII is decided without the tables. -/
def escapeChar (c : Char) : List Char :=
  if c = '"' then ['\\', '"']
  else if c = '\\' then ['\\', '\\']
  else if 0x20 ≤ c.toNat && c.toNat < 0x7F then [c]
  else if c = '\x00' then ['\\', '0']
  else if c = '\t' then ['\\', 't']
  else if c = '\r' then ['\\', 'r']
  else if c = '\n' then ['\\', 'n']
  else if isShown c then [c]
  else codePointEscape c

/-- Text in double quotes. -/
def quoted (text : String) : String :=
  String.ofList ('"' :: text.toList.flatMap escapeChar ++ ['"'])

end ClassVM.Text
