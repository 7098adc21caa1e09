import ClassVM.Pool.Basic

/-! # Values

What stands on an operand stack or in a local variable: an integer, the text of a string constant,
or a handle on a static field. -/

namespace ClassVM

/-- A value. -/
inductive Value where
  | int (number : Int32)
  | text (content : String)
  | field (index : Pool.Index)
  deriving DecidableEq

namespace Value

/-- The kinds of values. -/
inductive Kind where
  | int
  | text
  | field
  deriving DecidableEq

/-- The name of a kind in messages. -/
def Kind.name : Kind → String
  | .int => "int"
  | .text => "string"
  | .field => "field"

/-- The kind of a value. -/
def kind : Value → Kind
  | .int _ => .int
  | .text _ => .text
  | .field _ => .field

/-- The text that a value prints as. -/
def display : Value → String
  | .int number => toString number.toInt
  | .text content => content
  | .field index => "field " ++ index.display

/-- The description of a value. -/
def describe : Value → String
  | .int number => "Int(" ++ toString number.toInt ++ ")"
  | .text content => "String(" ++ Text.quoted content ++ ")"
  | .field index => "Field(" ++ index.describe ++ ")"

end Value

end ClassVM
