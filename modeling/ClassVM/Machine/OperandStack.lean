import ClassVM.Machine.Fault

/-! # Operand stacks

Every operation says what it found and how the stack stands afterwards, also when it fails: an
integer that is asked for and is none is removed all the same, while arguments are taken all at once
or not at all. -/

namespace ClassVM

/-- The operands of a frame, the top of the stack first. -/
structure OperandStack where
  values : List Value
  deriving DecidableEq

namespace OperandStack

/-- A stack without operands. -/
def empty : OperandStack := ⟨[]⟩

/-- The number of operands. -/
def size (stack : OperandStack) : Nat := stack.values.length

/-- Puts a value on top. -/
def push (stack : OperandStack) (value : Value) : OperandStack := ⟨value :: stack.values⟩

/-- Takes the top value. -/
def pop (stack : OperandStack) : Except Fault Value × OperandStack :=
  match stack.values with
  | [] => (.error .emptyStack, stack)
  | value :: rest => (.ok value, ⟨rest⟩)

/-- The integer that a value is. -/
def asInt : Value → Except Fault Int32
  | .int number => .ok number
  | other => .error (.typeMismatch .int other.kind)

/-- Takes the top value, which has to be an integer. -/
def popInt (stack : OperandStack) : Except Fault Int32 × OperandStack :=
  match stack.pop with
  | (.error fault, after) => (.error fault, after)
  | (.ok value, after) => (asInt value, after)

/-- Takes the topmost `count` values, in the order in which they were pushed. -/
def popArguments (stack : OperandStack) (count : Nat) : Except Fault (List Value) × OperandStack :=
  if count ≤ stack.size then
    (.ok (stack.values.take count).reverse, ⟨stack.values.drop count⟩)
  else (.error .emptyStack, stack)

/-- The description of a stack, its top first. -/
def describe (stack : OperandStack) : String :=
  "[" ++ String.intercalate ", " (stack.values.map Value.describe) ++ "]"

end OperandStack

end ClassVM
