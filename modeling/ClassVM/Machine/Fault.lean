import ClassVM.Code.MethodCode
import ClassVM.Descriptor
import ClassVM.Machine.Sink
import ClassVM.Value

/-! # Why a run stops early

Every fault belongs to one of four categories: the class is malformed, the program asks for
something that the machine does not do, a call does not fit the calling convention, or output could
not be written. -/

namespace ClassVM

/-- The broad classes of failure. -/
inductive Category where
  | malformedInput
  | unsupportedOperation
  | structuralAssumption
  | io
  deriving DecidableEq

/-- The name of a category. -/
def Category.name : Category → String
  | .malformedInput => "MalformedInput"
  | .unsupportedOperation => "UnsupportedOperation"
  | .structuralAssumption => "StructuralAssumption"
  | .io => "Io"

/-- Why a run stopped early. -/
inductive Fault where
  | emptyStack
  | typeMismatch (expected found : Value.Kind)
  | uninitializedLocal (slot : UInt8)
  | localOutOfRange (slot : UInt8) (capacity : Nat)
  | tooManyArguments (count capacity : Nat)
  | divisionByZero
  | invalidProgramCounter (pc : Nat)
  | callDepthExceeded (limit : Nat)
  | unsupportedVirtualCall (called receiver : Pool.Member)
  | unsupportedStaticCall (called : Pool.Member)
  | notUnary (called : Pool.Member)
  | method (cause : MethodError)
  | lookup (cause : Pool.LookupError)
  | descriptor (cause : Descriptor.ParseError)
  | output (cause : Sink.Fault)
  deriving DecidableEq

namespace Fault

/-- The wording of a fault. -/
def message : Fault → String
  | .emptyStack => "pop from an empty operand stack"
  | .typeMismatch expected found =>
      "expected a value of type " ++ expected.name ++ ", but got a " ++ found.name
  | .uninitializedLocal slot =>
      "local variable " ++ toString slot.toNat ++ " is read before it is written"
  | .localOutOfRange slot capacity =>
      "local variable " ++ toString slot.toNat ++ " is outside of the " ++ toString capacity ++
        " available slots"
  | .tooManyArguments count capacity =>
      toString count ++ " arguments do not fit in " ++ toString capacity ++
        " local variable slots"
  | .divisionByZero => "division by zero"
  | .invalidProgramCounter pc =>
      "program counter " ++ toString pc ++ " is outside of the method"
  | .callDepthExceeded limit => "maximum call depth of " ++ toString limit ++ " exceeded"
  | .unsupportedVirtualCall called receiver =>
      "only System.out.println is supported, not " ++ called.display ++ " on " ++
        receiver.owner ++ "." ++ receiver.name
  | .unsupportedStaticCall called =>
      "static calls into other classes are not supported: " ++ called.display
  | .notUnary called => "virtual calls take exactly one argument: " ++ called.display
  | .method _ => "method error"
  | .lookup _ => "constant pool error"
  | .descriptor _ => "type error"
  | .output _ => "could not write output"

/-- The category of a fault. -/
def category : Fault → Category
  | .method (.decoding _) | .lookup _ | .descriptor _ | .invalidProgramCounter _ =>
      .malformedInput
  | .tooManyArguments _ _ | .notUnary _ => .structuralAssumption
  | .output _ => .io
  | .emptyStack | .typeMismatch _ _ | .uninitializedLocal _ | .localOutOfRange _ _
  | .divisionByZero | .callDepthExceeded _ | .unsupportedVirtualCall _ _
  | .unsupportedStaticCall _ | .method (.notFound _) => .unsupportedOperation

end Fault

end ClassVM
