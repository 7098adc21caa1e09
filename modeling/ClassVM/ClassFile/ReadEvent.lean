import ClassVM.ClassFile.Basic
import ClassVM.Log.Record

/-! # What is logged while a class file is read

Attributes that are passed over are reported as information, all else for debugging. -/

namespace ClassVM.ClassFile

/-- What the reader reports on the way. -/
inductive ReadEvent where
  | versions (major minor : UInt16)
  | poolSize (count : Nat)
  | constant (index : Nat) (entry : Pool.Entry)
  | classAccess (bits : UInt16)
  | className (name : String)
  | interfaces (count : Nat)
  | method (name descriptor : String) (access : MethodAccess)
  | code (length maxStack maxLocals : Nat)
  | skippedAttribute (name : String)
  deriving DecidableEq

/-- The wording of an event. -/
def ReadEvent.message : ReadEvent → String
  | .versions major minor =>
      "Class file version " ++ toString major.toNat ++ "." ++ toString minor.toNat
  | .poolSize count => "Reading " ++ toString count ++ " constants"
  | .constant index entry => "Constant #" ++ toString index ++ ": " ++ entry.describe
  | .classAccess bits => "Access flags " ++ Text.hex 4 bits.toNat
  | .className name => "This class " ++ name
  | .interfaces count => "Read " ++ toString count ++ " interfaces"
  | .method name descriptor access =>
      "Method " ++ name ++ descriptor ++ " (" ++ access.describe ++ ")"
  | .code length maxStack maxLocals =>
      "Read " ++ toString length ++ " bytes of code (max_stack=" ++ toString maxStack ++
        ", max_locals=" ++ toString maxLocals ++ ")"
  | .skippedAttribute name => "Skipping attribute '" ++ name ++ "'"

/-- The log record of an event. -/
def ReadEvent.record (event : ReadEvent) : Log.Record where
  level := match event with
    | .skippedAttribute _ => .info
    | _ => .debug
  source := .classReader
  message := event.message

end ClassVM.ClassFile
