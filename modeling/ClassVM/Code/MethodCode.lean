import ClassVM.ClassFile.Basic
import ClassVM.Code.Decode

/-! # The code of a method -/

namespace ClassVM

/-- Why a method has no instructions. -/
inductive MethodError where
  | notFound (name : String)
  | decoding (cause : Code.DecodeError)
  deriving DecidableEq

/-- The wording of an error. -/
def MethodError.message : MethodError → String
  | .notFound name => "there is no method named '" ++ name ++ "'"
  | .decoding _ => "could not decode method"

/-- The instructions of a method. -/
def Method.instructions (method : Method) :
    Log.Traced Code.Located MethodError (List (Instruction Nat)) :=
  (Code.decode method.code).mapError .decoding

/-- The instructions of the first method with a name. -/
def ClassFile.instructionsOf (classFile : ClassFile) (name : String) :
    Log.Traced Code.Located MethodError (List (Instruction Nat)) :=
  match classFile.method? name with
  | none => .fail (.notFound name)
  | some method => method.instructions

end ClassVM
