import ClassVM.Pool.Basic

/-! # Instructions

An instruction is generic in how a branch names its target: by a signed distance in bytes as it
stands in the code, or by the index of an instruction once the code has been decoded. -/

namespace ClassVM

/-- Operations on two 32-bit integers. -/
inductive Arithmetic where
  | add
  | sub
  | mul
  | rem
  deriving DecidableEq

namespace Arithmetic

/-- The result of an operation: arithmetic wraps, the remainder has the sign of the left operand,
and there is no remainder by zero. -/
def apply (op : Arithmetic) (a b : Int32) : Option Int32 :=
  match op with
  | .add => some (a + b)
  | .sub => some (a - b)
  | .mul => some (a * b)
  | .rem => if b = 0 then none else some (a % b)

/-- The mnemonic of an operation. -/
def mnemonic : Arithmetic → String
  | .add => "iadd"
  | .sub => "isub"
  | .mul => "imul"
  | .rem => "irem"

end Arithmetic

/-- Comparisons of two 32-bit integers. -/
inductive Comparison where
  | greaterOrEqual
  | greater
  deriving DecidableEq

namespace Comparison

/-- The comparison holds of the left and the right operand. -/
def holds (comparison : Comparison) (a b : Int32) : Bool :=
  match comparison with
  | .greaterOrEqual => b ≤ a
  | .greater => b < a

/-- The mnemonic of the branch on a comparison. -/
def mnemonic : Comparison → String
  | .greaterOrEqual => "if_icmpge"
  | .greater => "if_icmpgt"

end Comparison

/-- An instruction whose branch targets are given by `τ`. -/
inductive Instruction (τ : Type) where
  | getStatic (field : Pool.Index)
  | loadConstant (constant : Pool.Index)
  | invokeVirtual (method : Pool.Index)
  | invokeStatic (method : Pool.Index)
  | returnNothing
  | returnValue
  | push (value : Int32)
  | arithmetic (op : Arithmetic)
  | store (slot : UInt8)
  | load (slot : UInt8)
  | increment (slot : UInt8) (delta : Int8)
  | ifNonzero (target : τ)
  | ifCompare (comparison : Comparison) (target : τ)
  | goto (target : τ)
  deriving DecidableEq

namespace Instruction

variable {τ σ ε : Type}

/-- The target that the instruction may branch to. -/
def target? : Instruction τ → Option τ
  | .ifNonzero target | .ifCompare _ target | .goto target => some target
  | _ => none

/-- The instruction may branch. -/
def isBranch (instruction : Instruction τ) : Bool :=
  instruction.target?.isSome

/-- The same instruction with its target, if it has one, replaced. -/
def retarget (f : τ → Except ε σ) : Instruction τ → Except ε (Instruction σ)
  | .getStatic field => .ok (.getStatic field)
  | .loadConstant constant => .ok (.loadConstant constant)
  | .invokeVirtual method => .ok (.invokeVirtual method)
  | .invokeStatic method => .ok (.invokeStatic method)
  | .returnNothing => .ok .returnNothing
  | .returnValue => .ok .returnValue
  | .push value => .ok (.push value)
  | .arithmetic op => .ok (.arithmetic op)
  | .store slot => .ok (.store slot)
  | .load slot => .ok (.load slot)
  | .increment slot delta => .ok (.increment slot delta)
  | .ifNonzero target => (f target).map .ifNonzero
  | .ifCompare comparison target => (f target).map (.ifCompare comparison)
  | .goto target => (f target).map .goto

/-- The instruction as it is listed, its target written by `writeTarget`. -/
def displayWith (writeTarget : τ → String) : Instruction τ → String
  | .getStatic field => "getstatic " ++ field.display
  | .loadConstant constant => "ldc " ++ constant.display
  | .invokeVirtual method => "invokevirtual " ++ method.display
  | .invokeStatic method => "invokestatic " ++ method.display
  | .returnNothing => "return"
  | .returnValue => "ireturn"
  | .push value => "push " ++ toString value.toInt
  | .arithmetic op => op.mnemonic
  | .store slot => "istore_" ++ toString slot.toNat
  | .load slot => "iload_" ++ toString slot.toNat
  | .increment slot delta => "iinc " ++ toString slot.toNat ++ " " ++ toString delta.toInt
  | .ifNonzero target => "ifne " ++ writeTarget target
  | .ifCompare comparison target => comparison.mnemonic ++ " " ++ writeTarget target
  | .goto target => "goto " ++ writeTarget target

/-- A decoded instruction as it is listed. -/
def display (instruction : Instruction Nat) : String :=
  instruction.displayWith fun index => toString index

/-- An instruction as it stands in the code, with its signed distance. -/
def displayRaw (instruction : Instruction Int16) : String :=
  instruction.displayWith fun distance => toString distance.toInt

end Instruction

end ClassVM
