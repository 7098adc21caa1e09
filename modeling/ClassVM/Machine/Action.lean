import ClassVM.Machine.Locals
import ClassVM.Machine.OperandStack

/-! # What instructions do

An instruction acts on the operand stack and the local variables of its own frame, and looks things
up in the class. Whatever goes beyond the frame, it asks for: a branch, a line of output, a call, an
end. The same rule serves for code before and after its branches are resolved. -/

namespace ClassVM

/-- The part of a frame that instructions work on. -/
structure Memory where
  stack : OperandStack
  locals : Locals
  deriving DecidableEq

/-- What an instruction asks for once it has done its work. -/
inductive Action (τ : Type) where
  /-- Go on with the next instruction. -/
  | advance (memory : Memory)
  /-- Go on with the target. -/
  | jump (target : τ) (memory : Memory)
  /-- Write a line, then go on with the next instruction. -/
  | print (value : Value) (memory : Memory)
  /-- Call a method of the class, then go on with the next instruction. -/
  | call (method : String) (arguments : List Value) (memory : Memory)
  /-- Leave the method. -/
  | finish (result : Option Value)
  deriving DecidableEq

namespace Memory

variable (memory : Memory)

/-- Goes on with a value on top of the stack. -/
def pushing {τ : Type} (value : Value) : Action τ :=
  .advance { memory with stack := memory.stack.push value }

/-- Goes on with the local variables after a change, if it succeeded. -/
def changing {τ : Type} (changed : Except Fault Unit × Locals) : Except Fault (Action τ) := do
  let _ ← changed.1
  .ok (.advance { memory with locals := changed.2 })

/-- Takes the top value. -/
def pop : Except Fault (Value × Memory) :=
  memory.stack.pop.1.map fun value => (value, { memory with stack := memory.stack.pop.2 })

/-- Takes the top value, which has to be an integer. -/
def popInt : Except Fault (Int32 × Memory) :=
  memory.stack.popInt.1.map fun number => (number, { memory with stack := memory.stack.popInt.2 })

/-- Takes two integers, the right operand from the top and the left one from below it. -/
def popOperands : Except Fault (Int32 × Int32 × Memory) := do
  let (right, memory) ← memory.popInt
  let (left, memory) ← memory.popInt
  .ok (left, right, memory)

/-- Takes the topmost `count` values. -/
def popArguments (count : Nat) : Except Fault (List Value × Memory) :=
  (memory.stack.popArguments count).1.map fun values =>
    (values, { memory with stack := (memory.stack.popArguments count).2 })

/-- Takes the top value, which has to be a handle on a field. -/
def popField : Except Fault (Pool.Index × Memory) := do
  match ← memory.pop with
  | (.field index, memory) => .ok (index, memory)
  | (other, _) => .error (.typeMismatch .field other.kind)

end Memory

/-- The one virtual call that is understood: `println` on the standard output stream. -/
def isPrintLine (method receiver : Pool.Member) : Bool :=
  receiver.owner = "java/lang/System" && receiver.name = "out" && method.name = "println"

namespace Instruction

variable {τ : Type} (segment : Text.Segmenter) (classFile : ClassFile) (memory : Memory)

/-- The member that a method reference leads to. -/
def calledMethod (index : Pool.Index) : Except Fault Pool.Member :=
  (classFile.pool.method index).mapError .lookup

/-- The descriptor of a member. -/
def calledDescriptor (method : Pool.Member) : Except Fault Descriptor :=
  (Descriptor.parse segment method.descriptor).mapError .descriptor

/-- A virtual call. It has to have one argument; the receiver is looked up before the method's name
is checked. -/
def callVirtual (index : Pool.Index) : Except Fault (Action τ) := do
  let method ← calledMethod classFile index
  let descriptor ← calledDescriptor segment method
  if descriptor.arity ≠ 1 then .error (.notUnary method)
  else
    let (argument, memory) ← memory.pop
    let (handle, memory) ← memory.popField
    let receiver ← (classFile.pool.field handle).mapError .lookup
    if isPrintLine method receiver then .ok (.print argument memory)
    else .error (.unsupportedVirtualCall method receiver)

/-- A static call, which has to stay inside the class. -/
def callStatic (index : Pool.Index) : Except Fault (Action τ) := do
  let method ← calledMethod classFile index
  let name ← classFile.name.mapError .lookup
  if method.owner ≠ name then .error (.unsupportedStaticCall method)
  else
    let descriptor ← calledDescriptor segment method
    let (arguments, memory) ← memory.popArguments descriptor.arity
    .ok (.call method.name arguments memory)

/-- What an instruction does to its frame, and what it asks for. -/
def act (instruction : Instruction τ) : Except Fault (Action τ) :=
  match instruction with
  | .getStatic field => do
      let _ ← (classFile.pool.fieldRef field).mapError Fault.lookup
      .ok (memory.pushing (.field field))
  | .loadConstant constant => do
      let content ← (classFile.pool.string constant).mapError .lookup
      .ok (memory.pushing (.text content))
  | .invokeVirtual method => callVirtual segment classFile memory method
  | .invokeStatic method => callStatic segment classFile memory method
  | .returnNothing => .ok (.finish none)
  | .returnValue => do
      let (value, _) ← memory.pop
      .ok (.finish (some value))
  | .push value => .ok (memory.pushing (.int value))
  | .arithmetic op => do
      let (left, right, memory) ← memory.popOperands
      match op.apply left right with
      | some result => .ok (memory.pushing (.int result))
      | none => .error .divisionByZero
  | .store slot => do
      let (value, memory) ← memory.pop
      memory.changing (memory.locals.set slot value)
  | .load slot => do
      let value ← memory.locals.get slot
      .ok (memory.pushing value)
  | .increment slot delta => memory.changing (memory.locals.increment slot delta.toInt32)
  | .ifNonzero target => do
      let (number, memory) ← memory.popInt
      if number ≠ 0 then .ok (.jump target memory) else .ok (.advance memory)
  | .ifCompare comparison target => do
      let (left, right, memory) ← memory.popOperands
      if comparison.holds left right then .ok (.jump target memory) else .ok (.advance memory)
  | .goto target => .ok (.jump target memory)

end Instruction

end ClassVM
