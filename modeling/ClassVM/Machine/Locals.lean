import ClassVM.Machine.Fault

/-! # Local variables

A frame has a fixed number of slots. The arguments stand in the first of them; the others are empty
until something is stored. Every change says how the slots stand afterwards, also when it fails. -/

namespace ClassVM

/-- The slots of a frame; an empty slot has never been written. -/
structure Locals where
  slots : Array (Option Value)
  deriving DecidableEq

namespace Locals

/-- The number of slots. -/
def capacity (locals : Locals) : Nat := locals.slots.size

/-- Slots of which the first hold the arguments. -/
def create (capacity : Nat) (arguments : List Value) : Except Fault Locals :=
  if arguments.length ≤ capacity then
    .ok ⟨(arguments.map some).toArray ++ Array.replicate (capacity - arguments.length) none⟩
  else .error (.tooManyArguments arguments.length capacity)

/-- The contents of a slot that exists. -/
def slot (locals : Locals) (index : UInt8) : Except Fault (Option Value) :=
  match locals.slots[index.toNat]? with
  | some contents => .ok contents
  | none => .error (.localOutOfRange index locals.capacity)

/-- The value in a slot. -/
def get (locals : Locals) (index : UInt8) : Except Fault Value := do
  match ← locals.slot index with
  | some value => .ok value
  | none => .error (.uninitializedLocal index)

/-- The same slots with other contents in one of them. -/
def put (locals : Locals) (index : UInt8) (contents : Option Value) : Locals :=
  ⟨locals.slots.setIfInBounds index.toNat contents⟩

/-- Changes a slot that exists. What the change makes of the contents stays in the slot, whether the
change succeeds or fails. -/
def change (locals : Locals) (index : UInt8)
    (make : Option Value → Except Fault Unit × Option Value) : Except Fault Unit × Locals :=
  match locals.slot index with
  | .error fault => (.error fault, locals)
  | .ok contents =>
      match make contents with
      | (result, made) => (result, locals.put index made)

/-- Stores a value. -/
def set (locals : Locals) (index : UInt8) (value : Value) : Except Fault Unit × Locals :=
  locals.change index fun _ => (.ok (), some value)

/-- Adds to the integer in a slot; the sum wraps. -/
def increment (locals : Locals) (index : UInt8) (delta : Int32) : Except Fault Unit × Locals :=
  locals.change index fun
    | some (.int number) => (.ok (), some (.int (number + delta)))
    | some other => (.error (.typeMismatch .int other.kind), some other)
    | none => (.error (.uninitializedLocal index), none)

end Locals

end ClassVM
