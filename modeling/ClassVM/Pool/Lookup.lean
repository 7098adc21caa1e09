import ClassVM.Pool.Basic

/-! # Looking constants up

A lookup asks for an entry of one kind and may follow the addresses in it. It fails at the first
address that belongs to no entry, or to an entry of another kind. -/

namespace ClassVM.Pool

/-- Why a lookup failed. -/
inductive LookupError where
  /-- The address belongs to no entry. -/
  | missing (index : Index)
  /-- The entry at the address is not of the kind that was asked for. -/
  | wrongKind (expected : Kind) (index : Index) (found : Entry)
  deriving DecidableEq

/-- The wording of a failed lookup. -/
def LookupError.message : LookupError → String
  | .missing index => "there is no constant pool entry at " ++ index.display
  | .wrongKind expected index found =>
      "The constant pool entry at " ++ index.display ++ " is expected to be of type " ++
        expected.name ++ ", but is actually " ++ found.describe

/-- A member reference followed down to text. -/
structure Member where
  owner : String
  name : String
  descriptor : String
  deriving DecidableEq

/-- The member as it is shown. -/
def Member.display (member : Member) : String :=
  member.owner ++ "." ++ member.name ++ member.descriptor

variable (pool : Pool)

/-- The entry at an address, if it belongs to one. -/
def entry? (index : Index) : Option Entry :=
  if index.number.toNat = 0 then none else pool.entries[index.number.toNat - 1]?

/-- The entry at an address. -/
def entry (index : Index) : Except LookupError Entry :=
  match pool.entry? index with
  | some entry => .ok entry
  | none => .error (.missing index)

/-- The text of a text entry. -/
def utf8 (index : Index) : Except LookupError String := do
  match ← pool.entry index with
  | .utf8 text => .ok text
  | other => .error (.wrongKind .utf8 index other)

/-- The address of a class's name. -/
def classRef (index : Index) : Except LookupError Index := do
  match ← pool.entry index with
  | .classRef name => .ok name
  | other => .error (.wrongKind .classRef index other)

/-- The name of a class. -/
def className (index : Index) : Except LookupError String := do
  pool.utf8 (← pool.classRef index)

/-- The text of a string constant. -/
def string (index : Index) : Except LookupError String := do
  match ← pool.entry index with
  | .string text => pool.utf8 text
  | other => .error (.wrongKind .string index other)

/-- The member that a field reference names. -/
def fieldRef (index : Index) : Except LookupError MemberRef := do
  match ← pool.entry index with
  | .fieldRef member => .ok member
  | other => .error (.wrongKind .fieldRef index other)

/-- The member that a method reference names. -/
def methodRef (index : Index) : Except LookupError MemberRef := do
  match ← pool.entry index with
  | .methodRef member => .ok member
  | other => .error (.wrongKind .methodRef index other)

/-- The addresses of a member's name and descriptor. -/
def nameAndType (index : Index) : Except LookupError (Index × Index) := do
  match ← pool.entry index with
  | .nameAndType name descriptor => .ok (name, descriptor)
  | other => .error (.wrongKind .nameAndType index other)

/-- The class name, name and descriptor of a member, asked for in this order. -/
def member (ref : MemberRef) : Except LookupError Member := do
  let owner ← pool.className ref.owner
  let (name, descriptor) ← pool.nameAndType ref.nameAndType
  return { owner, name := ← pool.utf8 name, descriptor := ← pool.utf8 descriptor }

/-- The member that a field reference leads to. -/
def field (index : Index) : Except LookupError Member := do
  pool.member (← pool.fieldRef index)

/-- The member that a method reference leads to. -/
def method (index : Index) : Except LookupError Member := do
  pool.member (← pool.methodRef index)

end ClassVM.Pool
