import ClassVM.Text.Quoted

/-! # The pool of constants

Text, numbers of other entries and references to members stand in one table per class. Entries are
addressed from 1; the address 0 belongs to no entry. -/

namespace ClassVM.Pool

/-- The address of an entry. -/
structure Index where
  number : UInt16
  deriving DecidableEq

/-- The address as it is shown. -/
def Index.display (index : Index) : String :=
  "#" ++ toString index.number.toNat

/-- The address inside the description of an entry or value. -/
def Index.describe (index : Index) : String :=
  "ConstantPoolIndex(" ++ toString index.number.toNat ++ ")"

/-- A member of a class, by the address of the class and of the member's name and type. -/
structure MemberRef where
  owner : Index
  nameAndType : Index
  deriving DecidableEq

/-- The description of a member reference, field by field. -/
def MemberRef.describe (member : MemberRef) : String :=
  "MemberReference \x7b class: " ++ member.owner.describe ++ ", name_and_type: " ++
    member.nameAndType.describe ++ " \x7d"

/-- One constant. -/
inductive Entry where
  | utf8 (text : String)
  | classRef (name : Index)
  | string (text : Index)
  | fieldRef (member : MemberRef)
  | methodRef (member : MemberRef)
  | nameAndType (name descriptor : Index)
  deriving DecidableEq

/-- The description of a constant. -/
def Entry.describe : Entry → String
  | .utf8 text => "Utf8(" ++ Text.quoted text ++ ")"
  | .classRef name => "Class \x7b name: " ++ name.describe ++ " \x7d"
  | .string text => "String \x7b string: " ++ text.describe ++ " \x7d"
  | .fieldRef member => "FieldReference(" ++ member.describe ++ ")"
  | .methodRef member => "MethodReference(" ++ member.describe ++ ")"
  | .nameAndType name descriptor =>
      "NameAndType \x7b name: " ++ name.describe ++ ", ty: " ++ descriptor.describe ++ " \x7d"

/-- The kinds of constants. -/
inductive Kind where
  | utf8
  | classRef
  | string
  | fieldRef
  | methodRef
  | nameAndType
  deriving DecidableEq

/-- The kind of a constant. -/
def Entry.kind : Entry → Kind
  | .utf8 _ => .utf8
  | .classRef _ => .classRef
  | .string _ => .string
  | .fieldRef _ => .fieldRef
  | .methodRef _ => .methodRef
  | .nameAndType _ _ => .nameAndType

/-- The name of a kind in messages. -/
def Kind.name : Kind → String
  | .utf8 => "UTF8"
  | .classRef => "class"
  | .string => "String"
  | .fieldRef => "Fieldref"
  | .methodRef => "Methodref"
  | .nameAndType => "NameAndType"

end ClassVM.Pool

namespace ClassVM

/-- The constants of a class, the entry addressed by 1 first. -/
structure Pool where
  entries : Array Pool.Entry
  deriving DecidableEq

namespace Pool

/-- The number of constants. -/
def size (pool : Pool) : Nat := pool.entries.size

/-- The constants with their addresses, in order. -/
def indexed (pool : Pool) : List (Index × Entry) :=
  pool.entries.toList.zipIdx.map fun (entry, i) => (⟨UInt16.ofNat (i + 1)⟩, entry)

end Pool

end ClassVM
