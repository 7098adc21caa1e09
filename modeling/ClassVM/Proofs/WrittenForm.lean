import ClassVM.ClassFile.Basic
import ClassVM.Proofs.CursorReads
import ClassVM.Text.Utf8

/-! # The written form of a class

A class file holds a class and some data that a class does not keep: access bits without a meaning,
the address of the word `Code`, the length that a code attribute declares for itself, exception
tables, and attributes. The written form is given for a class together with such data, without
regard to how it is read. -/

namespace ClassVM

open Cursor (numeral)

namespace Pool

/-- The address belongs to an entry of a pool of the size. -/
def Index.Within (size : Nat) (index : Index) : Prop :=
  1 ≤ index.number.toNat ∧ index.number.toNat ≤ size

/-- Both addresses belong to entries of a pool of the size. -/
def MemberRef.Within (size : Nat) (member : MemberRef) : Prop :=
  member.owner.Within size ∧ member.nameAndType.Within size

/-- The entry can be written into a pool of the size: its text is short enough, and its addresses
belong to entries. -/
def Entry.Fits (size : Nat) : Entry → Prop
  | .utf8 text => (Text.Utf8.encode text).length ≤ 65535
  | .classRef name => name.Within size
  | .string text => text.Within size
  | .fieldRef member => member.Within size
  | .methodRef member => member.Within size
  | .nameAndType name descriptor => name.Within size ∧ descriptor.Within size

/-- The text entry at the address. -/
def TextAt (pool : Pool) (index : Index) (text : String) : Prop :=
  pool.entry? index = some (.utf8 text)

def Index.written (index : Index) : List UInt8 := numeral 2 index.number.toNat

def MemberRef.written (member : MemberRef) : List UInt8 :=
  member.owner.written ++ member.nameAndType.written

/-- The tag of an entry and its contents. -/
def Entry.written : Entry → List UInt8
  | .utf8 text =>
      1 :: (numeral 2 (Text.Utf8.encode text).length ++ Text.Utf8.encode text)
  | .classRef name => 7 :: name.written
  | .string text => 8 :: text.written
  | .fieldRef member => 9 :: member.written
  | .methodRef member => 10 :: member.written
  | .nameAndType name descriptor => 12 :: (name.written ++ descriptor.written)

end Pool

namespace ClassFile

/-- An attribute that is passed over. -/
structure Attribute where
  nameIndex : Pool.Index
  payload : List UInt8
  deriving DecidableEq

/-- What a code attribute says that the method does not keep. -/
structure CodeExtras where
  /-- The length that the attribute declares for itself. -/
  declaredLength : UInt32
  /-- The exception table, in rows of eight bytes. -/
  handlers : List UInt8
  attributes : List Attribute
  deriving DecidableEq

/-- What a file says of a method that the method does not keep. -/
structure MethodExtras where
  /-- Access bits without a meaning. -/
  accessBits : UInt16
  /-- The address of the name of the code attribute. -/
  codeIndex : Pool.Index
  code : CodeExtras
  deriving DecidableEq

/-- What a file says of a class that the class does not keep. -/
structure Extras where
  methods : List MethodExtras
  attributes : List Attribute
  deriving DecidableEq

/-! ## Bytes -/

def Attribute.written (item : Attribute) : List UInt8 :=
  item.nameIndex.written ++ numeral 4 item.payload.length ++ item.payload

/-- A count, then the items. -/
def writtenList {α : Type} (written : α → List UInt8) (items : List α) : List UInt8 :=
  numeral 2 items.length ++ items.flatMap written

/-- The contents of a code attribute, after its name. -/
def writtenCode (maxStack maxLocals : Nat) (code : List UInt8) (extras : CodeExtras) :
    List UInt8 :=
  numeral 4 extras.declaredLength.toNat ++ numeral 2 maxStack ++ numeral 2 maxLocals ++
    numeral 4 code.length ++ code ++ numeral 2 (extras.handlers.length / 8) ++ extras.handlers ++
    writtenList Attribute.written extras.attributes

/-- A method with its one attribute. -/
def writtenMethod (method : Method) (extras : MethodExtras) : List UInt8 :=
  numeral 2 (method.access.bits ||| extras.accessBits).toNat ++ method.nameIndex.written ++
    method.descriptorIndex.written ++ numeral 2 1 ++ extras.codeIndex.written ++
    writtenCode method.maxStack method.maxLocals method.code extras.code

def writtenPool (pool : Pool) : List UInt8 :=
  numeral 2 (pool.size + 1) ++ pool.entries.toList.flatMap Pool.Entry.written

/-- A class file: magic number, versions, pool, flags, addresses, interfaces, no fields, methods,
attributes. -/
def written (classFile : ClassFile) (extras : Extras) : List UInt8 :=
  numeral 4 0xCAFEBABE ++ numeral 2 classFile.minorVersion.toNat ++
    numeral 2 classFile.majorVersion.toNat ++ writtenPool classFile.pool ++
    numeral 2 classFile.access.toNat ++ classFile.thisClass.written ++
    classFile.superClass.written ++ writtenList Pool.Index.written classFile.interfaces ++
    numeral 2 0 ++ numeral 2 classFile.methods.length ++
    (List.zipWith writtenMethod classFile.methods extras.methods).flatten ++
    writtenList Attribute.written extras.attributes

/-! ## What can be written -/

/-- The attribute is named by a text, and its payload is short enough. -/
structure Attribute.Fits (pool : Pool) (item : Attribute) : Prop where
  name : ∃ text, pool.TextAt item.nameIndex text
  payload : item.payload.length < 2 ^ 32

/-- The method has only access bits with a meaning, is named and described by texts, and its
numbers and code fit into their fields. -/
structure FitsMethod (pool : Pool) (method : Method) : Prop where
  access : method.access.bits &&& MethodAccess.defined = method.access.bits
  name : ∃ text, pool.TextAt method.nameIndex text
  descriptor : ∃ text, pool.TextAt method.descriptorIndex text
  maxStack : method.maxStack < 2 ^ 16
  maxLocals : method.maxLocals < 2 ^ 16
  code : method.code.length < 2 ^ 32

/-- The exception table has whole rows, and the lists fit. -/
structure CodeExtras.Fits (pool : Pool) (extras : CodeExtras) : Prop where
  handlers : ∃ rows < 2 ^ 16, extras.handlers.length = rows * 8
  attributeCount : extras.attributes.length < 2 ^ 16
  attributes : ∀ item ∈ extras.attributes, item.Fits pool

/-- The access bits have no meaning, and the code attribute bears its name. -/
structure MethodExtras.Fits (pool : Pool) (extras : MethodExtras) : Prop where
  accessBits : extras.accessBits &&& MethodAccess.defined = 0
  codeIndex : pool.TextAt extras.codeIndex "Code"
  code : extras.code.Fits pool

/-- The class can be written: every count and number fits into its field, every address in the pool
belongs to an entry, and the class and its methods are named by texts. The versions, the flags, the
parent and the interfaces are arbitrary. -/
structure WellFormed (classFile : ClassFile) : Prop where
  poolSize : classFile.pool.size ≤ 65534
  entries : ∀ entry ∈ classFile.pool.entries, entry.Fits classFile.pool.size
  name : ∃ nameIndex text, classFile.pool.entry? classFile.thisClass = some (.classRef nameIndex) ∧
    classFile.pool.TextAt nameIndex text
  interfaceCount : classFile.interfaces.length ≤ 65535
  methodCount : classFile.methods.length ≤ 65535
  methods : ∀ method ∈ classFile.methods, FitsMethod classFile.pool method

/-- The data can be written beside the class. -/
structure Extras.Fits (classFile : ClassFile) (extras : Extras) : Prop where
  methodCount : extras.methods.length = classFile.methods.length
  methods : ∀ method ∈ extras.methods, method.Fits classFile.pool
  attributeCount : extras.attributes.length < 2 ^ 16
  attributes : ∀ item ∈ extras.attributes, item.Fits classFile.pool

/-- The class can be written, and the bytes are what is written for it beside some data. -/
def WrittenAs (classFile : ClassFile) (bytes : List UInt8) : Prop :=
  classFile.WellFormed ∧
    ∃ extras : Extras, extras.Fits classFile ∧ bytes = classFile.written extras

end ClassFile

end ClassVM
