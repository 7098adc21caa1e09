import ClassVM.ClassFile.Reader

/-! # The class file format

A class file is a magic number, two versions, the pool, flags, the class's own address and its
parent's, then counted lists of interfaces, fields, methods and attributes. Fields are refused. A
method carries exactly one attribute, its code; exception tables and all other attributes are passed
over. The whole buffer has to be used up.

Addresses inside pool entries are checked against the declared size of the pool while it is read,
so they may point to entries still to come. The addresses of the parent and the interfaces are not
checked. -/

namespace ClassVM.ClassFile

namespace Reader

/-- An address that is not checked. -/
def index : Reader Pool.Index := do
  pure ⟨← read Cursor.uint16⟩

/-- An address inside a pool whose declared count is one more than its size. -/
def checkedIndex (declared : UInt16) : Reader Pool.Index := do
  let number ← read Cursor.uint16
  if number = 0 || declared ≤ number then fail (.invalidIndex number declared)
  else pure ⟨number⟩

/-- A member reference with checked addresses. -/
def memberRef (declared : UInt16) : Reader Pool.MemberRef := do
  let owner ← checkedIndex declared
  let nameAndType ← checkedIndex declared
  pure ⟨owner, nameAndType⟩

/-- The text that the bytes of the constant at `position` spell. -/
def decoded (position : Nat) (bytes : List UInt8) : Reader String :=
  match Text.Utf8.decode bytes with
  | .ok text => pure text
  | .error fault => fail (.invalidUtf8 position fault)

/-- The text of the constant at `position`: a length and that many bytes. -/
def utf8Text (position : Nat) : Reader String := do
  let length ← read Cursor.uint16
  let bytes ← read (Cursor.take length.toNat)
  decoded position bytes

/-- What the tag of the constant at `position` calls for. -/
def contents (declared : UInt16) (position : Nat) (tag : UInt8) : Reader Pool.Entry :=
  match tag with
  | 1 => .utf8 <$> utf8Text position
  | 7 => .classRef <$> checkedIndex declared
  | 8 => .string <$> checkedIndex declared
  | 9 => .fieldRef <$> memberRef declared
  | 10 => .methodRef <$> memberRef declared
  | 12 => do
      let name ← checkedIndex declared
      let descriptor ← checkedIndex declared
      pure (.nameAndType name descriptor)
  | tag => fail (.unknownTag tag)

/-- The constant at `position`: a tag and what the tag calls for. -/
def entry (declared : UInt16) (position : Nat) : Reader Pool.Entry := do
  let tag ← read Cursor.byte
  contents declared position tag

/-- The next `count` constants, the first of them at `position`. -/
def entries (declared : UInt16) : (count position : Nat) → Reader (List Pool.Entry)
  | 0, _ => pure []
  | count + 1, position => do
      let first ← entry declared position
      emit (.constant position first)
      (first :: ·) <$> entries declared count (position + 1)

/-- The pool. Its declared count is one more than the number of constants. -/
def pool : Reader Pool := do
  let declared ← read Cursor.uint16
  if declared = 0 then fail (.invalidPoolCount declared)
  else
    let count := declared.toNat - 1
    emit (.poolSize count)
    (fun found => ⟨found.toArray⟩) <$> entries declared count 1

/-- Passes over one attribute. -/
def skipAttribute (constants : Pool) : Reader Unit := do
  let name ← lookup (constants.utf8 (← index))
  let length ← read Cursor.uint32
  emit (.skippedAttribute name)
  read (Cursor.skip length.toNat)

/-- Passes over a counted list of attributes. -/
def skipAttributes (constants : Pool) : Reader Unit := do
  let count ← read Cursor.uint16
  (fun _ => ()) <$> times (skipAttribute constants) count.toNat

/-- The name of the attribute that holds a method's code. -/
def codeAttribute : String := "Code"

/-- What a code attribute says of a method. -/
structure CodeBody where
  maxStack : Nat
  maxLocals : Nat
  code : List UInt8
  deriving DecidableEq

/-- The contents of a code attribute, after its name. The length that the attribute declares for
itself is not used. -/
def codeBody (constants : Pool) : Reader CodeBody := do
  let _ ← read Cursor.uint32
  let maxStack ← read Cursor.uint16
  let maxLocals ← read Cursor.uint16
  let length ← read Cursor.uint32
  let code ← read (Cursor.take length.toNat)
  emit (.code code.length maxStack.toNat maxLocals.toNat)
  let handlers ← read Cursor.uint16
  read (Cursor.skip (handlers.toNat * 8))
  skipAttributes constants
  pure ⟨maxStack.toNat, maxLocals.toNat, code⟩

/-- One method. -/
def method (constants : Pool) : Reader Method := do
  let access := MethodAccess.ofBits (← read Cursor.uint16)
  let nameIndex ← index
  let name ← lookup (constants.utf8 nameIndex)
  let descriptorIndex ← index
  let descriptor ← lookup (constants.utf8 descriptorIndex)
  emit (.method name descriptor access)
  let count ← read Cursor.uint16
  if count ≠ 1 then fail (.attributeCount name count)
  else
    let found ← lookup (constants.utf8 (← index))
    if found ≠ codeAttribute then fail (.missingCode name found)
    else
      let body ← codeBody constants
      pure ⟨access, nameIndex, descriptorIndex, body.maxStack, body.maxLocals, body.code⟩

/-- The number that every class file begins with. -/
def magic : UInt32 := 0xCAFEBABE

/-- A class file from its first byte on, without regard to what follows it. -/
def file : Reader ClassFile := do
  let found ← read Cursor.uint32
  if found ≠ magic then fail (.missingMagic found)
  else
    let minorVersion ← read Cursor.uint16
    let majorVersion ← read Cursor.uint16
    emit (.versions majorVersion minorVersion)
    let constants ← pool
    let access ← read Cursor.uint16
    emit (.classAccess access)
    let thisClass ← index
    let name ← lookup (constants.className thisClass)
    emit (.className name)
    let superClass ← index
    let interfaceCount ← read Cursor.uint16
    let interfaces ← times index interfaceCount.toNat
    emit (.interfaces interfaceCount.toNat)
    let fieldCount ← read Cursor.uint16
    if fieldCount ≠ 0 then fail (.unsupportedFields fieldCount)
    else
      let methodCount ← read Cursor.uint16
      let methods ← times (method constants) methodCount.toNat
      skipAttributes constants
      pure
        { minorVersion, majorVersion, pool := constants, access, thisClass, superClass,
          interfaces, methods }

end Reader

/-- The class that the bytes describe, all of them. -/
def parse (bytes : List UInt8) : Log.Traced ReadEvent ReadError ClassFile := do
  let (classFile, after) ← Reader.file (Cursor.ofBytes bytes)
  if after.atEnd then pure classFile else .fail (.trailingBytes after.remaining)

end ClassVM.ClassFile
