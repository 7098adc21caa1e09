import ClassVM.Pool.Lookup

/-! # Classes

A class as its file describes it: versions, constants, flags, the addresses of its own name, of its
parent and of its interfaces, and its methods. The code of a method is kept as bytes. -/

namespace ClassVM

/-- The flags of a method that have a meaning. -/
inductive MethodFlag where
  | isPublic
  | isPrivate
  | isProtected
  | isStatic
  | isFinal
  | isSynchronized
  | isBridge
  | isVarargs
  | isNative
  | isAbstract
  | isStrict
  | isSynthetic
  deriving DecidableEq

namespace MethodFlag

/-- All flags, the lowest bit first. -/
def all : List MethodFlag :=
  [.isPublic, .isPrivate, .isProtected, .isStatic, .isFinal, .isSynchronized, .isBridge,
    .isVarargs, .isNative, .isAbstract, .isStrict, .isSynthetic]

/-- The bit of a flag. -/
def mask : MethodFlag → UInt16
  | .isPublic => 0x0001
  | .isPrivate => 0x0002
  | .isProtected => 0x0004
  | .isStatic => 0x0008
  | .isFinal => 0x0010
  | .isSynchronized => 0x0020
  | .isBridge => 0x0040
  | .isVarargs => 0x0080
  | .isNative => 0x0100
  | .isAbstract => 0x0400
  | .isStrict => 0x0800
  | .isSynthetic => 0x1000

/-- The name of a flag. -/
def name : MethodFlag → String
  | .isPublic => "PUBLIC"
  | .isPrivate => "PRIVATE"
  | .isProtected => "PROTECTED"
  | .isStatic => "STATIC"
  | .isFinal => "FINAL"
  | .isSynchronized => "SYNCHRONIZED"
  | .isBridge => "BRIDGE"
  | .isVarargs => "VARARGS"
  | .isNative => "NATIVE"
  | .isAbstract => "ABSTRACT"
  | .isStrict => "STRICT"
  | .isSynthetic => "SYNTHETIC"

end MethodFlag

/-- The flags of a method, as bits. -/
structure MethodAccess where
  bits : UInt16
  deriving DecidableEq

namespace MethodAccess

/-- The bits that have a meaning. -/
def defined : UInt16 :=
  MethodFlag.all.foldl (fun bits flag => bits ||| flag.mask) 0

/-- The flags among the bits; bits without a meaning are dropped. -/
def ofBits (bits : UInt16) : MethodAccess := ⟨bits &&& defined⟩

/-- The flag is set. -/
def has (access : MethodAccess) (flag : MethodFlag) : Bool :=
  access.bits &&& flag.mask = flag.mask

/-- The names of the flags that are set. -/
def describe (access : MethodAccess) : String :=
  match MethodFlag.all.filter access.has with
  | [] => "(empty)"
  | flags => String.intercalate " | " (flags.map MethodFlag.name)

end MethodAccess

/-- A method, its code undecoded. -/
structure Method where
  access : MethodAccess
  nameIndex : Pool.Index
  descriptorIndex : Pool.Index
  maxStack : Nat
  maxLocals : Nat
  code : List UInt8
  deriving DecidableEq

/-- The method belongs to the class and not to its objects. -/
def Method.isStatic (method : Method) : Bool :=
  method.access.has .isStatic

/-- A class as its file describes it. -/
structure ClassFile where
  minorVersion : UInt16
  majorVersion : UInt16
  pool : Pool
  access : UInt16
  thisClass : Pool.Index
  superClass : Pool.Index
  interfaces : List Pool.Index
  methods : List Method
  deriving DecidableEq

namespace ClassFile

variable (classFile : ClassFile)

/-- The name of the class. -/
def name : Except Pool.LookupError String :=
  classFile.pool.className classFile.thisClass

/-- The name of the parent. -/
def superName : Except Pool.LookupError String :=
  classFile.pool.className classFile.superClass

/-- The name of one of the class's methods. -/
def methodName (method : Method) : Except Pool.LookupError String :=
  classFile.pool.utf8 method.nameIndex

/-- The descriptor of one of the class's methods. -/
def methodDescriptor (method : Method) : Except Pool.LookupError String :=
  classFile.pool.utf8 method.descriptorIndex

/-- The method bears the name; a method whose name cannot be looked up bears none. -/
def isNamed (name : String) (method : Method) : Bool :=
  match classFile.methodName method with
  | .ok found => found = name
  | .error _ => false

/-- The first method with the name, whatever its descriptor. -/
def method? (name : String) : Option Method :=
  classFile.methods.find? (classFile.isNamed name)

end ClassFile

end ClassVM
