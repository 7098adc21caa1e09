import ClassVM.Cursor
import ClassVM.Pool.Lookup
import ClassVM.Text.Layout
import ClassVM.Text.Utf8

/-! # Why bytes are no class file -/

namespace ClassVM.ClassFile

/-- Why bytes are no class file. -/
inductive ReadError where
  | missingMagic (found : UInt32)
  | endOfInput (cause : EndOfInput)
  | invalidPoolCount (declared : UInt16)
  | unknownTag (tag : UInt8)
  | invalidUtf8 (index : Nat) (fault : Text.Utf8.Fault)
  | invalidIndex (index declared : UInt16)
  | unsupportedFields (count : UInt16)
  | attributeCount (method : String) (count : UInt16)
  | missingCode (method found : String)
  | trailingBytes (count : Nat)
  | lookup (cause : Pool.LookupError)
  deriving DecidableEq

/-- The wording of an error. -/
def ReadError.message : ReadError → String
  | .missingMagic found => "missing magic number, found " ++ Text.hex 8 found.toNat
  | .endOfInput _ => "unexpected end of file"
  | .invalidPoolCount declared => "invalid constant pool count " ++ toString declared.toNat
  | .unknownTag tag => "unknown constant tag " ++ toString tag.toNat
  | .invalidUtf8 index fault =>
      "invalid utf string at constant index " ++ toString index ++ ": " ++ fault.message
  | .invalidIndex index declared =>
      "constant pool index " ++ toString index.toNat ++ " is outside of 1.." ++
        toString declared.toNat
  | .unsupportedFields count =>
      "fields are not supported, but the class declares " ++ toString count.toNat
  | .attributeCount method count =>
      "method " ++ method ++ " has " ++ toString count.toNat ++
        " attributes, expected exactly one Code attribute"
  | .missingCode method found =>
      "no code attribute found for method " ++ method ++ ", found '" ++ found ++ "' instead"
  | .trailingBytes count =>
      toString count ++ " unconsumed bytes after the end of the class file"
  | .lookup _ => "constant pool error"

end ClassVM.ClassFile
