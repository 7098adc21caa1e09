import ClassVM.Code.Instruction
import ClassVM.Cursor

/-! # Opcodes

The first byte of an instruction says which instruction it is and what operands follow. -/

namespace ClassVM.Code

/-- What follows an opcode, and the instruction that it makes up. -/
inductive Form where
  /-- No operand. -/
  | plain (instruction : Instruction Int16)
  /-- One byte. -/
  | byte (make : UInt8 → Instruction Int16)
  /-- Two bytes, one by one. -/
  | pair (make : UInt8 → UInt8 → Instruction Int16)
  /-- A number of two bytes. -/
  | word (make : UInt16 → Instruction Int16)

namespace Form

/-- A number of two bytes that is a signed distance. -/
def branch (make : Int16 → Instruction Int16) : Form :=
  .word fun operand => make operand.toInt16

/-- A number of two bytes that is an address in the pool. -/
def pooled (make : Pool.Index → Instruction Int16) : Form :=
  .word fun operand => make ⟨operand⟩

/-- Reads the operands. -/
def read (form : Form) (cursor : Cursor) : Cursor.Result (Instruction Int16) :=
  match form with
  | .plain instruction => (.ok instruction, cursor)
  | .byte make => Cursor.mapResult make cursor.byte
  | .pair make =>
      match cursor.byte with
      | (.error e, after) => (.error e, after)
      | (.ok first, after) => Cursor.mapResult (make first) after.byte
  | .word make => Cursor.mapResult make cursor.uint16

end Form

/-- The form of the instructions with an opcode; most bytes are no opcode. -/
def formOf (opcode : UInt8) : Option Form :=
  match opcode with
  | 0x02 => some (.plain (.push (-1)))
  | 0x03 => some (.plain (.push 0))
  | 0x04 => some (.plain (.push 1))
  | 0x05 => some (.plain (.push 2))
  | 0x06 => some (.plain (.push 3))
  | 0x07 => some (.plain (.push 4))
  | 0x08 => some (.plain (.push 5))
  | 0x10 => some (.byte fun operand => .push operand.toInt8.toInt32)
  | 0x12 => some (.byte fun operand => .loadConstant ⟨operand.toUInt16⟩)
  | 0x1A => some (.plain (.load 0))
  | 0x1B => some (.plain (.load 1))
  | 0x1C => some (.plain (.load 2))
  | 0x3C => some (.plain (.store 1))
  | 0x3D => some (.plain (.store 2))
  | 0x60 => some (.plain (.arithmetic .add))
  | 0x64 => some (.plain (.arithmetic .sub))
  | 0x68 => some (.plain (.arithmetic .mul))
  | 0x70 => some (.plain (.arithmetic .rem))
  | 0x84 => some (.pair fun slot delta => .increment slot delta.toInt8)
  | 0x9A => some (.branch .ifNonzero)
  | 0xA2 => some (.branch (.ifCompare .greaterOrEqual))
  | 0xA3 => some (.branch (.ifCompare .greater))
  | 0xA7 => some (.branch .goto)
  | 0xAC => some (.plain .returnValue)
  | 0xB1 => some (.plain .returnNothing)
  | 0xB2 => some (.pooled .getStatic)
  | 0xB6 => some (.pooled .invokeVirtual)
  | 0xB8 => some (.pooled .invokeStatic)
  | _ => none

end ClassVM.Code
