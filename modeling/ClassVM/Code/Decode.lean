import ClassVM.Code.Opcode
import ClassVM.Log.Record
import ClassVM.Log.Traced

/-! # Decoding code

Code is read in one sweep from its first byte to its last, which gives the instructions with the
offsets that they start at. Then every branch is resolved: its target has to be the start of an
instruction, and is replaced by that instruction's index. The end of the code is no target. -/

namespace ClassVM.Code

/-- Why bytes are no code. -/
inductive DecodeError where
  | truncated (cause : EndOfInput)
  | unsupportedOpcode (opcode : UInt8) (offset : Nat)
  | invalidTarget (offset : Nat) (target : Int)
  deriving DecidableEq

/-- The wording of an error. -/
def DecodeError.message : DecodeError → String
  | .truncated _ => "truncated instruction"
  | .unsupportedOpcode opcode offset =>
      "unsupported opcode " ++ Text.hex 2 opcode.toNat ++ " at offset " ++ toString offset
  | .invalidTarget offset target =>
      "branch at offset " ++ toString offset ++ " targets offset " ++ toString target ++
        ", which does not start an instruction"

/-- An instruction and the offset that it starts at. -/
structure Located where
  offset : Nat
  instruction : Instruction Int16
  deriving DecidableEq

/-- The log record of an instruction that has been read. -/
def Located.record (located : Located) : Log.Record where
  level := .trace
  source := .decoder
  message :=
    Text.alignRight 5 (toString located.offset) ++ ": " ++ located.instruction.displayRaw

/-- The instruction at the cursor, and the cursor after it. -/
def readOne (cursor : Cursor) : Except DecodeError (Instruction Int16 × Cursor) :=
  match cursor.byte with
  | (.error e, _) => .error (.truncated e)
  | (.ok opcode, operands) =>
      match formOf opcode with
      | none => .error (.unsupportedOpcode opcode cursor.offset)
      | some form =>
          match form.read operands with
          | (.error e, _) => .error (.truncated e)
          | (.ok instruction, after) => .ok (instruction, after)

/-- Reading operands never puts the cursor back. -/
theorem remaining_read_le (form : Form) (cursor : Cursor) :
    (form.read cursor).2.remaining ≤ cursor.remaining := by
  unfold Form.read
  split
  · exact Nat.le_refl _
  · exact cursor.remaining_byte_le
  · next make =>
      have hb := cursor.remaining_byte_le
      split
      · next e after h => simpa [h] using hb
      · next first after h =>
          rw [h] at hb
          exact Nat.le_trans after.remaining_byte_le hb
  · exact cursor.remaining_bigEndian_le 2 0

/-- An instruction takes up at least one byte. -/
theorem remaining_readOne_lt {cursor after : Cursor} {instruction : Instruction Int16}
    (h : readOne cursor = .ok (instruction, after)) :
    after.remaining < cursor.remaining := by
  unfold readOne at h
  split at h
  · simp at h
  · next opcode operands hbyte =>
      split at h
      · simp at h
      · next form _ =>
          have hread := remaining_read_le form operands
          split at h
          · simp at h
          · next found last hlast =>
              simp only [Except.ok.injEq, Prod.mk.injEq] at h
              rw [hlast, h.2] at hread
              exact Nat.lt_of_le_of_lt hread (Cursor.remaining_byte_lt hbyte)

/-- The instructions from the cursor to the end of the code. -/
def sweep (cursor : Cursor) : Log.Traced Located DecodeError (List Located) :=
  if cursor.atEnd then pure []
  else
    match _h : readOne cursor with
    | .error e => .fail e
    | .ok (instruction, after) => do
        .emit ⟨cursor.offset, instruction⟩
        (⟨cursor.offset, instruction⟩ :: ·) <$> sweep after
termination_by cursor.remaining
decreasing_by exact remaining_readOne_lt _h

/-- The instructions of the code, their branches unresolved. -/
def scan (code : List UInt8) : Log.Traced Located DecodeError (List Located) :=
  sweep (Cursor.ofBytes code)

/-- The index of a number among `width` numbers that increase, the first of them at `low`. The one
in the middle is the number, or tells on which side to go on. -/
def search (numbers : Array Nat) (wanted low width : Nat) : Option Nat :=
  if width = 0 then none
  else
    let middle := low + width / 2
    match numbers[middle]? with
    | none => none
    | some number =>
        if number = wanted then some middle
        else if number < wanted then search numbers wanted (middle + 1) (width - width / 2 - 1)
        else search numbers wanted low (width / 2)
termination_by width

/-- The index of the instruction that starts `distance` bytes from `offset`. -/
def targetIndex (starts : Array Nat) (offset : Nat) (distance : Int16) : Except DecodeError Nat :=
  let target : Int := offset + distance.toInt
  let found := if 0 ≤ target then search starts target.toNat 0 starts.size else none
  match found with
  | some index => .ok index
  | none => .error (.invalidTarget offset target)

/-- The offsets that the instructions start at. -/
def startOffsets (located : List Located) : Array Nat := (located.map Located.offset).toArray

/-- The instructions with every branch resolved, unless one of them has no target. -/
def resolve (located : List Located) : Except DecodeError (List (Instruction Nat)) :=
  let starts := startOffsets located
  located.mapM fun place => place.instruction.retarget (targetIndex starts place.offset)

/-- The instructions of the code. -/
def decode (code : List UInt8) : Log.Traced Located DecodeError (List (Instruction Nat)) := do
  let located ← scan code
  .ofExcept (resolve located)

end ClassVM.Code
