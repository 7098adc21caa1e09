/-! # Text as bytes

Decoding UTF-8 either gives the text or says where the bytes stop being text. A faulty sequence is
reported from its first byte, together with the number of its bytes that could still have begun a
character; bytes that end inside a character so far valid are reported as incomplete. -/

namespace ClassVM.Text.Utf8

/-- Why bytes are no text. -/
inductive Fault where
  /-- `length` bytes from `index` on begin no character. -/
  | invalid (index length : Nat)
  /-- The bytes end inside the character that begins at `index`. -/
  | incomplete (index : Nat)
  deriving DecidableEq

/-- The wording of a fault. -/
def Fault.message : Fault → String
  | .invalid index length =>
      "invalid utf-8 sequence of " ++ toString length ++ " bytes from index " ++ toString index
  | .incomplete index => "incomplete utf-8 byte sequence from index " ++ toString index

/-- Continuation bytes that a character still needs, and the bounds of the next of them. -/
structure Pending where
  owed : Nat
  low : UInt8
  high : UInt8
  deriving DecidableEq

namespace Pending

/-- Between two characters. -/
def idle : Pending := ⟨0, 0x80, 0xBF⟩

/-- Any continuation bytes. -/
def tail (owed : Nat) : Pending := ⟨owed, 0x80, 0xBF⟩

/-- What the first byte of a character leaves to be read. The bounds keep out overlong forms,
surrogates and code points beyond the last plane. -/
def ofLead (b : UInt8) : Option Pending :=
  if b < 0x80 then some idle
  else if b < 0xC2 then none
  else if b < 0xE0 then some (tail 1)
  else if b = 0xE0 then some ⟨2, 0xA0, 0xBF⟩
  else if b = 0xED then some ⟨2, 0x80, 0x9F⟩
  else if b < 0xF0 then some (tail 2)
  else if b = 0xF0 then some ⟨3, 0x90, 0xBF⟩
  else if b < 0xF4 then some (tail 3)
  else if b = 0xF4 then some ⟨3, 0x80, 0x8F⟩
  else none

end Pending

/-- The first fault of the bytes, where the current character began at `index` and has `read`
bytes so far. Bytes without a fault count as incomplete at their end. -/
def faultFrom (index read : Nat) (pending : Pending) : List UInt8 → Fault
  | [] => .incomplete index
  | b :: rest =>
      if pending.owed = 0 then
        match Pending.ofLead b with
        | none => .invalid index 1
        | some next =>
            if next.owed = 0 then faultFrom (index + 1) 0 next rest
            else faultFrom index 1 next rest
      else if pending.low ≤ b && b ≤ pending.high then
        if pending.owed = 1 then faultFrom (index + read + 1) 0 .idle rest
        else faultFrom index (read + 1) (.tail (pending.owed - 1)) rest
      else .invalid index read

/-- The text that the bytes spell, or the first fault in them. -/
def decode (bytes : List UInt8) : Except Fault String :=
  match String.fromUTF8? bytes.toByteArray with
  | some text => .ok text
  | none => .error (faultFrom 0 0 .idle bytes)

/-- The bytes of a text. -/
def encode (text : String) : List UInt8 :=
  text.toUTF8.data.toList

end ClassVM.Text.Utf8
