/-! # Reading bytes from front to back

A cursor is a place in a buffer of bytes: how many bytes lie behind it, and the bytes ahead. Every
read says what it found and where the cursor stands afterwards, also when it fails. Numbers are
big-endian and are taken byte by byte, so a number cut off by the end of the buffer leaves the
cursor at that end; a block is taken as a whole or not at all. -/

namespace ClassVM

/-- A place in a buffer. -/
structure Cursor where
  /-- The number of bytes behind the cursor. -/
  offset : Nat
  /-- The bytes ahead of the cursor. -/
  rest : List UInt8
  deriving DecidableEq

/-- The buffer ended at `offset`, before a read was complete. -/
structure EndOfInput where
  offset : Nat
  deriving DecidableEq

/-- The wording of the error. -/
def EndOfInput.message (e : EndOfInput) : String :=
  "unexpected end of input at offset " ++ toString e.offset

namespace Cursor

/-- What a read found, and the cursor after it. -/
abbrev Result (α : Type) := Except EndOfInput α × Cursor

/-- The cursor before the first byte of a buffer. -/
def ofBytes (bytes : List UInt8) : Cursor := ⟨0, bytes⟩

/-- The number of bytes ahead. -/
def remaining (cursor : Cursor) : Nat := cursor.rest.length

/-- No bytes are ahead. -/
def atEnd (cursor : Cursor) : Bool := cursor.rest.isEmpty

/-- The next byte. -/
def byte (cursor : Cursor) : Result UInt8 :=
  match cursor.rest with
  | [] => (.error ⟨cursor.offset⟩, cursor)
  | b :: rest => (.ok b, ⟨cursor.offset + 1, rest⟩)

/-- The number that the next `width` bytes write, where `high` stands before them. -/
def bigEndian : (width high : Nat) → Cursor → Result Nat
  | 0, high, cursor => (.ok high, cursor)
  | width + 1, high, cursor =>
      match cursor.byte with
      | (.error e, after) => (.error e, after)
      | (.ok b, after) => bigEndian width (high * 256 + b.toNat) after

/-- A read followed by a change of what it found. -/
def mapResult {α β : Type} (f : α → β) (result : Result α) : Result β :=
  (result.1.map f, result.2)

/-- An unsigned number of two bytes. -/
def uint16 (cursor : Cursor) : Result UInt16 :=
  mapResult UInt16.ofNat (cursor.bigEndian 2 0)

/-- An unsigned number of four bytes. -/
def uint32 (cursor : Cursor) : Result UInt32 :=
  mapResult UInt32.ofNat (cursor.bigEndian 4 0)

/-- A signed number of one byte. -/
def int8 (cursor : Cursor) : Result Int8 :=
  mapResult (fun n => (UInt8.ofNat n).toInt8) (cursor.bigEndian 1 0)

/-- A signed number of two bytes. -/
def int16 (cursor : Cursor) : Result Int16 :=
  mapResult (fun n => (UInt16.ofNat n).toInt16) (cursor.bigEndian 2 0)

/-- The next `count` bytes as a block. The block is cut off first and then measured, so that the
bytes behind it are not counted. -/
def take (count : Nat) (cursor : Cursor) : Result (List UInt8) :=
  let block := cursor.rest.take count
  if block.length = count then (.ok block, ⟨cursor.offset + count, cursor.rest.drop count⟩)
  else (.error ⟨cursor.offset⟩, cursor)

/-- Passes over the next `count` bytes as a block. -/
def skip (count : Nat) (cursor : Cursor) : Result Unit :=
  mapResult (fun _ => ()) (cursor.take count)

/-- Reading a byte never puts the cursor back. -/
theorem remaining_byte_le (cursor : Cursor) : cursor.byte.2.remaining ≤ cursor.remaining := by
  unfold byte remaining
  split <;> simp_all

/-- A byte that was read lies behind the cursor. -/
theorem remaining_byte_lt {cursor after : Cursor} {b : UInt8} (h : cursor.byte = (.ok b, after)) :
    after.remaining < cursor.remaining := by
  unfold byte at h
  split at h
  · simp at h
  · next rest hrest =>
      simp only [Prod.mk.injEq] at h
      simp [← h.2, remaining, hrest]

/-- Reading a number never puts the cursor back. -/
theorem remaining_bigEndian_le (width high : Nat) (cursor : Cursor) :
    (cursor.bigEndian width high).2.remaining ≤ cursor.remaining := by
  induction width generalizing high cursor with
  | zero => simp [bigEndian]
  | succ width ih =>
      have hb := remaining_byte_le cursor
      rw [bigEndian]
      split
      · next e after h => simpa [h] using hb
      · next b after h =>
          rw [h] at hb
          exact Nat.le_trans (ih _ _) hb

end Cursor

end ClassVM
