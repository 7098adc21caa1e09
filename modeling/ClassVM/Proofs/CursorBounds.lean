import ClassVM.Proofs.CursorReads
import Mathlib.Data.Nat.Digits.Defs

/-! # Cursors stay in their buffer

Reads follow one another in any order, and reading goes on behind a read that has failed. Wherever
this leads, the cursor stands in the buffer or at its end, with the rest of the buffer ahead. From
there a number is read exactly if enough bytes are left for it, and so is a block. A number that is
cut off takes the bytes that are left with it and is missed at the end of the buffer; a block that
is cut off takes none and is missed where it starts. -/

namespace ClassVM.Cursor

/-- The place so many bytes further on. -/
def forward (cursor : Cursor) (count : Nat) : Cursor :=
  ⟨cursor.offset + count, cursor.rest.drop count⟩

/-- The place at an offset in a buffer. -/
def place (buffer : List UInt8) (offset : Nat) : Cursor := ⟨offset, buffer.drop offset⟩

theorem forward_place (buffer : List UInt8) (offset count : Nat) :
    (place buffer offset).forward count = place buffer (offset + count) := by
  simp [forward, place]

theorem remaining_place (buffer : List UInt8) (offset : Nat) :
    (place buffer offset).remaining = buffer.length - offset :=
  List.length_drop

theorem endOffset_place {buffer : List UInt8} {offset : Nat} (h : offset ≤ buffer.length) :
    (place buffer offset).endOffset = buffer.length := by
  rw [endOffset, remaining_place]
  exact Nat.add_sub_of_le h

/-! ## Digits and blocks -/

theorem valueFrom_eq_ofDigits (block : List UInt8) :
    valueFrom 0 block = Nat.ofDigits 256 (block.reverse.map UInt8.toNat) := by
  induction block using List.reverseRecOn with
  | nil => rfl
  | append_singleton front last ih =>
      rw [valueFrom_append, ih, List.reverse_append, List.reverse_singleton, List.singleton_append,
        List.map_cons, Nat.ofDigits_cons]
      simp only [valueFrom, List.foldl_cons, List.foldl_nil]
      omega

theorem bigEndian_eq (width high : Nat) (cursor : Cursor) :
    cursor.bigEndian width high =
      if width ≤ cursor.remaining then
        (.ok (valueFrom high (cursor.rest.take width)), cursor.forward width)
      else (.error ⟨cursor.endOffset⟩, cursor.forward cursor.remaining) := by
  -- Every byte moves the cursor and becomes part of `high`, so both vary in the induction.
  induction width generalizing high cursor with
  | zero => simp [bigEndian, forward, valueFrom]
  | succ width ih =>
      obtain ⟨offset, rest⟩ := cursor
      cases rest with
      | nil => simp [bigEndian, byte, remaining, endOffset, forward]
      | cons b rest =>
          have hoffset (count : Nat) : offset + 1 + count = offset + (count + 1) := by omega
          rw [bigEndian, byte]
          simp only [ih]
          simp [remaining, endOffset, forward, valueFrom, hoffset]

theorem take_eq (count : Nat) (cursor : Cursor) :
    cursor.take count =
      if count ≤ cursor.remaining then (.ok (cursor.rest.take count), cursor.forward count)
      else (.error ⟨cursor.offset⟩, cursor) := by
  have hcut : (cursor.rest.take count).length = count ↔ count ≤ cursor.remaining := by
    rw [List.length_take, remaining]
    omega
  simp only [take, hcut]
  rfl

theorem skip_eq (count : Nat) (cursor : Cursor) :
    cursor.skip count =
      if count ≤ cursor.remaining then (.ok (), cursor.forward count)
      else (.error ⟨cursor.offset⟩, cursor) := by
  rw [skip, take_eq]
  split
  · rfl
  · rfl

theorem mapResult_mapResult {α β γ : Type} (f : α → β) (g : β → γ) (result : Result α) :
    mapResult g (mapResult f result) = mapResult (fun a => g (f a)) result := by
  obtain ⟨found, after⟩ := result
  cases found with
  | error e => rfl
  | ok a => rfl

theorem byte_eq_bigEndian (cursor : Cursor) :
    cursor.byte = mapResult UInt8.ofNat (cursor.bigEndian 1 0) := by
  obtain ⟨offset, rest⟩ := cursor
  cases rest with
  | nil => rfl
  | cons b rest => simp [bigEndian, byte, mapResult, Except.map]

/-! ## Numbers -/

/-- The kinds of numbers that are read. -/
inductive Number where
  | byte
  | int8
  | uint16
  | int16
  | uint32
  deriving DecidableEq

namespace Number

/-- The bytes that a number takes. -/
def width : Number → Nat
  | .byte | .int8 => 1
  | .uint16 | .int16 => 2
  | .uint32 => 4

/-- Some of the numbers of the kind are negative. -/
def isSigned : Number → Bool
  | .int8 | .int16 => true
  | .byte | .uint16 | .uint32 => false

/-- Reads a number of the kind. -/
def read : Number → Cursor → Result Int
  | .byte, cursor => mapResult (fun number => (number.toNat : Int)) cursor.byte
  | .int8, cursor => mapResult Int8.toInt cursor.int8
  | .uint16, cursor => mapResult (fun number => (number.toNat : Int)) cursor.uint16
  | .int16, cursor => mapResult Int16.toInt cursor.int16
  | .uint32, cursor => mapResult (fun number => (number.toNat : Int)) cursor.uint32

/-- The number that stands for its remainder by the size of the range. In two's complement the upper
half of the range stands for negative numbers. -/
def ofRemainder (number : Number) (remainder : Nat) : Int :=
  if number.isSigned ∧ 256 ^ number.width ≤ 2 * remainder then
    (remainder : Int) - 256 ^ number.width
  else remainder

/-- The number that a block writes, the highest digit first. -/
def ofBlock (number : Number) (block : List UInt8) : Int :=
  number.ofRemainder (Nat.ofDigits 256 (block.reverse.map UInt8.toNat))

/-- The number that is taken for the value of the bytes. -/
def convert : Number → Nat → Int
  | .byte, value => (UInt8.ofNat value).toNat
  | .int8, value => (UInt8.ofNat value).toInt8.toInt
  | .uint16, value => (UInt16.ofNat value).toNat
  | .int16, value => (UInt16.ofNat value).toInt16.toInt
  | .uint32, value => (UInt32.ofNat value).toNat

/-- Numbers of all kinds are read in the same way, up to the conversion. -/
theorem read_eq_bigEndian (number : Number) (cursor : Cursor) :
    number.read cursor = mapResult number.convert (cursor.bigEndian number.width 0) := by
  cases number with
  | byte =>
      rw [read, byte_eq_bigEndian, mapResult_mapResult]
      rfl
  | int8 => exact mapResult_mapResult _ _ _
  | uint16 => exact mapResult_mapResult _ _ _
  | int16 => exact mapResult_mapResult _ _ _
  | uint32 => exact mapResult_mapResult _ _ _

theorem toInt_ofNat_of_lt (bits : Nat) {remainder : Nat} (h : remainder < 2 ^ bits) :
    (BitVec.ofNat bits remainder).toInt =
      if 2 ^ bits ≤ 2 * remainder then (remainder : Int) - 2 ^ bits else remainder := by
  rw [BitVec.toInt_eq_toNat_cond, BitVec.toNat_ofNat, Nat.mod_eq_of_lt h]
  by_cases hhalf : 2 ^ bits ≤ 2 * remainder
  · rw [if_pos hhalf, if_neg (Nat.not_lt.2 hhalf)]
    push_cast
    rfl
  · rw [if_neg hhalf, if_pos (Nat.lt_of_not_le hhalf)]

theorem convert_eq_ofRemainder {number : Number} {remainder : Nat}
    (h : remainder < 256 ^ number.width) :
    number.convert remainder = number.ofRemainder remainder := by
  cases number with
  | byte => exact congrArg Nat.cast (UInt8.toNat_ofNat_of_lt' h)
  | int8 =>
      simp only [ofRemainder, isSigned, true_and]
      exact toInt_ofNat_of_lt 8 h
  | uint16 => exact congrArg Nat.cast (UInt16.toNat_ofNat_of_lt' h)
  | int16 =>
      simp only [ofRemainder, isSigned, true_and]
      exact toInt_ofNat_of_lt 16 h
  | uint32 => exact congrArg Nat.cast (UInt32.toNat_ofNat_of_lt' h)

theorem read_eq (number : Number) (cursor : Cursor) :
    number.read cursor =
      if number.width ≤ cursor.remaining then
        (.ok (number.ofBlock (cursor.rest.take number.width)), cursor.forward number.width)
      else (.error ⟨cursor.endOffset⟩, cursor.forward cursor.remaining) := by
  rw [read_eq_bigEndian, bigEndian_eq]
  split
  · next hle =>
      have hlength : (cursor.rest.take number.width).length = number.width := by
        rw [List.length_take]
        exact Nat.min_eq_left hle
      have hlt := valueFrom_lt (cursor.rest.take number.width)
      rw [hlength] at hlt
      simp only [mapResult, Except.map, convert_eq_ofRemainder hlt]
      rw [ofBlock, valueFrom_eq_ofDigits]
  · rfl

example : Number.uint16.ofBlock [0xFF, 0xFE] = 65534 ∧ Number.int16.ofBlock [0xFF, 0xFE] = -2 := by
  decide

end Number

/-! ## Reads one after another -/

/-- A read of a cursor. -/
inductive Read where
  | number (kind : Number)
  | take (count : Nat)
  | skip (count : Nat)
  deriving DecidableEq

/-- The cursor after a read, whether it succeeds or fails. -/
def Read.move : Read → Cursor → Cursor
  | .number kind, cursor => (kind.read cursor).2
  | .take count, cursor => (cursor.take count).2
  | .skip count, cursor => (cursor.skip count).2

/-- The cursor after one read after another. -/
def after (cursor : Cursor) (reads : List Read) : Cursor :=
  reads.foldl (fun reached read => read.move reached) cursor

/-- The cursor stands in the buffer or at its end. -/
def StandsIn (cursor : Cursor) (buffer : List UInt8) : Prop :=
  ∃ offset ≤ buffer.length, cursor = place buffer offset

variable {cursor : Cursor} {buffer : List UInt8}

theorem StandsIn.forward {count : Nat} (h : cursor.StandsIn buffer)
    (hcount : count ≤ cursor.remaining) : (cursor.forward count).StandsIn buffer := by
  obtain ⟨offset, hoffset, rfl⟩ := h
  rw [remaining_place] at hcount
  exact ⟨offset + count, by omega, forward_place buffer offset count⟩

theorem StandsIn.move (h : cursor.StandsIn buffer) (read : Read) :
    (read.move cursor).StandsIn buffer := by
  cases read with
  | number kind =>
      rw [Read.move, Number.read_eq]
      split
      · next hle => exact h.forward hle
      · exact h.forward (Nat.le_refl _)
  | take count =>
      rw [Read.move, take_eq]
      split
      · next hle => exact h.forward hle
      · exact h
  | skip count =>
      rw [Read.move, skip_eq]
      split
      · next hle => exact h.forward hle
      · exact h

theorem StandsIn.after (h : cursor.StandsIn buffer) (reads : List Read) :
    (cursor.after reads).StandsIn buffer := by
  induction reads generalizing cursor with
  | nil => exact h
  | cons read reads ih => exact ih (h.move read)

theorem standsIn_ofBytes (buffer : List UInt8) : (ofBytes buffer).StandsIn buffer :=
  ⟨0, Nat.zero_le _, rfl⟩

/-- Whatever has been read from a buffer, the cursor stands in it or at its end. From there a number
is read exactly if as many bytes are left as it is wide, and then it is what these bytes write; else
the cursor goes to the end of the buffer, where the number is missed. A block is taken or passed
over exactly if as many bytes are left; else it is missed where it starts, and the cursor stays
there. -/
theorem reads_stay_in_buffer (buffer : List UInt8) (reads : List Read) :
    let cursor := (ofBytes buffer).after reads
    cursor.offset ≤ buffer.length ∧
    cursor = place buffer cursor.offset ∧
    cursor.remaining = buffer.length - cursor.offset ∧
    (∀ number : Number, number.read cursor =
      if number.width ≤ cursor.remaining then
        (.ok (number.ofBlock ((buffer.drop cursor.offset).take number.width)),
          place buffer (cursor.offset + number.width))
      else (.error ⟨buffer.length⟩, place buffer buffer.length)) ∧
    (∀ count, cursor.take count =
      if count ≤ cursor.remaining then
        (.ok ((buffer.drop cursor.offset).take count), place buffer (cursor.offset + count))
      else (.error ⟨cursor.offset⟩, cursor)) ∧
    ∀ count, cursor.skip count =
      if count ≤ cursor.remaining then (.ok (), place buffer (cursor.offset + count))
      else (.error ⟨cursor.offset⟩, cursor) := by
  obtain ⟨offset, hoffset, hplace⟩ := (standsIn_ofBytes buffer).after reads
  simp only [hplace]
  refine ⟨hoffset, rfl, remaining_place buffer offset, ?_, ?_, ?_⟩
  · intro number
    have hend : offset + (place buffer offset).remaining = buffer.length := endOffset_place hoffset
    rw [Number.read_eq, forward_place, forward_place, endOffset_place hoffset, hend]
    rfl
  · intro count
    rw [take_eq, forward_place]
    rfl
  · intro count
    rw [skip_eq, forward_place]
    rfl

end ClassVM.Cursor
