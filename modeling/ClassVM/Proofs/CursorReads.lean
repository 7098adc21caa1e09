import ClassVM.Cursor
import Mathlib.Algebra.Group.Nat.Defs
import Mathlib.Data.List.Induction

/-! # What lies ahead of a cursor

A read of the cursor is described by the block that it passes. Numbers are passed as their
numerals, the highest byte first, and every block of the right width is the numeral of one
number. -/

namespace ClassVM.Cursor

/-- The block lies ahead of the cursor, and `after` stands behind it. -/
def Passes (cursor : Cursor) (block : List UInt8) (after : Cursor) : Prop :=
  cursor.rest = block ++ after.rest ∧ after.offset = cursor.offset + block.length

theorem passes_nil {cursor after : Cursor} : cursor.Passes [] after ↔ after = cursor := by
  obtain ⟨offset, rest⟩ := cursor
  obtain ⟨offset', rest'⟩ := after
  simp only [Passes, List.nil_append, List.length_nil, Nat.add_zero, mk.injEq]
  constructor
  · rintro ⟨hrest, hoffset⟩
    exact ⟨hoffset, hrest.symm⟩
  · rintro ⟨hoffset, hrest⟩
    exact ⟨hrest.symm, hoffset⟩

theorem passes_append {cursor after : Cursor} {front back : List UInt8} :
    cursor.Passes (front ++ back) after ↔
      ∃ middle, cursor.Passes front middle ∧ Cursor.Passes middle back after := by
  constructor
  · rintro ⟨hrest, hoffset⟩
    refine ⟨⟨cursor.offset + front.length, back ++ after.rest⟩, ⟨?_, rfl⟩, rfl, ?_⟩
    · rw [hrest, List.append_assoc]
    · rw [hoffset, List.length_append, Nat.add_assoc]
  · rintro ⟨middle, ⟨hfront, hmiddle⟩, hback, hafter⟩
    constructor
    · rw [hfront, hback, List.append_assoc]
    · rw [hafter, hmiddle, List.length_append, Nat.add_assoc]

/-! ## More bytes -/

/-- The cursor in the buffer that goes on with more bytes. -/
def extended (cursor : Cursor) (more : List UInt8) : Cursor :=
  { cursor with rest := cursor.rest ++ more }

theorem Passes.extended {cursor after : Cursor} {block : List UInt8}
    (h : cursor.Passes block after) (more : List UInt8) :
    (cursor.extended more).Passes block (after.extended more) := by
  obtain ⟨hrest, hoffset⟩ := h
  refine ⟨?_, hoffset⟩
  simp only [Cursor.extended, hrest, List.append_assoc]

/-! ## Numerals -/

/-- The bytes of a number, the highest first; what exceeds the width is cut off. -/
def numeral : (width number : Nat) → List UInt8
  | 0, _ => []
  | width + 1, number => numeral width (number / 256) ++ [UInt8.ofNat number]

/-- The number that a block writes, where `high` stands before it. -/
def valueFrom (high : Nat) (block : List UInt8) : Nat :=
  block.foldl (fun number b => number * 256 + b.toNat) high

@[simp] theorem length_numeral (width number : Nat) : (numeral width number).length = width := by
  induction width generalizing number with
  | zero => rfl
  | succ width ih => simp [numeral, ih]

@[simp] theorem valueFrom_append (high : Nat) (front back : List UInt8) :
    valueFrom high (front ++ back) = valueFrom (valueFrom high front) back := by
  simp [valueFrom]

theorem valueFrom_numeral {width number : Nat} (h : number < 256 ^ width) :
    valueFrom 0 (numeral width number) = number := by
  induction width generalizing number with
  | zero =>
      have hzero : number = 0 := by simpa using h
      simp [numeral, valueFrom, hzero]
  | succ width ih =>
      have hlt : number / 256 < 256 ^ width := by
        rw [Nat.div_lt_iff_lt_mul (by decide)]
        simpa [Nat.pow_succ] using h
      rw [numeral, valueFrom_append, ih hlt]
      simp only [valueFrom, List.foldl_cons, List.foldl_nil, UInt8.toNat_ofNat']
      omega

theorem valueFrom_lt (block : List UInt8) : valueFrom 0 block < 256 ^ block.length := by
  induction block using List.reverseRecOn with
  | nil => simp [valueFrom]
  | append_singleton front last ih =>
      have hlast := last.toNat_lt
      simp only [valueFrom_append, List.length_append, List.length_singleton, Nat.pow_succ]
      simp only [valueFrom, List.foldl_cons, List.foldl_nil] at ih ⊢
      omega

theorem numeral_valueFrom (block : List UInt8) :
    numeral block.length (valueFrom 0 block) = block := by
  induction block using List.reverseRecOn with
  | nil => rfl
  | append_singleton front last ih =>
      have hlast := last.toNat_lt
      have hdiv : (valueFrom 0 front * 256 + last.toNat) / 256 = valueFrom 0 front := by omega
      have hmod : UInt8.ofNat (valueFrom 0 front * 256 + last.toNat) = last := by
        apply UInt8.toNat_inj.1
        rw [UInt8.toNat_ofNat']
        omega
      rw [valueFrom_append, List.length_append, List.length_singleton, numeral]
      change numeral front.length ((valueFrom 0 front * 256 + last.toNat) / 256) ++
        [UInt8.ofNat (valueFrom 0 front * 256 + last.toNat)] = _
      rw [hdiv, hmod, ih]

/-! ## Reads -/

theorem byte_eq_ok_iff {cursor after : Cursor} {b : UInt8} :
    cursor.byte = (.ok b, after) ↔ cursor.Passes [b] after := by
  obtain ⟨offset, rest⟩ := cursor
  obtain ⟨offset', rest'⟩ := after
  cases rest with
  | nil => simp [byte, Passes]
  | cons first rest =>
      simp only [byte, Passes, Prod.mk.injEq, Except.ok.injEq, mk.injEq, List.singleton_append,
        List.cons.injEq, List.length_singleton]
      constructor
      · rintro ⟨hfirst, hoffset, hrest⟩
        exact ⟨⟨hfirst, hrest⟩, hoffset.symm⟩
      · rintro ⟨⟨hfirst, hrest⟩, hoffset⟩
        exact ⟨hfirst, hoffset.symm, hrest⟩

/-- A number of a width is read exactly where a block of that width lies ahead. -/
theorem bigEndian_eq_ok_iff {width high number : Nat} {cursor after : Cursor} :
    cursor.bigEndian width high = (.ok number, after) ↔
      ∃ block, block.length = width ∧ valueFrom high block = number ∧
        cursor.Passes block after := by
  induction width generalizing high cursor with
  | zero =>
      simp only [bigEndian, Prod.mk.injEq, Except.ok.injEq, List.length_eq_zero_iff]
      constructor
      · rintro ⟨rfl, rfl⟩
        exact ⟨[], rfl, rfl, passes_nil.2 rfl⟩
      · rintro ⟨block, rfl, rfl, hpass⟩
        exact ⟨rfl, (passes_nil.1 hpass).symm⟩
  | succ width ih =>
      rw [bigEndian]
      constructor
      · intro h
        split at h
        · simp at h
        · next b middle hbyte =>
            obtain ⟨block, hlength, hvalue, hpass⟩ := ih.1 h
            refine ⟨[b] ++ block, by simp [hlength], ?_, ?_⟩
            · rw [valueFrom_append]
              exact hvalue
            · exact passes_append.2 ⟨middle, byte_eq_ok_iff.1 hbyte, hpass⟩
      · rintro ⟨block, hlength, hvalue, hpass⟩
        cases block with
        | nil => simp at hlength
        | cons b block =>
            have hsplit : cursor.Passes ([b] ++ block) after := hpass
            obtain ⟨middle, hfirst, hrest⟩ := passes_append.1 hsplit
            rw [byte_eq_ok_iff.2 hfirst]
            exact ih.2 ⟨block, by simpa using hlength, hvalue, hrest⟩

/-- A number of a width is read exactly where its numeral lies ahead. -/
theorem bigEndian_eq_numeral_iff {width number : Nat} {cursor after : Cursor} :
    cursor.bigEndian width 0 = (.ok number, after) ↔
      number < 256 ^ width ∧ cursor.Passes (numeral width number) after := by
  rw [bigEndian_eq_ok_iff]
  constructor
  · rintro ⟨block, rfl, rfl, hpass⟩
    exact ⟨valueFrom_lt block, by rwa [numeral_valueFrom]⟩
  · rintro ⟨hlt, hpass⟩
    exact ⟨numeral width number, length_numeral width number, valueFrom_numeral hlt, hpass⟩

theorem mapResult_eq_ok_iff {α β : Type} {f : α → β} {result : Result α} {b : β}
    {after : Cursor} :
    mapResult f result = (.ok b, after) ↔ ∃ a, result = (.ok a, after) ∧ f a = b := by
  obtain ⟨found, reached⟩ := result
  cases found with
  | error e => simp [mapResult, Except.map]
  | ok a =>
      simp only [mapResult, Except.map, Prod.mk.injEq, Except.ok.injEq]
      constructor
      · rintro ⟨hb, hafter⟩
        exact ⟨a, ⟨rfl, hafter⟩, hb⟩
      · rintro ⟨a', ⟨rfl, hafter⟩, hb⟩
        exact ⟨hb, hafter⟩

theorem uint16_eq_ok_iff {cursor after : Cursor} {number : UInt16} :
    cursor.uint16 = (.ok number, after) ↔ cursor.Passes (numeral 2 number.toNat) after := by
  simp only [uint16, mapResult_eq_ok_iff, bigEndian_eq_numeral_iff]
  constructor
  · rintro ⟨n, ⟨hlt, hpass⟩, rfl⟩
    rwa [UInt16.toNat_ofNat_of_lt' hlt]
  · intro hpass
    exact ⟨number.toNat, ⟨number.toNat_lt, hpass⟩, by simp⟩

theorem uint32_eq_ok_iff {cursor after : Cursor} {number : UInt32} :
    cursor.uint32 = (.ok number, after) ↔ cursor.Passes (numeral 4 number.toNat) after := by
  simp only [uint32, mapResult_eq_ok_iff, bigEndian_eq_numeral_iff]
  constructor
  · rintro ⟨n, ⟨hlt, hpass⟩, rfl⟩
    rwa [UInt32.toNat_ofNat_of_lt' hlt]
  · intro hpass
    exact ⟨number.toNat, ⟨number.toNat_lt, hpass⟩, by simp⟩

theorem take_eq_ok_iff {count : Nat} {cursor after : Cursor} {block : List UInt8} :
    cursor.take count = (.ok block, after) ↔
      block.length = count ∧ cursor.Passes block after := by
  obtain ⟨offset, rest⟩ := cursor
  obtain ⟨offset', rest'⟩ := after
  simp only [take, Passes]
  constructor
  · intro h
    split at h
    · next hlength =>
        simp only [Prod.mk.injEq, Except.ok.injEq, mk.injEq] at h
        obtain ⟨rfl, hoffset, rfl⟩ := h
        exact ⟨hlength, (List.take_append_drop count rest).symm, by rw [hlength, hoffset]⟩
    · simp at h
  · rintro ⟨rfl, rfl, rfl⟩
    simp

/-! ## Reads beyond the end -/

variable {cursor after : Cursor} {e : EndOfInput}

/-- The offset of the end of the buffer. -/
def endOffset (cursor : Cursor) : Nat := cursor.offset + cursor.remaining

theorem Passes.endOffset_eq {block : List UInt8} (h : cursor.Passes block after) :
    after.endOffset = cursor.endOffset := by
  obtain ⟨hrest, hoffset⟩ := h
  simp only [endOffset, remaining, hrest, hoffset, List.length_append]
  omega

theorem mapResult_eq_error {α β : Type} {f : α → β} {result : Result α}
    (h : mapResult f result = (.error e, after)) : result = (.error e, after) := by
  obtain ⟨found, reached⟩ := result
  cases found with
  | error missed =>
      cases h
      rfl
  | ok a => cases h

theorem byte_eq_error (h : cursor.byte = (.error e, after)) : e = ⟨cursor.endOffset⟩ := by
  unfold byte at h
  split at h
  · next hrest =>
      cases h
      simp [endOffset, remaining, hrest]
  · cases h

/-- A number that is cut off is missed at the end of the buffer. -/
theorem bigEndian_eq_error {width high : Nat}
    (h : cursor.bigEndian width high = (.error e, after)) : e = ⟨cursor.endOffset⟩ := by
  induction width generalizing high cursor with
  | zero => cases h
  | succ width ih =>
      rw [bigEndian] at h
      split at h
      · next hbyte =>
          cases h
          exact byte_eq_error hbyte
      · next b middle hbyte => rw [ih h, (byte_eq_ok_iff.1 hbyte).endOffset_eq]

end ClassVM.Cursor
