import ClassVM.Proofs.BranchResolution
import ClassVM.Proofs.Encodings

/-! # Code behind other code

Reading an instruction does not depend on where it stands, and code that was read to its end leaves
the reader where code behind it starts. So code behind other code is read as by itself, with all
offsets moved by the length of what is in front of it. A branch names its target by a distance, and
leads to the same instruction as before; only the index of that instruction is moved, by the number
of instructions in front. -/

namespace ClassVM

/-! ## Reading further on -/

/-- The end of a buffer, with so many more bytes in front. -/
def EndOfInput.moved (distance : Nat) (e : EndOfInput) : EndOfInput := ⟨distance + e.offset⟩

namespace Cursor

variable {α β : Type}

/-- The cursor in the same buffer, with so many more bytes in front. -/
def moved (distance : Nat) (cursor : Cursor) : Cursor :=
  { cursor with offset := distance + cursor.offset }

/-- What a read comes to with so many more bytes in front of the buffer. -/
def movedResult (distance : Nat) (result : Result α) : Result α :=
  (result.1.mapError (EndOfInput.moved distance), result.2.moved distance)

theorem byte_moved (distance : Nat) (cursor : Cursor) :
    (cursor.moved distance).byte = movedResult distance cursor.byte := by
  obtain ⟨offset, rest⟩ := cursor
  cases rest with
  | nil => rfl
  | cons b rest => simp [moved, byte, movedResult, Except.mapError, Nat.add_assoc]

theorem bigEndian_moved (distance width high : Nat) (cursor : Cursor) :
    (cursor.moved distance).bigEndian width high =
      movedResult distance (cursor.bigEndian width high) := by
  induction width generalizing high cursor with
  | zero => rfl
  | succ width ih =>
      rw [bigEndian, bigEndian, byte_moved]
      cases hbyte : cursor.byte with
      | mk found after =>
          cases found with
          | error e => rfl
          | ok b => exact ih (high * 256 + b.toNat) after

theorem mapResult_moved (distance : Nat) (f : α → β) (result : Result α) :
    mapResult f (movedResult distance result) = movedResult distance (mapResult f result) := by
  obtain ⟨found, after⟩ := result
  cases found <;> rfl

theorem uint16_moved (distance : Nat) (cursor : Cursor) :
    (cursor.moved distance).uint16 = movedResult distance cursor.uint16 := by
  rw [uint16, bigEndian_moved, mapResult_moved, uint16]

end Cursor

namespace Code

variable {cursor after : Cursor} {instruction : Instruction Int16} {located : List Located}

/-- The error in the same code, with so many more bytes in front. -/
def DecodeError.moved (distance : Nat) : DecodeError → DecodeError
  | .truncated cause => .truncated (cause.moved distance)
  | .unsupportedOpcode opcode offset => .unsupportedOpcode opcode (distance + offset)
  | .invalidTarget offset target => .invalidTarget (distance + offset) (distance + target)

/-- The instruction in the same code, with so many more bytes in front. -/
def Located.moved (distance : Nat) (place : Located) : Located :=
  { place with offset := distance + place.offset }

theorem Form.read_moved (distance : Nat) (form : Form) (cursor : Cursor) :
    form.read (cursor.moved distance) = Cursor.movedResult distance (form.read cursor) := by
  cases form with
  | plain made => rfl
  | byte make => rw [Form.read, Cursor.byte_moved, Cursor.mapResult_moved, Form.read]
  | pair make =>
      rw [Form.read, Form.read, Cursor.byte_moved]
      cases hfirst : cursor.byte with
      | mk found after =>
          cases found with
          | error e => rfl
          | ok first =>
              change Cursor.mapResult (make first) (after.moved distance).byte = _
              rw [Cursor.byte_moved, Cursor.mapResult_moved]
  | word make => rw [Form.read, Cursor.uint16_moved, Cursor.mapResult_moved, Form.read]

theorem readOne_moved (distance : Nat) (cursor : Cursor) :
    readOne (cursor.moved distance) =
      ((readOne cursor).map fun found => (found.1, found.2.moved distance)).mapError
        (DecodeError.moved distance) := by
  rw [readOne, readOne, Cursor.byte_moved]
  cases hbyte : cursor.byte with
  | mk found operands =>
      cases found with
      | error e => rfl
      | ok opcode =>
          simp only [Cursor.movedResult, Except.mapError]
          cases hform : formOf opcode with
          | none => rfl
          | some form =>
              simp only [Form.read_moved]
              cases hread : form.read operands with
              | mk found after =>
                  cases found with
                  | error e => rfl
                  | ok instruction => rfl

/-- With more bytes in front, a sweep finds the same instructions, or the same fault, so much
further on. -/
theorem outcome_sweep_moved (distance : Nat) (cursor : Cursor) :
    (sweep (cursor.moved distance)).outcome =
      ((sweep cursor).outcome.map (List.map (Located.moved distance))).mapError
        (DecodeError.moved distance) := by
  induction cursor using sweep.induct with
  | case1 cursor hend =>
      have hmoved : (cursor.moved distance).atEnd := hend
      rw [outcome_sweep, if_pos hmoved, outcome_sweep, if_pos hend]
      rfl
  | case2 cursor hend e hread =>
      have hmoved : ¬ (cursor.moved distance).atEnd := hend
      rw [outcome_sweep, if_neg hmoved, readOne_moved, outcome_sweep, if_neg hend, hread]
      rfl
  | case3 cursor hend instruction after hread ih =>
      have hmoved : ¬ (cursor.moved distance).atEnd := hend
      rw [outcome_sweep, if_neg hmoved, readOne_moved, outcome_sweep, if_neg hend, hread]
      simp only [Except.map, Except.mapError, Except.bind, ih]
      cases (sweep after).outcome <;> rfl

/-! ## Reading on behind the end -/

theorem readOne_extended (h : readOne cursor = .ok (instruction, after)) (more : List UInt8) :
    readOne (cursor.extended more) = .ok (instruction, after.extended more) := by
  obtain ⟨block, hblock, hpass⟩ := readOne_eq_ok_iff.1 h
  exact readOne_eq_ok_iff.2 ⟨block, hblock, hpass.extended more⟩

/-- A sweep through all that was ahead goes on as a sweep through what comes behind. -/
theorem Covers.outcome_sweep_extended (h : Covers cursor located) (more : List UInt8) :
    (sweep (cursor.extended more)).outcome =
      (sweep ⟨cursor.endOffset, more⟩).outcome.map (located ++ ·) := by
  induction h with
  | @nil cursor ends =>
      have hrest : cursor.rest = [] := List.isEmpty_iff.1 ends
      have hseam : cursor.extended more = ⟨cursor.endOffset, more⟩ := by
        simp [Cursor.extended, Cursor.endOffset, Cursor.remaining, hrest]
      rw [hseam]
      cases (sweep ⟨cursor.endOffset, more⟩).outcome <;> rfl
  | @cons cursor after instruction rest reads _ ih =>
      obtain ⟨block, hpass⟩ := passes_of_readOne reads
      have hread := readOne_extended reads more
      rw [outcome_sweep, if_neg (not_atEnd_of_readOne hread), hread]
      simp only [Except.bind, ih, hpass.endOffset_eq]
      cases (sweep ⟨cursor.endOffset, more⟩).outcome <;> rfl

/-- Code behind code that can be read is read as by itself, but for the offsets. -/
theorem outcome_scan_append {front : List UInt8} (h : (scan front).outcome = .ok located)
    (back : List UInt8) :
    (scan (front ++ back)).outcome =
      ((scan back).outcome.map fun more =>
        located ++ more.map (Located.moved front.length)).mapError
          (DecodeError.moved front.length) := by
  have hcovers : Covers (.ofBytes front) located := outcome_sweep_eq_ok_iff.1 h
  have hseam : (⟨(Cursor.ofBytes front).endOffset, back⟩ : Cursor) =
      (Cursor.ofBytes back).moved front.length := by
    simp [Cursor.ofBytes, Cursor.endOffset, Cursor.remaining, Cursor.moved]
  calc
    (scan (front ++ back)).outcome
      = (sweep ((Cursor.ofBytes back).moved front.length)).outcome.map (located ++ ·) := by
        rw [← hseam]
        exact hcovers.outcome_sweep_extended back
    _ = _ := by
        rw [outcome_sweep_moved, scan]
        cases (sweep (Cursor.ofBytes back)).outcome <;> rfl

/-! ## Branches in joined code -/

variable {first later : List Located} {offset index : Nat} {distance : Int16}

theorem LeadsTo.append_left (h : LeadsTo first offset distance index) (later : List Located) :
    LeadsTo (first ++ later) offset distance index := by
  obtain ⟨place, hplace, hoffset⟩ := h
  have hlt := (List.getElem?_eq_some_iff.1 hplace).1
  exact ⟨place, by rw [List.getElem?_append_left hlt, hplace], hoffset⟩

theorem LeadsTo.append_right (h : LeadsTo later offset distance index) (first : List Located)
    (length : Nat) :
    LeadsTo (first ++ later.map (Located.moved length)) (length + offset) distance
      (first.length + index) := by
  obtain ⟨place, hplace, hoffset⟩ := h
  refine ⟨place.moved length, ?_, ?_⟩
  · rw [List.getElem?_append_right (Nat.le_add_right _ _), Nat.add_sub_cancel_left,
      List.getElem?_map, hplace]
    rfl
  · simp only [Located.moved]
    omega

/-- Branches keep their instructions when code is joined. Those in front keep the indices too, those
behind are as many instructions further on as there are in front. -/
theorem resolve_append {length : Nat} {front back : List (Instruction Nat)}
    (hincreasing : Increasing (first ++ later.map (Located.moved length)))
    (hfirst : resolve first = .ok front) (hlater : resolve later = .ok back) :
    resolve (first ++ later.map (Located.moved length)) =
      .ok (front ++ back.map (Instruction.mapTarget (front.length + ·))) := by
  have hall := mapM_eq_ok_iff.1 hfirst
  have hall' := mapM_eq_ok_iff.1 hlater
  apply mapM_append_eq_ok_iff.2
  refine ⟨front, _, ?_, ?_, rfl⟩
  · apply mapM_eq_ok_iff.2
    refine hall.imp fun place instruction hplace => ?_
    rw [← instruction.mapTarget_id]
    apply Instruction.retarget_of_agrees _ hplace
    intro distance index hindex
    apply (targetIndex_eq_ok_iff hincreasing).2
    exact (LeadsTo.of_targetIndex hindex).append_left _
  · apply mapM_eq_ok_iff.2
    rw [List.forall₂_map_left_iff, List.forall₂_map_right_iff]
    refine hall'.imp fun place instruction hplace => ?_
    apply Instruction.retarget_of_agrees _ hplace
    intro distance index hindex
    rw [← hall.length_eq]
    apply (targetIndex_eq_ok_iff hincreasing).2
    exact (LeadsTo.of_targetIndex hindex).append_right _ _

/-- Code that can be decoded is decoded behind other such code as by itself, with the targets of its
branches as many instructions further on as there are in front. Reading it behind code that can be
read finds the same instructions, or the same fault, with every offset so many bytes further on. -/
theorem decode_and_scan_append (front back : List UInt8) :
    (∀ first later, (decode front).outcome = .ok first → (decode back).outcome = .ok later →
      (decode (front ++ back)).outcome =
        .ok (first ++ later.map (Instruction.mapTarget (first.length + ·)))) ∧
    ∀ first, (scan front).outcome = .ok first →
      (∀ later, (scan back).outcome = .ok later →
        (scan (front ++ back)).outcome = .ok (first ++ later.map (Located.moved front.length))) ∧
      ∀ e, (scan back).outcome = .error e →
        (scan (front ++ back)).outcome = .error (e.moved front.length) := by
  constructor
  · intro first later hfirst hlater
    obtain ⟨located, hscan, hresolve⟩ := outcome_decode_eq_ok_iff.1 hfirst
    obtain ⟨places, hscan', hresolve'⟩ := outcome_decode_eq_ok_iff.1 hlater
    have hjoined := outcome_scan_append hscan back
    rw [hscan'] at hjoined
    have hcovers : Covers (.ofBytes (front ++ back)) _ := outcome_sweep_eq_ok_iff.1 hjoined
    rw [outcome_decode_of_scan hjoined]
    exact resolve_append hcovers.increasing hresolve hresolve'
  · intro first hfirst
    rw [outcome_scan_append hfirst]
    constructor
    · intro later hlater
      rw [hlater]
      rfl
    · intro e herror
      rw [herror]
      rfl

/-- Branches forwards and backwards on both sides of the seam, and an opcode that is none. -/
theorem decode_and_scan_append_loops :
    (decode ([0x04, 0x9A, 0xFF, 0xFF] ++ [0xA7, 0, 4, 0x04, 0xA7, 0xFF, 0xFF])).outcome =
        .ok [.push 1, .ifNonzero 0, .goto 4, .push 1, .goto 3] ∧
      (scan ([0x04, 0x9A, 0xFF, 0xFF] ++ [0x04, 0xFF])).outcome =
        .error (.unsupportedOpcode 0xFF 5) := by
  have hfront : (decode [0x04, 0x9A, 0xFF, 0xFF]).outcome = .ok [.push 1, .ifNonzero 0] := by
    decide +kernel
  have hback : (decode [0xA7, 0, 4, 0x04, 0xA7, 0xFF, 0xFF]).outcome =
      .ok [.goto 2, .push 1, .goto 1] := by decide +kernel
  have hscan : (scan [0x04, 0x9A, 0xFF, 0xFF]).outcome =
      .ok [⟨0, .push 1⟩, ⟨1, .ifNonzero (-1)⟩] := by decide +kernel
  have hfault : (scan [0x04, 0xFF]).outcome = .error (.unsupportedOpcode 0xFF 1) := by
    decide +kernel
  exact ⟨(decode_and_scan_append _ _).1 _ _ hfront hback,
    ((decode_and_scan_append _ _).2 _ hscan).2 _ hfault⟩

end Code

end ClassVM
