import ClassVM.Code.Decode
import ClassVM.Proofs.CursorReads
import ClassVM.Proofs.Outcomes

/-! # Where instructions stand in their code

A sweep through code reads one instruction after another, each where the one before it ended, up to
the end of the code. So an instruction can be read again at every offset that was recorded, and ends
where the next one starts. A branch that has been resolved leads to the instruction at its
target. -/

namespace ClassVM

namespace Cursor

variable {buffer front : List UInt8} {cursor : Cursor}

/-- The cursor so many bytes into a buffer. In front of the buffer there is nothing to read. -/
def into (buffer : List UInt8) (offset : Int) : Cursor :=
  ⟨offset.toNat, if 0 ≤ offset then buffer.drop offset.toNat else []⟩

/-- A cursor that has passed the front of a buffer stands in the buffer. -/
theorem into_offset (h : (ofBytes buffer).Passes front cursor) :
    into buffer cursor.offset = cursor := by
  obtain ⟨offset, rest⟩ := cursor
  obtain ⟨hbuffer, hoffset⟩ := h
  have hfront : offset = front.length := by simpa [ofBytes] using hoffset
  have hsplit : buffer = front ++ rest := hbuffer
  simp [into, hsplit, hfront]

theorem offset_add_remaining (h : (ofBytes buffer).Passes front cursor) :
    cursor.offset + cursor.remaining = buffer.length := by
  obtain ⟨hbuffer, hoffset⟩ := h
  have hlength := congrArg List.length hbuffer
  rw [List.length_append] at hlength
  simp only [ofBytes] at hlength hoffset
  simp only [remaining]
  omega

end Cursor

namespace Code

variable {cursor after : Cursor} {instruction : Instruction Int16} {located : List Located}
  {code front : List UInt8} {index : Nat}

/-! ## Reading one instruction after another -/

theorem passes_of_read {form : Form} (h : form.read cursor = (.ok instruction, after)) :
    ∃ block, cursor.Passes block after := by
  cases form with
  | plain made =>
      cases h
      exact ⟨[], Cursor.passes_nil.2 rfl⟩
  | byte make =>
      obtain ⟨operand, hbyte, -⟩ := Cursor.mapResult_eq_ok_iff.1 h
      exact ⟨_, Cursor.byte_eq_ok_iff.1 hbyte⟩
  | pair make =>
      rw [Form.read] at h
      split at h
      · simp at h
      · next first middle hfirst =>
          obtain ⟨operand, hbyte, -⟩ := Cursor.mapResult_eq_ok_iff.1 h
          have hpass := Cursor.byte_eq_ok_iff.1 hfirst
          exact ⟨_, Cursor.passes_append.2 ⟨middle, hpass, Cursor.byte_eq_ok_iff.1 hbyte⟩⟩
  | word make =>
      obtain ⟨operand, hword, -⟩ := Cursor.mapResult_eq_ok_iff.1 h
      exact ⟨_, Cursor.uint16_eq_ok_iff.1 hword⟩

theorem passes_of_readOne (h : readOne cursor = .ok (instruction, after)) :
    ∃ block, cursor.Passes block after := by
  unfold readOne at h
  split at h
  · simp at h
  · next opcode operands hopcode =>
      split at h
      · simp at h
      · split at h
        · simp at h
        · next hread =>
            cases h
            obtain ⟨block, hblock⟩ := passes_of_read hread
            have hpass := Cursor.byte_eq_ok_iff.1 hopcode
            exact ⟨_, Cursor.passes_append.2 ⟨operands, hpass, hblock⟩⟩

/-- What a sweep comes to, by the first instruction and the sweep after it. -/
theorem outcome_sweep (cursor : Cursor) :
    (sweep cursor).outcome =
      if cursor.atEnd then .ok []
      else (readOne cursor).bind fun found =>
        (sweep found.2).outcome.map (⟨cursor.offset, found.1⟩ :: ·) := by
  rw [sweep]
  split
  · rfl
  · split
    · next hread =>
        rw [hread]
        rfl
    · next hread =>
        rw [hread]
        rfl

/-- The instructions, one after another, take up all that is ahead of the cursor. -/
inductive Covers : Cursor → List Located → Prop
  | nil {cursor : Cursor} (ends : cursor.atEnd) : Covers cursor []
  | cons {cursor after : Cursor} {instruction : Instruction Int16} {rest : List Located}
      (reads : readOne cursor = .ok (instruction, after)) (tail : Covers after rest) :
      Covers cursor (⟨cursor.offset, instruction⟩ :: rest)

theorem not_atEnd_of_readOne (h : readOne cursor = .ok (instruction, after)) : ¬ cursor.atEnd := by
  have hlt := remaining_readOne_lt h
  intro hend
  simp [Cursor.remaining, List.isEmpty_iff.1 hend] at hlt

/-- A sweep succeeds exactly with the instructions that take up all that is ahead. -/
theorem outcome_sweep_eq_ok_iff :
    (sweep cursor).outcome = .ok located ↔ Covers cursor located := by
  constructor
  · intro h
    induction cursor using sweep.induct generalizing located with
    | case1 cursor hend =>
        rw [outcome_sweep, if_pos hend] at h
        cases h
        exact .nil hend
    | case2 cursor hend e hread =>
        rw [outcome_sweep, if_neg hend, hread] at h
        cases h
    | case3 cursor hend instruction after hread ih =>
        rw [outcome_sweep, if_neg hend, hread] at h
        cases hrest : (sweep after).outcome with
        | error e => simp [Except.bind, Except.map, hrest] at h
        | ok rest =>
            simp only [Except.bind, Except.map, hrest, Except.ok.injEq] at h
            rw [← h]
            exact .cons hread (ih hrest)
  · intro h
    induction h with
    | nil ends => rw [outcome_sweep, if_pos ends]
    | cons reads _ ih =>
        rw [outcome_sweep, if_neg (not_atEnd_of_readOne reads), reads]
        simp [Except.bind, Except.map, ih]

/-! ## Boundaries -/

/-- Where the instructions of the code start, and where the last of them ends. -/
def boundaries (code : List UInt8) (located : List Located) : List Nat :=
  located.map Located.offset ++ [code.length]

theorem boundaries_length : (boundaries code located).length = located.length + 1 := by
  simp [boundaries]

theorem boundaries_end : (boundaries code located)[located.length]? = some code.length := by
  simp [boundaries]

theorem boundaries_of_getElem {place : Located} (h : located[index]? = some place) :
    (boundaries code located)[index]? = some place.offset := by
  have hlt : index < (located.map Located.offset).length := by
    simpa using (List.getElem?_eq_some_iff.1 h).1
  rw [boundaries, List.getElem?_append_left hlt]
  simp [h]

/-- The first boundary is where the cursor stands. -/
theorem Covers.boundaries_zero (h : Covers cursor located)
    (hpass : (Cursor.ofBytes code).Passes front cursor) :
    (boundaries code located)[0]? = some cursor.offset := by
  have hremaining := Cursor.offset_add_remaining hpass
  cases h with
  | nil ends =>
      have hnothing : cursor.remaining = 0 := by
        simpa [Cursor.remaining] using List.isEmpty_iff.1 ends
      simp [boundaries]
      omega
  | cons reads _ => simp [boundaries]

/-- An instruction of the sweep is read again at its offset, and ends at the next boundary. -/
theorem Covers.readOne_into (h : Covers cursor located)
    (hpass : (Cursor.ofBytes code).Passes front cursor) {place : Located}
    (hplace : located[index]? = some place) :
    place.offset < code.length ∧
      ∃ after, readOne (.into code place.offset) = .ok (place.instruction, after) ∧
        (boundaries code located)[index + 1]? = some after.offset := by
  -- Along the sweep, what has been passed so far places the cursor in the code.
  induction h generalizing front index with
  | nil _ => simp at hplace
  | @cons cursor after instruction rest reads tail ih =>
      obtain ⟨block, hblock⟩ := passes_of_readOne reads
      have hafter := Cursor.passes_append.2 ⟨cursor, hpass, hblock⟩
      cases index with
      | zero =>
          cases hplace
          refine ⟨?_, after, ?_, tail.boundaries_zero hafter⟩
          · have hremaining := Cursor.offset_add_remaining hpass
            have hlt := remaining_readOne_lt reads
            simp only
            omega
          · simpa only [Cursor.into_offset hpass] using reads
      | succ index => exact ih hafter hplace

/-! ## Resolved branches -/

/-- What a search finds is where it says, in whatever order the numbers are. -/
theorem getElem?_of_search {numbers : Array Nat} {wanted low width found : Nat}
    (h : search numbers wanted low width = some found) : numbers[found]? = some wanted := by
  fun_induction search numbers wanted low width with
  | case1 => cases h
  | case2 => cases h
  | case3 low width _ middle hget =>
      rw [← Option.some.inj h]
      exact hget
  | case4 low width _ middle number _ _ _ ih => exact ih h
  | case5 low width _ middle number _ _ _ ih => exact ih h

theorem getElem?_startOffsets (located : List Located) (index : Nat) :
    (startOffsets located)[index]? = located[index]?.map Located.offset := by
  simp [startOffsets]

/-- The instruction at the index starts so many bytes from the offset. -/
def LeadsTo (located : List Located) (offset : Nat) (distance : Int16) (index : Nat) : Prop :=
  ∃ place, located[index]? = some place ∧ (place.offset : Int) = offset + distance.toInt

/-- A distance is resolved to the index of an instruction that starts there. -/
theorem LeadsTo.of_targetIndex {offset : Nat} {distance : Int16}
    (h : targetIndex (startOffsets located) offset distance = .ok index) :
    LeadsTo located offset distance index := by
  unfold targetIndex at h
  simp only at h
  split at h
  · next found hfound =>
      cases h
      split at hfound
      · next hnonneg =>
          have hstart := getElem?_of_search hfound
          rw [getElem?_startOffsets] at hstart
          obtain ⟨place, hplace, hoffset⟩ := Option.map_eq_some_iff.1 hstart
          refine ⟨place, hplace, ?_⟩
          rw [hoffset]
          exact Int.toNat_of_nonneg hnonneg
      · cases hfound
  · cases h

/-- Resolving keeps the instructions in their places. -/
theorem getElem_of_resolve {instructions : List (Instruction Nat)}
    (h : resolve located = .ok instructions) {resolved : Instruction Nat}
    (hget : instructions[index]? = some resolved) :
    ∃ place, located[index]? = some place ∧
      place.instruction.retarget (targetIndex (startOffsets located) place.offset) =
        .ok resolved := by
  have hall := mapM_eq_ok_iff.1 h
  obtain ⟨hlt, hresolved⟩ := List.getElem?_eq_some_iff.1 hget
  have hlt' : index < located.length := by rwa [hall.length_eq]
  refine ⟨located[index], List.getElem?_eq_getElem hlt', ?_⟩
  rw [← hresolved]
  exact hall.get hlt' hlt

/-- Code is decoded by a sweep whose branches can all be resolved. -/
theorem outcome_decode_eq_ok_iff {instructions : List (Instruction Nat)} :
    (decode code).outcome = .ok instructions ↔
      ∃ located, (scan code).outcome = .ok located ∧ resolve located = .ok instructions := by
  rw [decode, Log.Traced.outcome_bind]
  cases (scan code).outcome with
  | error e => simp [bind, Except.bind]
  | ok located => simp [bind, Except.bind, Log.Traced.ofExcept]

end Code

end ClassVM
