import ClassVM.Proofs.CodeLayout

/-! # Resolving branches

A branch names its target by a distance in bytes from where it starts itself. The instructions of a
sweep start further and further into the code, so at most one of them starts at a given offset, and
the distance can be traded for the index of that instruction. Decoding does this for every branch
and leaves all else as it is. Where no instruction starts at a branch's target, decoding fails at
the first such branch. -/

namespace ClassVM

namespace Instruction

variable {τ σ ε : Type} {instruction : Instruction τ} {target : τ}

/-- The same instruction, its target named in another way. -/
def mapTarget (f : τ → σ) : Instruction τ → Instruction σ
  | .getStatic field => .getStatic field
  | .loadConstant constant => .loadConstant constant
  | .invokeVirtual method => .invokeVirtual method
  | .invokeStatic method => .invokeStatic method
  | .returnNothing => .returnNothing
  | .returnValue => .returnValue
  | .push value => .push value
  | .arithmetic op => .arithmetic op
  | .store slot => .store slot
  | .load slot => .load slot
  | .increment slot delta => .increment slot delta
  | .ifNonzero target => .ifNonzero (f target)
  | .ifCompare comparison target => .ifCompare comparison (f target)
  | .goto target => .goto (f target)

/-- An instruction without a target is the same however targets are named. -/
theorem retarget_of_not_branch (h : instruction.target? = none) (f : τ → Except ε σ) (g : τ → σ) :
    instruction.retarget f = .ok (instruction.mapTarget g) := by
  cases instruction with
  | ifNonzero target => cases h
  | ifCompare comparison target => cases h
  | goto target => cases h
  | _ => rfl

theorem retarget_of_branch (h : instruction.target? = some target) (f : τ → Except ε σ) :
    instruction.retarget f =
      (f target).map fun found => instruction.mapTarget fun _ => found := by
  cases instruction with
  | ifNonzero target => cases h; rfl
  | ifCompare comparison target => cases h; rfl
  | goto target => cases h; rfl
  | _ => cases h

theorem mapTarget_id (instruction : Instruction τ) : instruction.mapTarget id = instruction := by
  cases instruction <;> rfl

/-- Where one way to find a target agrees with another, so do the instructions. -/
theorem retarget_of_agrees {σ' : Type} {f : τ → Except ε σ} {g : τ → Except ε σ'}
    {rename : σ → σ'}
    (hagrees : ∀ target found, f target = .ok found → g target = .ok (rename found))
    {resolved : Instruction σ} (h : instruction.retarget f = .ok resolved) :
    instruction.retarget g = .ok (resolved.mapTarget rename) := by
  cases instruction with
  | ifNonzero target =>
      obtain ⟨found, hfound, rfl⟩ := map_eq_ok_iff.1 h
      exact map_eq_ok_iff.2 ⟨rename found, hagrees target found hfound, rfl⟩
  | ifCompare comparison target =>
      obtain ⟨found, hfound, rfl⟩ := map_eq_ok_iff.1 h
      exact map_eq_ok_iff.2 ⟨rename found, hagrees target found hfound, rfl⟩
  | goto target =>
      obtain ⟨found, hfound, rfl⟩ := map_eq_ok_iff.1 h
      exact map_eq_ok_iff.2 ⟨rename found, hagrees target found hfound, rfl⟩
  | _ =>
      cases h
      rfl

end Instruction

namespace Code

variable {cursor after : Cursor} {instruction : Instruction Int16} {located : List Located}
  {code : List UInt8}

/-! ## Instructions start further and further into the code -/

theorem offset_readOne_lt (h : readOne cursor = .ok (instruction, after)) :
    cursor.offset < after.offset := by
  obtain ⟨block, hblock⟩ := passes_of_readOne h
  have hlt := remaining_readOne_lt h
  obtain ⟨hrest, hoffset⟩ := hblock
  have hlength := congrArg List.length hrest
  rw [List.length_append] at hlength
  simp only [Cursor.remaining] at hlt
  omega

theorem Covers.offset_le (h : Covers cursor located) {place : Located} (hplace : place ∈ located) :
    cursor.offset ≤ place.offset := by
  induction h with
  | nil _ => cases hplace
  | cons reads _ ih =>
      obtain rfl | hplace := List.mem_cons.1 hplace
      · exact Nat.le_refl _
      · exact Nat.le_trans (Nat.le_of_lt (offset_readOne_lt reads)) (ih hplace)

/-- Each instruction starts further into the code than those in front of it. -/
def Increasing (located : List Located) : Prop :=
  located.Pairwise fun one other => one.offset < other.offset

theorem Covers.increasing (h : Covers cursor located) : Increasing located := by
  induction h with
  | nil _ => exact .nil
  | cons reads tail ih =>
      refine .cons ?_ ih
      intro place hplace
      exact Nat.lt_of_lt_of_le (offset_readOne_lt reads) (tail.offset_le hplace)

/-! ## Targets -/

/-- No two instructions start at one offset. -/
theorem LeadsTo.unique (hincreasing : Increasing located) {offset index index' : Nat}
    {distance : Int16} (h : LeadsTo located offset distance index)
    (h' : LeadsTo located offset distance index') : index = index' := by
  obtain ⟨place, hplace, hoffset⟩ := h
  obtain ⟨place', hplace', hoffset'⟩ := h'
  obtain ⟨hlt, rfl⟩ := List.getElem?_eq_some_iff.1 hplace
  obtain ⟨hlt', rfl⟩ := List.getElem?_eq_some_iff.1 hplace'
  have hsame : located[index].offset = located[index'].offset := by omega
  have hpairs := List.pairwise_iff_getElem.1 hincreasing
  obtain hbefore | rfl | hbehind := Nat.lt_trichotomy index index'
  · exact absurd hsame (Nat.ne_of_lt (hpairs _ _ hlt hlt' hbefore))
  · rfl
  · exact absurd hsame.symm (Nat.ne_of_lt (hpairs _ _ hlt' hlt hbehind))

/-- Numbers that increase compare as their indices do. -/
theorem getElem_lt_iff {numbers : Array Nat} (hincreasing : numbers.toList.Pairwise (· < ·))
    {index index' number number' : Nat} (hget : numbers[index]? = some number)
    (hget' : numbers[index']? = some number') : number < number' ↔ index < index' := by
  obtain ⟨hindex, rfl⟩ := Array.getElem?_eq_some_iff.1 hget
  obtain ⟨hindex', rfl⟩ := Array.getElem?_eq_some_iff.1 hget'
  have hpairs := List.pairwise_iff_getElem.1 hincreasing
  constructor
  · intro hless
    by_contra hnot
    obtain rfl | hbehind := Nat.eq_or_lt_of_le (Nat.le_of_not_lt hnot)
    · exact Nat.lt_irrefl _ hless
    · exact Nat.lt_asymm hless (hpairs index' index hindex' hindex hbehind)
  · exact hpairs index index' hindex hindex'

/-- Among numbers that increase, a search finds the one that is wanted. -/
theorem search_eq_some {numbers : Array Nat} (hincreasing : numbers.toList.Pairwise (· < ·))
    {wanted low width index : Nat} (hget : numbers[index]? = some wanted)
    (hlow : low ≤ index) (hhigh : index < low + width) (hsize : low + width ≤ numbers.size) :
    search numbers wanted low width = some index := by
  -- The index stays between the bounds: it is on the side of the middle that its number is on.
  fun_induction search numbers wanted low width with
  | case1 low => omega
  | case2 low width hwidth middle hnone =>
      have hbeyond := Array.getElem?_eq_none_iff.1 hnone
      omega
  | case3 low width hwidth middle hmiddle =>
      have hbefore := (getElem_lt_iff hincreasing hmiddle hget).not.1 (Nat.lt_irrefl _)
      have hbehind := (getElem_lt_iff hincreasing hget hmiddle).not.1 (Nat.lt_irrefl _)
      exact congrArg some (by omega)
  | case4 low width hwidth middle number hmiddle hne hless ih =>
      have hside := (getElem_lt_iff hincreasing hmiddle hget).1 hless
      exact ih hside (by omega) (by omega)
  | case5 low width hwidth middle number hmiddle hne hnot ih =>
      have hside := (getElem_lt_iff hincreasing hget hmiddle).1 (by omega)
      exact ih hlow hside (by omega)

theorem Increasing.startOffsets (h : Increasing located) :
    (startOffsets located).toList.Pairwise (· < ·) :=
  List.pairwise_map.2 h

theorem not_leadsTo_of_targetIndex (hincreasing : Increasing located) {offset : Nat}
    {distance : Int16} {e : DecodeError}
    (h : targetIndex (startOffsets located) offset distance = .error e) :
    e = .invalidTarget offset (offset + distance.toInt) ∧
      ∀ index, ¬ LeadsTo located offset distance index := by
  unfold targetIndex at h
  simp only at h
  split at h
  · cases h
  · next hnone =>
      cases h
      refine ⟨rfl, ?_⟩
      rintro index ⟨place, hplace, hoffset⟩
      have hstart : (startOffsets located)[index]? = some place.offset := by
        rw [getElem?_startOffsets, hplace, Option.map_some]
      have hlt := (Array.getElem?_eq_some_iff.1 hstart).1
      have hfound : search (startOffsets located) place.offset 0 (startOffsets located).size =
          some index :=
        search_eq_some hincreasing.startOffsets hstart (Nat.zero_le _) (by omega) (by omega)
      rw [← hoffset, if_pos (Int.natCast_nonneg _), Int.toNat_natCast, hfound] at hnone
      cases hnone

/-- The targets of branches are found by where they lead. -/
theorem targetIndex_eq_ok_iff (hincreasing : Increasing located) {offset index : Nat}
    {distance : Int16} :
    targetIndex (startOffsets located) offset distance = .ok index ↔
      LeadsTo located offset distance index := by
  constructor
  · exact LeadsTo.of_targetIndex
  · intro hleads
    cases hfound : targetIndex (startOffsets located) offset distance with
    | error e => exact absurd hleads ((not_leadsTo_of_targetIndex hincreasing hfound).2 index)
    | ok other => rw [hleads.unique hincreasing (LeadsTo.of_targetIndex hfound)]

/-- Every target lies in the code. Its end is none. -/
theorem LeadsTo.mem_code (h : Covers (.ofBytes code) located) {offset index : Nat}
    {distance : Int16} (hleads : LeadsTo located offset distance index) :
    0 ≤ (offset : Int) + distance.toInt ∧ (offset : Int) + distance.toInt < code.length := by
  obtain ⟨place, hplace, hoffset⟩ := hleads
  have hlt := (h.readOne_into (Cursor.passes_nil.2 rfl) hplace).1
  omega

/-! ## Resolved instructions -/

/-- If the instruction in its place may branch, it leads to an instruction. -/
def Arrives (located : List Located) (place : Located) : Prop :=
  ∀ distance, place.instruction.target? = some distance →
    ∃ index, LeadsTo located place.offset distance index

/-- The resolved instruction is the one in its place. Only a target is named anew, by the index of
the one instruction that the branch leads to. -/
structure Resolves (located : List Located) (place : Located) (resolved : Instruction Nat) :
    Prop where
  kept : place.instruction.target? = none → ∀ f, resolved = place.instruction.mapTarget f
  redirected : ∀ distance, place.instruction.target? = some distance →
    ∃ index, (resolved = place.instruction.mapTarget fun _ => index) ∧
      ∀ other, LeadsTo located place.offset distance other ↔ other = index

/-- The instruction at the index is the first whose branch leads nowhere. -/
structure FirstAstray (located : List Located) (index : Nat) (place : Located)
    (distance : Int16) : Prop where
  standing : located[index]? = some place
  branches : place.instruction.target? = some distance
  nowhere : ∀ target, ¬ LeadsTo located place.offset distance target
  first : ∀ earlier < index, ∀ other, located[earlier]? = some other → Arrives located other

variable {place : Located}

theorem Resolves.arrives {resolved : Instruction Nat} (h : Resolves located place resolved) :
    Arrives located place := by
  intro distance hbranch
  obtain ⟨index, -, honly⟩ := h.redirected distance hbranch
  exact ⟨index, (honly index).2 rfl⟩

theorem resolves_of_retarget (hincreasing : Increasing located) {resolved : Instruction Nat}
    (h : place.instruction.retarget (targetIndex (startOffsets located) place.offset) =
      .ok resolved) :
    Resolves located place resolved where
  kept hbranch f := by
    rw [Instruction.retarget_of_not_branch hbranch _ f] at h
    exact (Except.ok.inj h).symm
  redirected distance hbranch := by
    rw [Instruction.retarget_of_branch hbranch] at h
    obtain ⟨index, hindex, hresolved⟩ := map_eq_ok_iff.1 h
    have hleads := LeadsTo.of_targetIndex hindex
    refine ⟨index, hresolved.symm, fun other => ⟨fun hother => ?_, ?_⟩⟩
    · exact hother.unique hincreasing hleads
    · rintro rfl
      exact hleads

theorem not_leadsTo_of_retarget (hincreasing : Increasing located) {e : DecodeError}
    (h : place.instruction.retarget (targetIndex (startOffsets located) place.offset) =
      .error e) :
    ∃ distance, place.instruction.target? = some distance ∧
      e = .invalidTarget place.offset (place.offset + distance.toInt) ∧
      ∀ index, ¬ LeadsTo located place.offset distance index := by
  cases hbranch : place.instruction.target? with
  | none =>
      rw [Instruction.retarget_of_not_branch hbranch _ fun _ => 0] at h
      cases h
  | some distance =>
      rw [Instruction.retarget_of_branch hbranch, map_eq_error_iff] at h
      exact ⟨distance, rfl, not_leadsTo_of_targetIndex hincreasing h⟩

/-- Every instruction is resolved by itself, in its place. -/
theorem resolves_of_resolve (hincreasing : Increasing located)
    {instructions : List (Instruction Nat)} (h : resolve located = .ok instructions) :
    List.Forall₂ (Resolves located) located instructions :=
  (mapM_eq_ok_iff.1 h).imp fun _ _ => resolves_of_retarget hincreasing

/-- Branches are resolved in the order of the code, up to the first that leads nowhere. -/
theorem exists_first_of_resolve (hincreasing : Increasing located) {e : DecodeError}
    (h : resolve located = .error e) :
    ∃ index place distance, FirstAstray located index place distance ∧
      e = .invalidTarget place.offset (place.offset + distance.toInt) := by
  obtain ⟨index, place, hplace, herror, hearlier⟩ := exists_first_of_mapM_error h
  obtain ⟨distance, hbranch, he, hnowhere⟩ := not_leadsTo_of_retarget hincreasing herror
  refine ⟨index, place, distance, ⟨hplace, hbranch, hnowhere, ?_⟩, he⟩
  intro earlier hlt other hother
  obtain ⟨resolved, hresolved⟩ := hearlier earlier hlt other hother
  exact (resolves_of_retarget hincreasing hresolved).arrives

theorem outcome_decode_of_scan (h : (scan code).outcome = .ok located) :
    (decode code).outcome = resolve located := by
  rw [decode, Log.Traced.outcome_bind, h]
  rfl

/-- Code that cannot be read is not decoded, for the same reason. For code that can be read, a
branch leads to an instruction if one starts at the branch's own offset plus its distance, which is
never in front of the code nor at its end. Decoding succeeds exactly if every branch leads to an
instruction. Then each instruction is resolved in its place: all but the target is kept, and the
target is the only index that the branch leads to. Otherwise the first branch that leads nowhere is
reported, with its offset and the offset of its target. -/
theorem decode_resolves_branches (code : List UInt8) :
    (∀ e, (scan code).outcome = .error e → (decode code).outcome = .error e) ∧
    ∀ located, (scan code).outcome = .ok located →
      (∀ offset distance target, LeadsTo located offset distance target →
        0 ≤ (offset : Int) + distance.toInt ∧ (offset : Int) + distance.toInt < code.length) ∧
      ((∃ instructions, (decode code).outcome = .ok instructions) ↔
        ∀ place ∈ located, Arrives located place) ∧
      (∀ instructions, (decode code).outcome = .ok instructions →
        List.Forall₂ (Resolves located) located instructions) ∧
      ∀ e, (decode code).outcome = .error e →
        ∃ index place distance, FirstAstray located index place distance ∧
          e = .invalidTarget place.offset (place.offset + distance.toInt) := by
  constructor
  · intro e hscan
    rw [decode, Log.Traced.outcome_bind, hscan]
    rfl
  · intro located hscan
    have hcovers : Covers (.ofBytes code) located := outcome_sweep_eq_ok_iff.1 hscan
    have hincreasing := hcovers.increasing
    rw [outcome_decode_of_scan hscan]
    refine ⟨fun _ _ _ hleads => hleads.mem_code hcovers, ⟨?_, ?_⟩,
      fun _ => resolves_of_resolve hincreasing, fun _ => exists_first_of_resolve hincreasing⟩
    · rintro ⟨instructions, hinstructions⟩ place hplace
      obtain ⟨index, hindex, rfl⟩ := List.getElem_of_mem hplace
      have hall := resolves_of_resolve hincreasing hinstructions
      exact (hall.get hindex (hall.length_eq ▸ hindex)).arrives
    · intro harrives
      cases hresolve : resolve located with
      | ok instructions => exact ⟨instructions, rfl⟩
      | error e =>
          obtain ⟨index, place, distance, hastray, -⟩ :=
            exists_first_of_resolve hincreasing hresolve
          obtain ⟨target, hleads⟩ :=
            harrives place (List.mem_of_getElem? hastray.standing) distance hastray.branches
          exact absurd hleads (hastray.nowhere target)

example : (decode [0xA7, 0, 3]).outcome = .error (.invalidTarget 0 3) := by decide +kernel

end Code

end ClassVM
