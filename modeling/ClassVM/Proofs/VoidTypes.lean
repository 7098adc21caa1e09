import ClassVM.Proofs.DescriptorGrammar
import Mathlib.Data.List.Infix

/-! # Where the type `V` can stand

A parameter that is `V` itself is refused. What the elements of an array are is not looked at, so
arrays of `V` are read as parameters and as results, at every depth. These are the only types of
values with `V` in them: in a descriptor without `[V`, the type `V` is at most the result. -/

namespace ClassVM

/-! ## Types with `V` in them -/

namespace ValueType

/-- The type is `V`, or an array of arrays down to the type `V`. -/
def InvolvesVoid : ValueType → Prop
  | .void => True
  | .array element => element.InvolvesVoid
  | _ => False

/-- The arrays of a depth that come down to the type `V`. -/
def voidArray : Nat → ValueType
  | 0 => .void
  | depth + 1 => .array (voidArray depth)

variable {type : ValueType}

theorem involvesVoid_iff : type.InvolvesVoid ↔ ∃ depth, type = voidArray depth := by
  induction type with
  | void => exact ⟨fun _ => ⟨0, rfl⟩, fun _ => trivial⟩
  | array element ih =>
      rw [InvolvesVoid, ih]
      constructor
      · rintro ⟨depth, rfl⟩
        exact ⟨depth + 1, rfl⟩
      · rintro ⟨depth, h⟩
        cases depth with
        | zero => cases h
        | succ depth => exact ⟨depth, ValueType.array.inj h⟩
  | _ =>
      refine ⟨False.elim, ?_⟩
      rintro ⟨depth, h⟩
      cases depth <;> cases h

/-- A type is `V` or has no `V` in it, unless it is an array that comes down to `V`. -/
theorem void_or_not_involvesVoid_iff :
    type = .void ∨ ¬ type.InvolvesVoid ↔ ∀ depth, type ≠ voidArray (depth + 1) := by
  rw [involvesVoid_iff]
  constructor
  · rintro (rfl | hnone) depth h
    · cases h
    · exact hnone ⟨depth + 1, h⟩
  · intro hnone
    by_contra hall
    obtain ⟨hvoid, hsome⟩ := not_or.1 hall
    obtain ⟨depth, rfl⟩ := not_not.1 hsome
    cases depth with
    | zero => exact hvoid rfl
    | succ depth => exact hnone depth rfl

/-- Brackets, one for each depth, and a `V`. -/
def bracketedVoid (depth : Nat) : List Char := List.replicate depth '[' ++ ['V']

theorem toList_render_voidArray (depth : Nat) :
    (voidArray depth).render.toList = bracketedVoid depth := by
  induction depth with
  | zero => rfl
  | succ depth ih => simp [voidArray, render, bracketedVoid, List.replicate_succ, ih]

theorem classNames_voidArray (depth : Nat) : (voidArray depth).classNames = [] := by
  induction depth with
  | zero => rfl
  | succ depth ih => exact ih

/-- Only the arrays that come down to `V` are written with nothing but brackets in front of it. -/
theorem render_eq_bracketedVoid_iff {depth : Nat} :
    type.render.toList = bracketedVoid depth ↔ type = voidArray depth := by
  constructor
  · intro h
    induction type generalizing depth with
    | array element ih =>
        rw [render, String.toList_append] at h
        cases depth with
        | zero => cases h
        | succ depth =>
            have hinner := (List.cons.inj h).2
            rw [voidArray, ih hinner]
    | reference name =>
        rw [render, String.toList_append, String.toList_append] at h
        cases depth <;> cases h
    | void =>
        cases depth with
        | zero => rfl
        | succ depth => cases h
    | _ => cases depth <;> cases h
  · rintro rfl
    exact toList_render_voidArray depth

/-- An array of `V` is written with `[V` in it. -/
theorem isInfix_bracketedVoid (depth : Nat) : ['[', 'V'] <:+: bracketedVoid (depth + 1) := by
  refine ⟨List.replicate depth '[', [], ?_⟩
  rw [bracketedVoid, List.replicate_succ']
  simp

end ValueType

/-! ## Descriptors -/

namespace Descriptor

open ValueType (voidArray bracketedVoid)

variable {segment : Text.Segmenter} {descriptor : Descriptor} {text : String}

/-- No value has a type with `V` in it: no parameter, at any depth, and no result, unless there is
no result. -/
structure VoidFree (descriptor : Descriptor) : Prop where
  parameters : ∀ type ∈ descriptor.parameters, ¬ type.InvolvesVoid
  result : descriptor.result = .void ∨ ¬ descriptor.result.InvolvesVoid

/-- Where no parameter is `V` itself, a `V` in the type of a value has brackets in front of it. -/
theorem voidFree_iff (hparameters : ∀ type ∈ descriptor.parameters, type ≠ .void) :
    descriptor.VoidFree ↔
      ∀ type ∈ descriptor.result :: descriptor.parameters, ∀ depth,
        type.render.toList ≠ bracketedVoid (depth + 1) := by
  simp only [ne_eq, ValueType.render_eq_bracketedVoid_iff]
  simp only [← ne_eq, ← ValueType.void_or_not_involvesVoid_iff, List.forall_mem_cons]
  constructor
  · intro h
    exact ⟨h.result, fun type htype => .inr (h.parameters type htype)⟩
  · rintro ⟨hresult, hothers⟩
    refine ⟨fun type htype => ?_, hresult⟩
    exact (hothers type htype).resolve_left (hparameters type htype)

/-- What is written for a type of a descriptor stands in what is written for the descriptor. -/
theorem isInfix_render {type : ValueType}
    (h : type ∈ descriptor.result :: descriptor.parameters) :
    type.render.toList <:+: descriptor.render.toList := by
  rw [toList_render]
  obtain rfl | hparameter := List.mem_cons.1 h
  · apply List.IsSuffix.isInfix
    exact ((List.suffix_cons _ _).trans (List.suffix_append _ _)).trans (List.suffix_cons _ _)
  · obtain ⟨front, back, hsplit⟩ := List.append_of_mem hparameter
    refine ⟨'(' :: front.flatMap fun type => type.render.toList,
      (back.flatMap fun type => type.render.toList) ++ ')' :: descriptor.result.render.toList, ?_⟩
    simp [hsplit]

theorem SpeltBy.parameters_ne_void {clusters : List Text.Cluster}
    (h : descriptor.SpeltBy clusters) : ∀ type ∈ descriptor.parameters, type ≠ .void := by
  obtain ⟨takes, -⟩ := h
  exact takes.ne_void

/-- Without `[V` in the text, the type `V` is at most the result. -/
theorem voidFree_of_not_isInfix (h : parse segment text = .ok descriptor)
    (hlossless : segment.Lossless text) (hnone : ¬ ['[', 'V'] <:+: text.toList) :
    descriptor.VoidFree := by
  apply (voidFree_iff (parse_eq_ok_iff.1 h).parameters_ne_void).2
  intro type htype depth hwritten
  apply hnone
  calc
    ['[', 'V'] <:+: bracketedVoid (depth + 1) := ValueType.isInfix_bracketedVoid depth
    _ = type.render.toList := hwritten.symm
    _ <:+: descriptor.render.toList := isInfix_render htype
    _ = text.toList := by rw [render_of_parse hlossless h]

/-- A descriptor of arrays of `V`, one deeper for the parameter than for the result. -/
def ofVoidArrays (depth : Nat) : Descriptor := ⟨[voidArray (depth + 1)], voidArray depth⟩

theorem isAscii_render_ofVoidArrays (depth : Nat) : Text.IsAscii (ofVoidArrays depth).render := by
  have hwritten : (ofVoidArrays depth).render.toList =
      '(' :: (bracketedVoid (depth + 1) ++ ')' :: bracketedVoid depth) := by
    simp [toList_render, ofVoidArrays, ValueType.toList_render_voidArray]
  intro c hc
  obtain rfl | rfl | rfl | rfl : c = '(' ∨ c = '[' ∨ c = 'V' ∨ c = ')' := by
    rw [hwritten] at hc
    simp only [bracketedVoid, List.mem_cons, List.mem_append, List.mem_replicate] at hc
    grind
  all_goals decide

/-- Arrays of `V` are read at every depth. -/
theorem parse_ofVoidArrays {depth : Nat} (hcuts : segment.CutsAscii (ofVoidArrays depth).render) :
    parse segment (ofVoidArrays depth).render = .ok (ofVoidArrays depth) := by
  apply (parse_eq_ok_iff_render hcuts (isAscii_render_ofVoidArrays depth)).2
  refine ⟨rfl, ?_, ?_⟩
  · simp [ofVoidArrays, voidArray]
  · simp [ofVoidArrays, classNames, ValueType.classNames_voidArray]

/-- In a descriptor that was read, no parameter is `V` itself. So no value has a type with `V` in it
exactly if no type is written as brackets in front of `V`; and a text without `[V` is enough for
that, if nothing of it is lost when it is cut. Arrays of `V` are read at every depth, as a parameter
and as the result. -/
theorem void_types_of_parse (h : parse segment text = .ok descriptor) :
    (∀ type ∈ descriptor.parameters, type ≠ .void) ∧
    (descriptor.VoidFree ↔
      ∀ type ∈ descriptor.result :: descriptor.parameters, ∀ depth,
        type.render.toList ≠ bracketedVoid (depth + 1)) ∧
    (segment.Lossless text → ¬ ['[', 'V'] <:+: text.toList → descriptor.VoidFree) ∧
    ∀ depth, segment.CutsAscii (ofVoidArrays depth).render →
      parse segment (ofVoidArrays depth).render = .ok (ofVoidArrays depth) := by
  have hparameters := (parse_eq_ok_iff.1 h).parameters_ne_void
  exact ⟨hparameters, voidFree_iff hparameters, voidFree_of_not_isInfix h,
    fun _ => parse_ofVoidArrays⟩

/-- Arrays of other types, and no result. -/
theorem void_types_of_nestedArrays :
    parse Text.clusters "([[ZLV[;[J)V" =
        .ok ⟨[.array (.array .boolean), .reference "V[", .array .long], .void⟩ ∧
      Descriptor.VoidFree
        ⟨[.array (.array .boolean), .reference "V[", .array .long], .void⟩ := by
  have hparse : parse Text.clusters "([[ZLV[;[J)V" =
      .ok ⟨[.array (.array .boolean), .reference "V[", .array .long], .void⟩ := by decide +kernel
  have hlossless := Text.lossless_clusters "([[ZLV[;[J)V"
  exact ⟨hparse, (void_types_of_parse hparse).2.2.1 hlossless (by decide)⟩

/-- A parameter that is an array of `V` is read. -/
theorem voidArray_read_as_parameter :
    ¬ ∀ text descriptor, parse Text.clusters text = .ok descriptor → descriptor.VoidFree := by
  intro hall
  have hparse : parse Text.clusters "([V)V" = .ok ⟨[.array .void], .void⟩ := by decide +kernel
  exact (hall _ _ hparse).parameters (.array .void) (by decide) trivial

end Descriptor

end ClassVM
