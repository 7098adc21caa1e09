import ClassVM.Proofs.Operands

/-! # Accesses to slots

The slots of a frame are read, written and added to. Every access says what it found and how the
slots stand afterwards. All that it can come to is told by the slot that it names: it changes no
other, and none at all if it fails. -/

namespace ClassVM

theorem Value.exists_int {value : Value} (h : value.kind = .int) :
    ∃ number, value = .int number := by
  cases value with
  | int number => exact ⟨number, rfl⟩
  | text content => cases h
  | field index => cases h

namespace Locals

/-! ## Accesses one after another -/

/-- An access to a slot. -/
inductive Access where
  | get (index : UInt8)
  | set (index : UInt8) (value : Value)
  | increment (index : UInt8) (delta : Int32)
  deriving DecidableEq

namespace Access

/-- The slot that is accessed. -/
def index : Access → UInt8
  | .get index | .set index _ | .increment index _ => index

/-- The access needs a value in the slot. -/
def Reads : Access → Prop
  | .get _ | .increment _ _ => True
  | .set _ _ => False

end Access

/-- What a change answers, which is no value, and the slots after it. -/
def answered : Except Fault Unit × Locals → Except Fault (Option Value) × Locals
  | (result, after) => (result.map fun _ => none, after)

/-- What an access answers, and the slots after it. -/
def perform (locals : Locals) : Access → Except Fault (Option Value) × Locals
  | .get index => ((locals.get index).map some, locals)
  | .set index value => answered (locals.set index value)
  | .increment index delta => answered (locals.increment index delta)

/-- The slots after one access after another. -/
def after (locals : Locals) (accesses : List Access) : Locals :=
  accesses.foldl (fun reached access => (reached.perform access).2) locals

/-! ## What one access comes to -/

variable {locals reached : Locals} {access : Access} {answer : Except Fault (Option Value)}
  {index : UInt8} {value : Value}

theorem slot_of_none (h : locals.slots[index.toNat]? = none) :
    locals.slot index = .error (.localOutOfRange index locals.capacity) := by
  rw [slot, h]

theorem slot_of_some {contents : Option Value} (h : locals.slots[index.toNat]? = some contents) :
    locals.slot index = .ok contents := by
  rw [slot, h]

theorem get_eq_ok_iff :
    locals.get index = .ok value ↔ locals.slots[index.toNat]? = some (some value) := by
  cases hslot : locals.slots[index.toNat]? with
  | none => simp [get, slot_of_none hslot, bind, Except.bind]
  | some contents =>
      cases contents with
      | none => simp [get, slot_of_some hslot, bind, Except.bind]
      | some held => simp [get, slot_of_some hslot, bind, Except.bind]

theorem getElem?_put (locals : Locals) (index : UInt8) (made : Option Value) (slot : Nat) :
    (locals.put index made).slots[slot]? =
      if index.toNat = slot then locals.slots[slot]?.map fun _ => made
      else locals.slots[slot]? := by
  rw [put, Array.getElem?_setIfInBounds]
  split
  · next heq =>
      subst heq
      split
      · next hlt => rw [Array.getElem?_eq_getElem hlt, Option.map_some]
      · next hge => rw [Array.getElem?_eq_none (Nat.le_of_not_lt hge), Option.map_none]
  · rfl

/-- Slots do not change if one of them gets the contents that it has. -/
theorem put_self {contents : Option Value} (h : locals.slots[index.toNat]? = some contents) :
    locals.put index contents = locals := by
  have hslots : (locals.put index contents).slots = locals.slots := by
    apply Array.ext_getElem?
    intro slot
    rw [getElem?_put]
    split
    · next heq => rw [← heq, h, Option.map_some]
    · rfl
  exact congrArg Locals.mk hslots

theorem perform_of_lacking (h : locals.slots[access.index.toNat]? = none) :
    locals.perform access =
      (.error (.localOutOfRange access.index locals.capacity), locals) := by
  cases access with
  | get index =>
      rw [Access.index] at h ⊢
      rw [perform, get, slot_of_none h]
      rfl
  | set index value =>
      rw [Access.index] at h ⊢
      rw [perform, set, change_of_error (slot_of_none h)]
      rfl
  | increment index delta =>
      rw [Access.index] at h ⊢
      rw [perform, increment, change_of_error (slot_of_none h)]
      rfl

theorem perform_of_unwritten (h : locals.slots[access.index.toNat]? = some none)
    (hreads : access.Reads) :
    locals.perform access = (.error (.uninitializedLocal access.index), locals) := by
  cases access with
  | get index =>
      rw [Access.index] at h ⊢
      rw [perform, get, slot_of_some h]
      rfl
  | set index value => exact hreads.elim
  | increment index delta =>
      rw [Access.index] at h ⊢
      rw [perform, increment, change_of_ok (slot_of_some h)]
      simp only [answered, put_self h]
      rfl

theorem perform_get (h : locals.slots[index.toNat]? = some (some value)) :
    locals.perform (.get index) = (.ok (some value), locals) := by
  rw [perform, get, slot_of_some h]
  rfl

theorem perform_set {contents : Option Value} (h : locals.slots[index.toNat]? = some contents)
    (value : Value) :
    locals.perform (.set index value) = (.ok none, locals.put index (some value)) := by
  rw [perform, set, change_of_ok (slot_of_some h)]
  rfl

theorem perform_increment {number : Int32}
    (h : locals.slots[index.toNat]? = some (some (.int number))) (delta : Int32) :
    locals.perform (.increment index delta) =
      (.ok none, locals.put index (some (.int (number + delta)))) := by
  rw [perform, increment, change_of_ok (slot_of_some h)]
  rfl

theorem perform_increment_of_ne (h : locals.slots[index.toNat]? = some (some value))
    (hkind : value.kind ≠ .int) (delta : Int32) :
    locals.perform (.increment index delta) =
      (.error (.typeMismatch .int value.kind), locals) := by
  rw [perform, increment, change_of_ok (slot_of_some h)]
  -- What is in the slot is no integer, so it is put back as it was.
  cases value with
  | int number => exact (hkind rfl).elim
  | text content =>
      simp only [answered, put_self h]
      rfl
  | field handle =>
      simp only [answered, put_self h]
      rfl

/-- All that an access can come to. -/
inductive Performs (locals : Locals) : Access → Except Fault (Option Value) → Locals → Prop
  | lacking {access : Access} (lacks : locals.slots[access.index.toNat]? = none) :
      Performs locals access (.error (.localOutOfRange access.index locals.capacity)) locals
  | unwritten {access : Access} (reads : access.Reads)
      (empty : locals.slots[access.index.toNat]? = some none) :
      Performs locals access (.error (.uninitializedLocal access.index)) locals
  | got {index : UInt8} {value : Value} (holds : locals.slots[index.toNat]? = some (some value)) :
      Performs locals (.get index) (.ok (some value)) locals
  | stored {index : UInt8} {value : Value} {contents : Option Value}
      (found : locals.slots[index.toNat]? = some contents) :
      Performs locals (.set index value) (.ok none) (locals.put index (some value))
  | added {index : UInt8} {delta number : Int32}
      (holds : locals.slots[index.toNat]? = some (some (.int number))) :
      Performs locals (.increment index delta) (.ok none)
        (locals.put index (some (.int (number + delta))))
  | mismatched {index : UInt8} {delta : Int32} {value : Value}
      (holds : locals.slots[index.toNat]? = some (some value)) (other : value.kind ≠ .int) :
      Performs locals (.increment index delta) (.error (.typeMismatch .int value.kind)) locals

theorem performs_perform (locals : Locals) (access : Access) :
    Performs locals access (locals.perform access).1 (locals.perform access).2 := by
  cases hslot : locals.slots[access.index.toNat]? with
  | none =>
      rw [perform_of_lacking hslot]
      exact .lacking hslot
  | some contents =>
      cases access with
      | get index =>
          cases contents with
          | none =>
              rw [perform_of_unwritten hslot trivial]
              exact .unwritten trivial hslot
          | some value =>
              rw [Access.index] at hslot
              rw [perform_get hslot]
              exact .got hslot
      | set index value =>
          rw [Access.index] at hslot
          rw [perform_set hslot]
          exact .stored hslot
      | increment index delta =>
          cases contents with
          | none =>
              rw [perform_of_unwritten hslot trivial]
              exact .unwritten trivial hslot
          | some value =>
              rw [Access.index] at hslot
              by_cases hkind : value.kind = .int
              · obtain ⟨number, rfl⟩ := Value.exists_int hkind
                rw [perform_increment hslot]
                exact .added hslot
              · rw [perform_increment_of_ne hslot hkind]
                exact .mismatched hslot hkind

/-! ## What one access leaves as it was -/

theorem Performs.capacity_eq (h : locals.Performs access answer reached) :
    reached.capacity = locals.capacity := by
  cases h with
  | lacking lacks => rfl
  | unwritten reads empty => rfl
  | got holds => rfl
  | stored found => exact Array.size_setIfInBounds
  | added holds => exact Array.size_setIfInBounds
  | mismatched holds other => rfl

theorem Performs.spares (h : locals.Performs access answer reached) {slot : Nat}
    (hslot : slot ≠ access.index.toNat) : reached.slots[slot]? = locals.slots[slot]? := by
  cases h with
  | lacking lacks => rfl
  | unwritten reads empty => rfl
  | got holds => rfl
  | stored found => exact (getElem?_put ..).trans (if_neg hslot.symm)
  | added holds => exact (getElem?_put ..).trans (if_neg hslot.symm)
  | mismatched holds other => rfl

theorem Performs.eq_of_error {fault : Fault} (h : locals.Performs access (.error fault) reached) :
    reached = locals := by
  cases h with
  | lacking lacks => rfl
  | unwritten reads empty => rfl
  | mismatched holds other => rfl

theorem keeps_put {slot : Nat} (h : ∃ held, locals.slots[slot]? = some (some held))
    (index : UInt8) (value : Value) :
    ∃ held, (locals.put index (some value)).slots[slot]? = some (some held) := by
  obtain ⟨held, hheld⟩ := h
  rw [getElem?_put, hheld]
  split
  · exact ⟨value, rfl⟩
  · exact ⟨held, rfl⟩

/-- A slot that holds a value holds one after any access. -/
theorem Performs.keeps {slot : Nat} (h : locals.Performs access answer reached)
    (hslot : ∃ held, locals.slots[slot]? = some (some held)) :
    ∃ held, reached.slots[slot]? = some (some held) := by
  cases h with
  | lacking lacks => exact hslot
  | unwritten reads empty => exact hslot
  | got holds => exact hslot
  | stored found => exact keeps_put hslot _ _
  | added holds => exact keeps_put hslot _ _
  | mismatched holds other => exact hslot

theorem keeps_after {slot : Nat} (accesses : List Access)
    (h : ∃ held, locals.slots[slot]? = some (some held)) :
    ∃ held, (locals.after accesses).slots[slot]? = some (some held) := by
  induction accesses generalizing locals with
  | nil => exact h
  | cons access accesses ih => exact ih ((locals.performs_perform access).keeps h)

end Locals

end ClassVM
