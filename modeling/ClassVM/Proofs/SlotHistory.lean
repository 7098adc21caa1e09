import ClassVM.Proofs.SlotAccess
import Mathlib.Algebra.BigOperators.Group.List.Basic
import Mathlib.Algebra.Ring.Int.Defs
import Mathlib.Data.List.Induction

/-! # What a slot holds

Slots are accessed in any order, and some of the accesses fail. What a slot holds is told by those
that succeeded: the value that was put there last, be it an argument, with all that was added to it
since. So is the reason why the next access fails, if it does. -/

namespace ClassVM

/-- The value with a number added. Integers wrap around, and other values are left as they are. -/
def Value.plus : Value → Int → Value
  | .int number, sum => .int (Int32.ofInt (number.toInt + sum))
  | other, _ => other

theorem Value.plus_zero (value : Value) : value.plus 0 = value := by
  cases value with
  | int number => simp [plus]
  | text content => rfl
  | field index => rfl

theorem Value.int_plus_toInt (number delta : Int32) :
    (Value.int number).plus delta.toInt = .int (number + delta) := by
  rw [plus, Int32.ofInt_add, Int32.ofInt_toInt, Int32.ofInt_toInt]

theorem Value.plus_plus (value : Value) (first second : Int) :
    (value.plus first).plus second = value.plus (first + second) := by
  cases value with
  | int number =>
      apply congrArg Value.int
      calc Int32.ofInt ((Int32.ofInt (number.toInt + first)).toInt + second)
        _ = Int32.ofInt (number.toInt + first) + Int32.ofInt second := by
          rw [Int32.ofInt_add, Int32.ofInt_toInt]
        _ = Int32.ofInt (number.toInt + (first + second)) := by
          rw [← Int32.ofInt_add, Int.add_assoc]
  | text content => rfl
  | field index => rfl

namespace Locals

namespace Access

/-- The access puts a value in the slot. -/
def Puts (index : UInt8) : Access → Prop
  | .set slot _ => slot = index
  | .get _ | .increment _ _ => False

instance (index : UInt8) : DecidablePred (Puts index)
  | .set slot _ => inferInstanceAs (Decidable (slot = index))
  | .get _ | .increment _ _ => .isFalse not_false

/-- The number that the access adds to what is in the slot. -/
def delta (index : UInt8) : Access → Int
  | .increment slot number => if slot = index then number.toInt else 0
  | .get _ | .set _ _ => 0

end Access

/-- The accesses that succeed, in their order. -/
def succeeding (locals : Locals) : List Access → List Access
  | [] => []
  | access :: later =>
      match locals.perform access with
      | (.ok _, reached) => access :: reached.succeeding later
      | (.error _, reached) => reached.succeeding later

/-! ## What the accesses tell -/

variable {locals reached : Locals} {access : Access} {index : UInt8} {value : Value}
  {capacity : Nat} {arguments : List Value} {history later : List Access}

/-- The value is the last that was put in the slot, by an access or as an argument, and the accesses
in `later` have come since. -/
structure LastPut (arguments : List Value) (history : List Access) (index : UInt8) (value : Value)
    (later : List Access) : Prop where
  since : ∀ access ∈ later, ¬ access.Puts index
  origin : arguments[index.toNat]? = some value ∧ history = later ∨
    ∃ earlier, history = earlier ++ .set index value :: later

/-- The slot holds the value, by what has been done: the value is the last that was put there, with
the sum of what has been added since. -/
def Holds (arguments : List Value) (history : List Access) (index : UInt8) (value : Value) : Prop :=
  ∃ put later, LastPut arguments history index put later ∧
    value = put.plus (later.map (Access.delta index)).sum

theorem lastPut_append (h : ¬ access.Puts index) :
    LastPut arguments (history ++ [access]) index value later ↔
      ∃ before, later = before ++ [access] ∧ LastPut arguments history index value before := by
  constructor
  · rintro ⟨hsince, ⟨hargument, rfl⟩ | ⟨earlier, hsplit⟩⟩
    · exact ⟨history, rfl, fun a ha => hsince a (List.mem_append_left _ ha), .inl ⟨hargument, rfl⟩⟩
    · -- The access is no store to the slot, so it stands behind the one that is.
      obtain rfl | ⟨before, last, rfl⟩ := List.eq_nil_or_concat' later
      · obtain ⟨-, hlast⟩ := List.append_inj' hsplit rfl
        cases hlast
        exact (h rfl).elim
      · rw [← List.cons_append, ← List.append_assoc] at hsplit
        obtain ⟨rfl, hlast⟩ := List.append_inj' hsplit rfl
        cases hlast
        exact ⟨before, rfl, fun a ha => hsince a (List.mem_append_left _ ha), .inr ⟨earlier, rfl⟩⟩
  · rintro ⟨before, rfl, hsince, horigin⟩
    refine ⟨?_, ?_⟩
    · intro a ha
      obtain ha | ha := List.mem_append.1 ha
      · exact hsince a ha
      · rwa [List.mem_singleton.1 ha]
    · obtain ⟨hargument, rfl⟩ | ⟨earlier, rfl⟩ := horigin
      · exact .inl ⟨hargument, rfl⟩
      · exact .inr ⟨earlier, by simp⟩

theorem lastPut_append_set {stored : Value} :
    LastPut arguments (history ++ [.set index stored]) index value later ↔
      value = stored ∧ later = [] := by
  constructor
  · rintro ⟨hsince, horigin⟩
    have hnil : later = [] := by
      have hsuffix : later <:+ history ++ [.set index stored] := by
        obtain ⟨-, heq⟩ | ⟨earlier, heq⟩ := horigin
        · exact ⟨[], heq.symm⟩
        · exact ⟨earlier ++ [.set index value], by simp [heq]⟩
      -- Otherwise what has come since would end with the store itself.
      obtain hnil | ⟨before, rfl, -⟩ := List.suffix_concat_iff.1 hsuffix
      · exact hnil
      · exact (hsince _ (List.mem_append_right _ (List.mem_singleton.2 rfl)) rfl).elim
    subst hnil
    obtain ⟨-, heq⟩ | ⟨earlier, heq⟩ := horigin
    · simp at heq
    · obtain ⟨-, hlast⟩ := List.append_inj' heq rfl
      cases hlast
      exact ⟨rfl, rfl⟩
  · rintro ⟨rfl, rfl⟩
    exact ⟨fun a ha => (List.not_mem_nil ha).elim, .inr ⟨history, rfl⟩⟩

theorem holds_nil : Holds arguments [] index value ↔ arguments[index.toNat]? = some value := by
  constructor
  · rintro ⟨put, later, ⟨-, ⟨hargument, rfl⟩ | ⟨earlier, hsplit⟩⟩, rfl⟩
    · rw [hargument, List.map_nil, List.sum_nil, Value.plus_zero]
    · simp at hsplit
  · intro hargument
    have hlast : LastPut arguments [] index value [] :=
      ⟨fun a ha => (List.not_mem_nil ha).elim, .inl ⟨hargument, rfl⟩⟩
    exact ⟨value, [], hlast, value.plus_zero.symm⟩

theorem holds_append (h : ¬ access.Puts index) :
    Holds arguments (history ++ [access]) index value ↔
      ∃ before, Holds arguments history index before ∧
        value = before.plus (access.delta index) := by
  constructor
  · rintro ⟨put, later, hlast, rfl⟩
    obtain ⟨before, rfl, hbefore⟩ := (lastPut_append h).1 hlast
    refine ⟨_, ⟨put, before, hbefore, rfl⟩, ?_⟩
    rw [Value.plus_plus, List.map_append, List.sum_append, List.map_singleton, List.sum_singleton]
  · rintro ⟨_, ⟨put, before, hlast, rfl⟩, rfl⟩
    refine ⟨put, before ++ [access], (lastPut_append h).2 ⟨before, rfl, hlast⟩, ?_⟩
    rw [Value.plus_plus, List.map_append, List.sum_append, List.map_singleton, List.sum_singleton]

theorem holds_append_of_spared (hputs : ¬ access.Puts index) (hdelta : access.delta index = 0) :
    Holds arguments (history ++ [access]) index value ↔ Holds arguments history index value := by
  simp [holds_append hputs, hdelta, Value.plus_zero]

theorem holds_append_of_ne (h : access.index ≠ index) :
    Holds arguments (history ++ [access]) index value ↔ Holds arguments history index value := by
  cases access with
  | get slot => exact holds_append_of_spared not_false rfl
  | set slot stored => exact holds_append_of_spared h rfl
  | increment slot delta => exact holds_append_of_spared not_false (if_neg h)

theorem holds_append_set {stored : Value} :
    Holds arguments (history ++ [.set index stored]) index value ↔ value = stored := by
  constructor
  · rintro ⟨put, later, hlast, rfl⟩
    obtain ⟨rfl, rfl⟩ := lastPut_append_set.1 hlast
    exact put.plus_zero
  · rintro rfl
    exact ⟨value, [], lastPut_append_set.2 ⟨rfl, rfl⟩, value.plus_zero.symm⟩

/-- The slot has an argument, or a value has been put in it. -/
def Written (arguments : List Value) (history : List Access) (index : UInt8) : Prop :=
  index.toNat < arguments.length ∨ ∃ access ∈ history, access.Puts index

instance : Decidable (Written arguments history index) :=
  inferInstanceAs (Decidable (_ ∨ _))

theorem LastPut.written (h : LastPut arguments history index value later) :
    Written arguments history index := by
  obtain ⟨hargument, -⟩ | ⟨earlier, rfl⟩ := h.origin
  · exact .inl (List.getElem?_eq_some_iff.1 hargument).1
  · exact .inr ⟨_, List.mem_append_right _ List.mem_cons_self, rfl⟩

theorem exists_holds_of_written (h : Written arguments history index) :
    ∃ value, Holds arguments history index value := by
  induction history using List.reverseRecOn with
  | nil =>
      obtain hargument | ⟨access, hmem, -⟩ := h
      · exact ⟨_, holds_nil.2 (List.getElem?_eq_getElem hargument)⟩
      · cases hmem
  | append_singleton history last ih =>
      by_cases hputs : last.Puts index
      · cases last with
        | get slot => exact hputs.elim
        | set slot stored =>
            rw [Access.Puts] at hputs
            subst hputs
            exact ⟨stored, holds_append_set.2 rfl⟩
        | increment slot delta => exact hputs.elim
      · have hbefore : Written arguments history index := by
          obtain hargument | ⟨access, hmem, haccess⟩ := h
          · exact .inl hargument
          · obtain hmem | hmem := List.mem_append.1 hmem
            · exact .inr ⟨access, hmem, haccess⟩
            · rw [List.mem_singleton.1 hmem] at haccess
              exact (hputs haccess).elim
        obtain ⟨before, hholds⟩ := ih hbefore
        exact ⟨_, (holds_append hputs).2 ⟨before, hholds, rfl⟩⟩

/-- A slot holds a value exactly if it was written. -/
theorem exists_holds_iff :
    (∃ value, Holds arguments history index value) ↔ Written arguments history index := by
  constructor
  · rintro ⟨value, put, later, hlast, -⟩
    exact hlast.written
  · exact exists_holds_of_written

/-- The slots are as the accesses tell. -/
structure Remembers (locals : Locals) (capacity : Nat) (arguments : List Value)
    (history : List Access) : Prop where
  capacity_eq : locals.capacity = capacity
  slot_iff : ∀ (index : UInt8) (value : Value),
    locals.slots[index.toNat]? = some (some value) ↔ Holds arguments history index value

theorem remembers_of_create (h : create capacity arguments = .ok locals) :
    locals.Remembers capacity arguments [] := by
  unfold create at h
  split at h
  · next hfits =>
      cases h
      refine ⟨by simp [Locals.capacity, hfits], ?_⟩
      intro index value
      rw [holds_nil]
      by_cases hlt : index.toNat < arguments.length
      · simp [Array.getElem?_append_left, hlt]
      · simp [Array.getElem?_append_right, Array.getElem?_replicate, Nat.le_of_not_lt hlt]
  · cases h

/-- An access that succeeds becomes part of what is remembered. -/
theorem Remembers.performs {found : Option Value}
    (h : locals.Remembers capacity arguments history)
    (hperforms : locals.Performs access (.ok found) reached) :
    reached.Remembers capacity arguments (history ++ [access]) := by
  refine ⟨hperforms.capacity_eq.trans h.capacity_eq, ?_⟩
  intro slot contents
  by_cases heq : access.index = slot
  · subst heq
    cases hperforms with
    | got holds =>
        exact (h.slot_iff _ contents).trans (Iff.symm (holds_append_of_spared not_false rfl))
    | @stored index value _ found =>
        rw [Access.index, getElem?_put, if_pos rfl, found, holds_append_set]
        simp [eq_comm]
    | @added index delta number holds =>
        -- The integer from before is the only value that the slot held.
        have hbefore (before : Value) : Holds arguments history index before ↔
            before = .int number := by
          rw [← h.slot_iff, holds]
          simp [eq_comm]
        have hputs : ¬ (Access.increment index delta).Puts index := not_false
        have hdelta : (Access.increment index delta).delta index = delta.toInt := if_pos rfl
        rw [Access.index, getElem?_put, if_pos rfl, holds, holds_append hputs]
        simp only [hbefore, hdelta, exists_eq_left, Value.int_plus_toInt]
        simp [eq_comm]
  · rw [hperforms.spares (UInt8.toNat_inj.not.2 (Ne.symm heq)), h.slot_iff,
      holds_append_of_ne heq]

/-- After one access after another, the slots are as those that succeeded tell. -/
theorem Remembers.after (h : locals.Remembers capacity arguments history)
    (accesses : List Access) :
    (locals.after accesses).Remembers capacity arguments
      (history ++ locals.succeeding accesses) := by
  induction accesses generalizing locals history with
  | nil =>
      rw [succeeding, List.append_nil]
      exact h
  | cons access accesses ih =>
      have hperforms := locals.performs_perform access
      change ((locals.perform access).2.after accesses).Remembers _ _ _
      rw [succeeding]
      split
      · next found reached heq =>
          rw [heq] at hperforms ⊢
          rw [List.append_cons]
          exact ih (h.performs hperforms)
      · next fault reached heq =>
          rw [heq] at hperforms ⊢
          obtain rfl := hperforms.eq_of_error
          exact ih h

/-! ## The next access -/

/-- The access fails for the reason, by what has been done: the slot does not exist, or nothing has
been put in it that could be read, or what it holds cannot be added to. -/
inductive Fails (capacity : Nat) (arguments : List Value) (history : List Access) :
    Access → Fault → Prop
  | lacking {access : Access} (beyond : capacity ≤ access.index.toNat) :
      Fails capacity arguments history access (.localOutOfRange access.index capacity)
  | unwritten {access : Access} (within : access.index.toNat < capacity) (reads : access.Reads)
      (never : ¬ Written arguments history access.index) :
      Fails capacity arguments history access (.uninitializedLocal access.index)
  | mismatched {index : UInt8} {delta : Int32} {value : Value} (within : index.toNat < capacity)
      (holds : Holds arguments history index value) (other : value.kind ≠ .int) :
      Fails capacity arguments history (.increment index delta) (.typeMismatch .int value.kind)

theorem Remembers.perform_eq_error_iff {fault : Fault}
    (h : locals.Remembers capacity arguments history) :
    (locals.perform access).1 = .error fault ↔
      Fails capacity arguments history access fault := by
  have hsize : locals.slots.size = capacity := h.capacity_eq
  constructor
  · intro hfault
    have hperforms := locals.performs_perform access
    rw [hfault] at hperforms
    generalize (locals.perform access).2 = reached at hperforms
    cases hperforms with
    | lacking lacks =>
        rw [h.capacity_eq]
        exact .lacking (hsize ▸ Array.getElem?_eq_none_iff.1 lacks)
    | unwritten reads empty =>
        refine .unwritten (hsize ▸ (Array.getElem?_eq_some_iff.1 empty).1) reads ?_
        intro hwritten
        obtain ⟨value, hvalue⟩ := exists_holds_iff.2 hwritten
        rw [← h.slot_iff, empty] at hvalue
        cases hvalue
    | mismatched holds other =>
        exact .mismatched (hsize ▸ (Array.getElem?_eq_some_iff.1 holds).1)
          ((h.slot_iff _ _).1 holds) other
  · intro hfails
    cases hfails with
    | lacking beyond =>
        rw [perform_of_lacking (Array.getElem?_eq_none (hsize ▸ beyond)), h.capacity_eq]
    | unwritten within reads never =>
        have hempty : locals.slots[access.index.toNat]? = some none := by
          obtain ⟨contents, hcontents⟩ : ∃ contents,
              locals.slots[access.index.toNat]? = some contents :=
            ⟨_, Array.getElem?_eq_getElem (hsize ▸ within)⟩
          cases contents with
          | none => exact hcontents
          | some value =>
              exact (never (exists_holds_iff.1 ⟨value, (h.slot_iff _ _).1 hcontents⟩)).elim
        rw [perform_of_unwritten hempty reads]
    | mismatched within holds other =>
        rw [perform_increment_of_ne ((h.slot_iff _ _).2 holds) other]

/-- Whatever is done with the slots of a new frame, their number stays the same, and a slot holds
the value that was put there last, be it an argument, with all that was added to it since. A slot
that holds a value never becomes empty again. The next access changes no slot but its own, and none
if it fails; and it fails exactly if it asks for a slot that does not exist, reads one that was
never written, or adds to a value that is no integer. -/
theorem slots_hold_last_put {start : Locals} (hcreate : create capacity arguments = .ok start)
    (accesses : List Access) :
    let locals := start.after accesses
    let history := start.succeeding accesses
    locals.capacity = capacity ∧
    (∀ index value, locals.get index = .ok value ↔ Holds arguments history index value) ∧
    (∀ index more, (∃ value, locals.get index = .ok value) →
      ∃ value, (locals.after more).get index = .ok value) ∧
    (∀ access (slot : Nat), slot ≠ access.index.toNat →
      (locals.perform access).2.slots[slot]? = locals.slots[slot]?) ∧
    (∀ access fault, (locals.perform access).1 = .error fault →
      (locals.perform access).2 = locals) ∧
    ∀ access fault, (locals.perform access).1 = .error fault ↔
      Fails capacity arguments history access fault := by
  intro locals history
  have hremembers : locals.Remembers capacity arguments history :=
    (remembers_of_create hcreate).after accesses
  refine ⟨hremembers.capacity_eq, ?_, ?_, ?_, ?_, ?_⟩
  · intro index value
    rw [get_eq_ok_iff, hremembers.slot_iff]
  · intro index more hholds
    simp only [get_eq_ok_iff] at hholds ⊢
    exact keeps_after more hholds
  · intro access slot hslot
    exact (locals.performs_perform access).spares hslot
  · intro access fault hfault
    have hperforms := locals.performs_perform access
    rw [hfault] at hperforms
    exact hperforms.eq_of_error
  · intro access fault
    exact hremembers.perform_eq_error_iff

/-- Accesses to a frame of four slots, some of which fail. -/
def mixedAccesses : List Access :=
  [.increment 0 1, .increment 1 1, .set 2 (.int 5), .get 3, .set 9 (.int 0), .increment 2 (-7),
    .set 2 (.int 3), .increment 2 (-1), .get 2]

/-- The largest integer wraps around when one is added, and what was stored first is forgotten with
all that was added to it. The text in the second slot and the empty last slot cannot be added to. -/
theorem slots_hold_last_put_mixedAccesses :
    ∃ start, create 4 [.int 2147483647, .text "x"] = .ok start ∧
      start.succeeding mixedAccesses =
        [.increment 0 1, .set 2 (.int 5), .increment 2 (-7), .set 2 (.int 3), .increment 2 (-1),
          .get 2] ∧
      (start.after mixedAccesses).get 0 = .ok (.int (-2147483648)) ∧
      (start.after mixedAccesses).get 2 = .ok (.int 2) ∧
      ((start.after mixedAccesses).perform (.increment 1 1)).1 =
        .error (.typeMismatch .int .text) ∧
      ((start.after mixedAccesses).perform (.increment 3 1)).1 =
        .error (.uninitializedLocal 3) := by
  obtain ⟨start, hcreate⟩ : ∃ start, create 4 [.int 2147483647, .text "x"] = .ok start :=
    ⟨_, rfl⟩
  have hhistory : start.succeeding mixedAccesses =
      [.increment 0 1, .set 2 (.int 5), .increment 2 (-7), .set 2 (.int 3), .increment 2 (-1),
        .get 2] := by
    cases hcreate
    decide
  obtain ⟨-, hget, -, -, -, hfails⟩ := slots_hold_last_put hcreate mixedAccesses
  simp only [hhistory] at hget hfails
  refine ⟨start, hcreate, hhistory, ?_, ?_, ?_, ?_⟩
  · exact (hget 0 _).2 ⟨.int 2147483647, _, ⟨by decide, .inl ⟨rfl, rfl⟩⟩, by decide⟩
  · refine (hget 2 _).2 ⟨.int 3, [.increment 2 (-1), .get 2], ⟨by decide, .inr ?_⟩, by decide⟩
    exact ⟨[.increment 0 1, .set 2 (.int 5), .increment 2 (-7)], rfl⟩
  · exact (hfails _ _).2 (.mismatched (by decide)
      ⟨.text "x", _, ⟨by decide, .inl ⟨rfl, rfl⟩⟩, rfl⟩ Value.Kind.noConfusion)
  · exact (hfails (.increment 3 1) _).2 (.unwritten (by decide) trivial (by decide))

end Locals

end ClassVM
