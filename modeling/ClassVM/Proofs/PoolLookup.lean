import ClassVM.Pool.Lookup

/-! # When lookups succeed

A lookup succeeds exactly if each address on its way belongs to an entry of the kind that is asked
for there. -/

namespace ClassVM.Pool

variable {pool : Pool} {index : Index}

theorem entry?_eq_none_iff :
    pool.entry? index = none ↔ index.number.toNat = 0 ∨ pool.size < index.number.toNat := by
  unfold entry? size
  split
  · next hzero => simp [hzero]
  · next hpos =>
      rw [Array.getElem?_eq_none_iff]
      omega

theorem entry_eq_ok_iff {found : Entry} :
    pool.entry index = .ok found ↔ pool.entry? index = some found := by
  unfold entry
  cases pool.entry? index <;> simp

theorem utf8_eq_ok_iff {text : String} :
    pool.utf8 index = .ok text ↔ pool.entry? index = some (.utf8 text) := by
  rw [← entry_eq_ok_iff, utf8]
  cases pool.entry index with
  | error e => simp [bind, Except.bind]
  | ok found => cases found <;> simp [bind, Except.bind]

theorem classRef_eq_ok_iff {name : Index} :
    pool.classRef index = .ok name ↔ pool.entry? index = some (.classRef name) := by
  rw [← entry_eq_ok_iff, classRef]
  cases pool.entry index with
  | error e => simp [bind, Except.bind]
  | ok found => cases found <;> simp [bind, Except.bind]

theorem fieldRef_eq_ok_iff {ref : MemberRef} :
    pool.fieldRef index = .ok ref ↔ pool.entry? index = some (.fieldRef ref) := by
  rw [← entry_eq_ok_iff, fieldRef]
  cases pool.entry index with
  | error e => simp [bind, Except.bind]
  | ok found => cases found <;> simp [bind, Except.bind]

theorem methodRef_eq_ok_iff {ref : MemberRef} :
    pool.methodRef index = .ok ref ↔ pool.entry? index = some (.methodRef ref) := by
  rw [← entry_eq_ok_iff, methodRef]
  cases pool.entry index with
  | error e => simp [bind, Except.bind]
  | ok found => cases found <;> simp [bind, Except.bind]

theorem nameAndType_eq_ok_iff {name descriptor : Index} :
    pool.nameAndType index = .ok (name, descriptor) ↔
      pool.entry? index = some (.nameAndType name descriptor) := by
  rw [← entry_eq_ok_iff, nameAndType]
  cases pool.entry index with
  | error e => simp [bind, Except.bind]
  | ok found => cases found <;> simp [bind, Except.bind]

theorem className_eq_ok_iff {text : String} :
    pool.className index = .ok text ↔
      ∃ name, pool.entry? index = some (.classRef name) ∧
        pool.entry? name = some (.utf8 text) := by
  simp only [← classRef_eq_ok_iff, ← utf8_eq_ok_iff, className]
  cases pool.classRef index with
  | error e => simp [bind, Except.bind]
  | ok name => simp [bind, Except.bind]

end ClassVM.Pool
