import ClassVM.Proofs.Outcomes
import ClassVM.Proofs.PoolLookup

/-! # Why lookups fail

A lookup goes from address to address, and each hop asks for an entry of one kind. A hop is broken
if its address belongs to no entry, or to an entry of another kind. A member is found exactly if
none of its five hops is broken; otherwise the first broken one is reported. Whichever lookup fails,
what it says of the pool is so. -/

namespace ClassVM.Pool

variable {pool : Pool} {index : Index} {found : Entry} {kind : Kind} {e : LookupError}

/-! ## Addresses -/

/-- The entry stands at the address. The first entry stands at 1. -/
def Holds (pool : Pool) (index : Index) (found : Entry) : Prop :=
  ∃ place, index.number.toNat = place + 1 ∧ pool.entries[place]? = some found

/-- The address is 0, or lies behind the last entry. -/
def Lacks (pool : Pool) (index : Index) : Prop :=
  index.number.toNat = 0 ∨ pool.size < index.number.toNat

theorem entry?_eq_some_iff : pool.entry? index = some found ↔ pool.Holds index found := by
  unfold entry?
  split
  · next hzero =>
      constructor
      · intro h
        cases h
      · rintro ⟨place, hplace, -⟩
        omega
  · next hpos =>
      constructor
      · intro h
        exact ⟨index.number.toNat - 1, by omega, h⟩
      · rintro ⟨place, hplace, h⟩
        rwa [hplace, Nat.add_sub_cancel]

/-! ## One hop -/

/-- The hop to an entry of the kind at the address is broken, and the error reports it. -/
inductive Broken (pool : Pool) (kind : Kind) (index : Index) : LookupError → Prop
  | missing (lacks : pool.Lacks index) : Broken pool kind index (.missing index)
  | wrongKind {found : Entry} (holds : pool.Holds index found) (other : found.kind ≠ kind) :
      Broken pool kind index (.wrongKind kind index found)

theorem broken_iff_of_none (h : pool.entry? index = none) :
    pool.Broken kind index e ↔ e = .missing index := by
  constructor
  · intro hbroken
    cases hbroken with
    | missing _ => rfl
    | wrongKind holds _ =>
        rw [entry?_eq_some_iff.2 holds] at h
        cases h
  · rintro rfl
    exact .missing (entry?_eq_none_iff.1 h)

theorem broken_iff_of_some (h : pool.entry? index = some found) :
    pool.Broken kind index e ↔ found.kind ≠ kind ∧ e = .wrongKind kind index found := by
  constructor
  · intro hbroken
    cases hbroken with
    | missing lacks =>
        rw [entry?_eq_none_iff.2 lacks] at h
        cases h
    | wrongKind holds other =>
        rw [entry?_eq_some_iff.2 holds] at h
        cases h
        exact ⟨other, rfl⟩
  · rintro ⟨hother, rfl⟩
    exact .wrongKind (entry?_eq_some_iff.1 h) hother

section Hop

variable {α : Type} {next : Entry → Except LookupError α}

/-- A lookup that refuses entries of other kinds fails at its first hop, or behind it. -/
theorem hop_eq_error_iff (kind : Kind)
    (hwrong : ∀ found, found.kind ≠ kind → next found = .error (.wrongKind kind index found)) :
    (pool.entry index >>= next) = .error e ↔
      pool.Broken kind index e ∨
        ∃ found, pool.Holds index found ∧ found.kind = kind ∧ next found = .error e := by
  simp only [← entry?_eq_some_iff]
  cases hentry : pool.entry? index with
  | none =>
      rw [broken_iff_of_none hentry]
      simp [entry, hentry, bind, Except.bind, eq_comm]
  | some found =>
      rw [broken_iff_of_some hentry]
      simp only [entry, hentry, bind, Except.bind, Option.some.injEq, exists_eq_left']
      by_cases hkind : found.kind = kind
      · simp [hkind]
      · simp [hkind, hwrong found hkind, eq_comm]

/-- A lookup that follows no address fails exactly if its only hop is broken. -/
theorem lastHop_eq_error_iff
    (hnext : ∀ found, if found.kind = kind then ∃ a, next found = .ok a
      else next found = .error (.wrongKind kind index found)) :
    (pool.entry index >>= next) = .error e ↔ pool.Broken kind index e := by
  rw [hop_eq_error_iff kind fun found hkind => by simpa [hkind] using hnext found]
  apply or_iff_left
  rintro ⟨found, -, hkind, herror⟩
  obtain ⟨a, hok⟩ : ∃ a, next found = .ok a := by simpa [hkind] using hnext found
  rw [hok] at herror
  cases herror

end Hop

theorem entry_eq_error_iff :
    pool.entry index = .error e ↔ pool.Lacks index ∧ e = .missing index := by
  rw [Lacks, ← entry?_eq_none_iff, entry]
  cases pool.entry? index with
  | none => simp [eq_comm]
  | some found => simp

theorem utf8_eq_error_iff : pool.utf8 index = .error e ↔ pool.Broken .utf8 index e := by
  apply lastHop_eq_error_iff
  intro found
  cases found <;> simp [Entry.kind]

theorem classRef_eq_error_iff : pool.classRef index = .error e ↔ pool.Broken .classRef index e := by
  apply lastHop_eq_error_iff
  intro found
  cases found <;> simp [Entry.kind]

theorem fieldRef_eq_error_iff : pool.fieldRef index = .error e ↔ pool.Broken .fieldRef index e := by
  apply lastHop_eq_error_iff
  intro found
  cases found <;> simp [Entry.kind]

theorem methodRef_eq_error_iff :
    pool.methodRef index = .error e ↔ pool.Broken .methodRef index e := by
  apply lastHop_eq_error_iff
  intro found
  cases found <;> simp [Entry.kind]

theorem nameAndType_eq_error_iff :
    pool.nameAndType index = .error e ↔ pool.Broken .nameAndType index e := by
  apply lastHop_eq_error_iff
  intro found
  cases found <;> simp [Entry.kind]

/-! ## From hop to hop -/

theorem className_eq_error_iff :
    pool.className index = .error e ↔
      pool.Broken .classRef index e ∨
        ∃ name, pool.Holds index (.classRef name) ∧ pool.Broken .utf8 name e := by
  simp only [className, bind_eq_error_iff, classRef_eq_error_iff, classRef_eq_ok_iff,
    utf8_eq_error_iff, entry?_eq_some_iff]

theorem string_eq_error_iff :
    pool.string index = .error e ↔
      pool.Broken .string index e ∨
        ∃ text, pool.Holds index (.string text) ∧ pool.Broken .utf8 text e := by
  unfold string
  rw [hop_eq_error_iff .string]
  · apply or_congr_right
    constructor
    · rintro ⟨found, hfound, hkind, herror⟩
      cases found with
      | string text => exact ⟨text, hfound, utf8_eq_error_iff.1 herror⟩
      | _ => cases hkind
    · rintro ⟨text, hfound, hbroken⟩
      exact ⟨.string text, hfound, rfl, utf8_eq_error_iff.2 hbroken⟩
  · intro found hkind
    cases found with
    | string text => exact absurd rfl hkind
    | _ => rfl

/-- All hops from a member reference to the texts of the member are whole. -/
inductive Reaches (pool : Pool) (ref : MemberRef) (member : Member) : Prop
  | intro {ownerName name descriptor : Index}
      (owner : pool.Holds ref.owner (.classRef ownerName))
      (ownerText : pool.Holds ownerName (.utf8 member.owner))
      (nameAndType : pool.Holds ref.nameAndType (.nameAndType name descriptor))
      (nameText : pool.Holds name (.utf8 member.name))
      (descriptorText : pool.Holds descriptor (.utf8 member.descriptor))

/-- The error reports the first broken hop on the way from a member reference to its texts: that to
the class, to the name of the class, to the name and type, to the name, or to the descriptor. -/
inductive FirstBroken (pool : Pool) (ref : MemberRef) (e : LookupError) : Prop
  | owner (broken : pool.Broken .classRef ref.owner e)
  | ownerText {ownerName : Index}
      (owner : pool.Holds ref.owner (.classRef ownerName))
      (broken : pool.Broken .utf8 ownerName e)
  | nameAndType {ownerName : Index} {ownerText : String}
      (owner : pool.Holds ref.owner (.classRef ownerName))
      (ownerText : pool.Holds ownerName (.utf8 ownerText))
      (broken : pool.Broken .nameAndType ref.nameAndType e)
  | nameText {ownerName name descriptor : Index} {ownerText : String}
      (owner : pool.Holds ref.owner (.classRef ownerName))
      (ownerText : pool.Holds ownerName (.utf8 ownerText))
      (nameAndType : pool.Holds ref.nameAndType (.nameAndType name descriptor))
      (broken : pool.Broken .utf8 name e)
  | descriptorText {ownerName name descriptor : Index} {ownerText nameText : String}
      (owner : pool.Holds ref.owner (.classRef ownerName))
      (ownerText : pool.Holds ownerName (.utf8 ownerText))
      (nameAndType : pool.Holds ref.nameAndType (.nameAndType name descriptor))
      (nameText : pool.Holds name (.utf8 nameText))
      (broken : pool.Broken .utf8 descriptor e)

variable {ref : MemberRef} {member : Member}

theorem member_eq_ok_iff : pool.member ref = .ok member ↔ pool.Reaches ref member := by
  simp only [Pool.member, bind_eq_ok_iff, className_eq_ok_iff, utf8_eq_ok_iff, entry?_eq_some_iff]
  constructor
  · rintro ⟨owner, ⟨ownerName, howner, hownerText⟩, parts, hparts, name, hname, descriptor,
      hdescriptor, hmember⟩
    cases hmember
    have hparts := entry?_eq_some_iff.1 (nameAndType_eq_ok_iff.1 hparts)
    exact .intro howner hownerText hparts hname hdescriptor
  · rintro ⟨howner, hownerText, hparts, hname, hdescriptor⟩
    have hparts := nameAndType_eq_ok_iff.2 (entry?_eq_some_iff.2 hparts)
    exact ⟨_, ⟨_, howner, hownerText⟩, _, hparts, _, hname, _, hdescriptor, rfl⟩

theorem member_eq_error_iff : pool.member ref = .error e ↔ pool.FirstBroken ref e := by
  simp only [Pool.member, bind_eq_error_iff, className_eq_ok_iff, className_eq_error_iff,
    nameAndType_eq_error_iff, utf8_eq_ok_iff, utf8_eq_error_iff, entry?_eq_some_iff]
  constructor
  · rintro ((hbroken | ⟨_, howner, hbroken⟩) | ⟨_, ⟨_, howner, hownerText⟩, hbehind⟩)
    · exact .owner hbroken
    · exact .ownerText howner hbroken
    · obtain hbroken | ⟨parts, hparts, hbehind⟩ := hbehind
      · exact .nameAndType howner hownerText hbroken
      · have hparts := entry?_eq_some_iff.1 (nameAndType_eq_ok_iff.1 hparts)
        obtain hbroken | ⟨_, hname, hbroken | ⟨_, _, hfound⟩⟩ := hbehind
        · exact .nameText howner hownerText hparts hbroken
        · exact .descriptorText howner hownerText hparts hname hbroken
        · cases hfound
  · intro h
    cases h with
    | owner broken => exact .inl (.inl broken)
    | ownerText owner broken => exact .inl (.inr ⟨_, owner, broken⟩)
    | nameAndType owner ownerText broken =>
        exact .inr ⟨_, ⟨_, owner, ownerText⟩, .inl broken⟩
    | nameText owner ownerText nameAndType broken =>
        have hparts := nameAndType_eq_ok_iff.2 (entry?_eq_some_iff.2 nameAndType)
        exact .inr ⟨_, ⟨_, owner, ownerText⟩, .inr ⟨_, hparts, .inl broken⟩⟩
    | descriptorText owner ownerText nameAndType nameText broken =>
        have hparts := nameAndType_eq_ok_iff.2 (entry?_eq_some_iff.2 nameAndType)
        exact .inr ⟨_, ⟨_, owner, ownerText⟩, .inr ⟨_, hparts, .inr ⟨_, nameText, .inl broken⟩⟩⟩

/-! ## What an error says -/

/-- What the error says of the pool is so. -/
def Confirms (pool : Pool) : LookupError → Prop
  | .missing index => pool.Lacks index
  | .wrongKind expected index found => pool.Holds index found ∧ found.kind ≠ expected

/-- If the lookup fails, what its error says of the pool is so. -/
def Truthful {α : Type} (pool : Pool) (result : Except LookupError α) : Prop :=
  ∀ e, result = .error e → pool.Confirms e

theorem Broken.confirmed (h : pool.Broken kind index e) : pool.Confirms e := by
  cases h with
  | missing lacks => exact lacks
  | wrongKind holds other => exact ⟨holds, other⟩

theorem FirstBroken.confirmed (h : pool.FirstBroken ref e) : pool.Confirms e := by
  cases h with
  | owner broken => exact broken.confirmed
  | ownerText _ broken => exact broken.confirmed
  | nameAndType _ _ broken => exact broken.confirmed
  | nameText _ _ _ broken => exact broken.confirmed
  | descriptorText _ _ _ _ broken => exact broken.confirmed

/-- A member is found exactly if the hops to its class, to the name of the class, to its name and
type, to its name and to its descriptor are all whole. Otherwise the first of them that is broken is
reported. An error of any lookup is true of the pool: an address that is missed is out of range, and
an entry that is refused stands where the error says, and is not of the kind that was asked for. -/
theorem lookups_report_broken_hops (pool : Pool) :
    (∀ ref member, pool.member ref = .ok member ↔ pool.Reaches ref member) ∧
    (∀ ref e, pool.member ref = .error e ↔ pool.FirstBroken ref e) ∧
    (∀ index,
      pool.Truthful (pool.entry index) ∧ pool.Truthful (pool.utf8 index) ∧
      pool.Truthful (pool.classRef index) ∧ pool.Truthful (pool.className index) ∧
      pool.Truthful (pool.string index) ∧ pool.Truthful (pool.fieldRef index) ∧
      pool.Truthful (pool.methodRef index) ∧ pool.Truthful (pool.nameAndType index)) ∧
    ∀ ref, pool.Truthful (pool.member ref) := by
  refine ⟨fun _ _ => member_eq_ok_iff, fun _ _ => member_eq_error_iff, ?_, ?_⟩
  · intro index
    refine ⟨?_, ?_, ?_, ?_, ?_, ?_, ?_, ?_⟩
    · intro e h
      obtain ⟨hlacks, rfl⟩ := entry_eq_error_iff.1 h
      exact hlacks
    · exact fun _ h => (utf8_eq_error_iff.1 h).confirmed
    · exact fun _ h => (classRef_eq_error_iff.1 h).confirmed
    · intro e h
      obtain hbroken | ⟨_, -, hbroken⟩ := className_eq_error_iff.1 h
      · exact hbroken.confirmed
      · exact hbroken.confirmed
    · intro e h
      obtain hbroken | ⟨_, -, hbroken⟩ := string_eq_error_iff.1 h
      · exact hbroken.confirmed
      · exact hbroken.confirmed
    · exact fun _ h => (fieldRef_eq_error_iff.1 h).confirmed
    · exact fun _ h => (methodRef_eq_error_iff.1 h).confirmed
    · exact fun _ h => (nameAndType_eq_error_iff.1 h).confirmed
  · exact fun ref e h => (member_eq_error_iff.1 h).confirmed

end ClassVM.Pool
