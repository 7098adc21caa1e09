import ClassVM.Proofs.DepthLimit
import ClassVM.Proofs.MissingEntries

/-! # More constants and more methods

A class that begins with the constants and the methods of another answers every lookup that succeeds
there, and every lookup that meets an entry of the wrong kind, in the same way. So it runs as the
other does, unless the other misses a constant or a method. -/

namespace ClassVM

namespace Pool

/-- The lookup failed because there is no entry at an address. -/
def LookupError.OfAbsence : LookupError → Prop
  | .missing _ => True
  | .wrongKind _ _ _ => False

/-- The constants of the one are the first of the other, at the same addresses. -/
def Begins (pool larger : Pool) : Prop :=
  pool.entries.toList <+: larger.entries.toList

namespace Begins

variable {pool larger : Pool}

theorem entry?_eq_some (h : pool.Begins larger) {index : Index} {found : Entry}
    (hfound : pool.entry? index = some found) : larger.entry? index = some found := by
  unfold Pool.entry? at hfound ⊢
  split at hfound
  · cases hfound
  · next hpos =>
      rw [if_neg hpos, ← Array.getElem?_toList]
      rw [← Array.getElem?_toList] at hfound
      obtain ⟨more, hmore⟩ := h
      rw [← hmore]
      exact List.getElem?_append_left (List.getElem?_eq_some_iff.1 hfound).1 ▸ hfound

theorem entry (h : pool.Begins larger) (index : Index) :
    AgreesUnless LookupError.OfAbsence Eq (pool.entry index) (larger.entry index) := by
  unfold Pool.entry
  cases hentry : pool.entry? index with
  | none => exact .cut trivial
  | some found =>
      rw [h.entry?_eq_some hentry]
      exact .found rfl

/-- What is made of an entry is the same, if it is made alike. -/
theorem ofEntry (h : pool.Begins larger) {α : Type} {index : Index}
    {next next' : Entry → Except LookupError α}
    (hnext : ∀ found, AgreesUnless LookupError.OfAbsence Eq (next found) (next' found)) :
    AgreesUnless LookupError.OfAbsence Eq (pool.entry index >>= next)
      (larger.entry index >>= next') := by
  apply (h.entry index).bind
  rintro found _ rfl
  exact hnext found

theorem utf8 (h : pool.Begins larger) (index : Index) :
    AgreesUnless LookupError.OfAbsence Eq (pool.utf8 index) (larger.utf8 index) :=
  h.ofEntry fun _ => .refl _

theorem classRef (h : pool.Begins larger) (index : Index) :
    AgreesUnless LookupError.OfAbsence Eq (pool.classRef index) (larger.classRef index) :=
  h.ofEntry fun _ => .refl _

theorem fieldRef (h : pool.Begins larger) (index : Index) :
    AgreesUnless LookupError.OfAbsence Eq (pool.fieldRef index) (larger.fieldRef index) :=
  h.ofEntry fun _ => .refl _

theorem methodRef (h : pool.Begins larger) (index : Index) :
    AgreesUnless LookupError.OfAbsence Eq (pool.methodRef index) (larger.methodRef index) :=
  h.ofEntry fun _ => .refl _

theorem nameAndType (h : pool.Begins larger) (index : Index) :
    AgreesUnless LookupError.OfAbsence Eq (pool.nameAndType index) (larger.nameAndType index) :=
  h.ofEntry fun _ => .refl _

theorem string (h : pool.Begins larger) (index : Index) :
    AgreesUnless LookupError.OfAbsence Eq (pool.string index) (larger.string index) := by
  apply h.ofEntry
  intro found
  cases found with
  | string text => exact h.utf8 text
  | _ => exact .failed

theorem className (h : pool.Begins larger) (index : Index) :
    AgreesUnless LookupError.OfAbsence Eq (pool.className index) (larger.className index) := by
  apply (h.classRef index).bind
  rintro name _ rfl
  exact h.utf8 name

theorem member (h : pool.Begins larger) (ref : MemberRef) :
    AgreesUnless LookupError.OfAbsence Eq (pool.member ref) (larger.member ref) := by
  apply (h.className ref.owner).bind
  rintro owner _ rfl
  apply (h.nameAndType ref.nameAndType).bind
  rintro ⟨nameIndex, descriptorIndex⟩ _ rfl
  apply (h.utf8 nameIndex).bind
  rintro name _ rfl
  apply (h.utf8 descriptorIndex).bind
  rintro descriptor _ rfl
  exact .refl _

theorem field (h : pool.Begins larger) (index : Index) :
    AgreesUnless LookupError.OfAbsence Eq (pool.field index) (larger.field index) := by
  apply (h.fieldRef index).bind
  rintro ref _ rfl
  exact h.member ref

theorem method (h : pool.Begins larger) (index : Index) :
    AgreesUnless LookupError.OfAbsence Eq (pool.method index) (larger.method index) := by
  apply (h.methodRef index).bind
  rintro ref _ rfl
  exact h.member ref

/-- The text at an address within the pool is the same, and so is the lack of one. -/
theorem utf8_eq (h : pool.Begins larger) {index : Index} (hwithin : index.Within pool.size) :
    pool.utf8 index = larger.utf8 index := by
  apply (h.utf8 index).eq_of_not_cut
  intro e herror habsent
  cases e with
  | missing other => exact missesAt_utf8.never hwithin other herror
  | wrongKind expected other found => exact habsent

end Begins

end Pool

/-- The fault is that a constant or a method is missing. -/
def Fault.OfAbsence : Fault → Prop
  | .lookup cause => cause.OfAbsence
  | .method (.notFound _) => True
  | _ => False

/-- The methods agree in all that running them depends on. -/
structure Method.RunsAs (method method' : Method) : Prop where
  nameIndex : method.nameIndex = method'.nameIndex
  code : method.code = method'.code
  maxLocals : method.maxLocals = method'.maxLocals

namespace ClassFile

/-- The names of the methods are at addresses within the pool. -/
def MethodsNamed (classFile : ClassFile) : Prop :=
  ∀ method ∈ classFile.methods, method.nameIndex.Within classFile.pool.size

/-- The class has the name and begins with the constants and the methods of the other. In all else
they may differ: in their versions, flags, parents and interfaces, and in the flags, the descriptors
and the stacks of their methods. -/
structure Extends (larger base : ClassFile) : Prop where
  thisClass : larger.thisClass = base.thisClass
  pool : base.pool.Begins larger.pool
  methods : ∃ front, front <+: larger.methods ∧ List.Forall₂ Method.RunsAs base.methods front

variable {base larger : ClassFile}

theorem methodsNamed_of_parse {bytes : List UInt8} (h : (parse bytes).outcome = .ok base) :
    base.MethodsNamed := by
  intro method hmethod
  obtain ⟨text, htext⟩ := ((wellFormed_of_parse h).methods method hmethod).name
  have hsome : base.pool.entry? method.nameIndex ≠ none := by
    rw [htext]
    exact Option.some_ne_none _
  rw [Ne, Pool.entry?_eq_none_iff] at hsome
  constructor <;> omega

namespace Extends

theorem parallel (h : larger.Extends base) : base.Parallel larger Fault.OfAbsence where
  fieldRef := h.pool.fieldRef
  string := h.pool.string
  field := h.pool.field
  method := h.pool.method
  name := by
    rw [ClassFile.name, ClassFile.name, h.thisClass]
    exact h.pool.className base.thisClass

theorem isNamed_eq (h : larger.Extends base) {method method' : Method}
    (hwithin : method.nameIndex.Within base.pool.size) (hsame : method.RunsAs method')
    (name : String) : base.isNamed name method = larger.isNamed name method' := by
  rw [isNamed, isNamed, methodName, methodName, ← hsame.nameIndex, h.pool.utf8_eq hwithin]

/-- A method that is found is found in the larger class too: the first one of the name is among the
methods that it begins with. -/
theorem method?_eq_some (h : larger.Extends base) (hnamed : base.MethodsNamed) {name : String}
    {method : Method} (hmethod : base.method? name = some method) :
    ∃ method', larger.method? name = some method' ∧ method.RunsAs method' := by
  obtain ⟨front, ⟨back, hback⟩, hfront⟩ := h.methods
  -- A name that the smaller pool lacks may be in the larger one, so each pair keeps its address.
  have hpairs := (List.forall₂_and_left _ _).2 ⟨hnamed, hfront⟩
  have hrel := rel_find? (fun hpair => h.isNamed_eq hpair.1 hpair.2 name) hpairs
  rw [ClassFile.method?] at hmethod
  rw [hmethod] at hrel
  generalize hfound : front.find? (larger.isNamed name) = found at hrel
  cases hrel with
  | some hpair =>
      refine ⟨_, ?_, hpair.2⟩
      rw [ClassFile.method?, ← hback, List.find?_append, hfound]
      rfl

end Extends

end ClassFile

namespace Machine

variable {base larger : ClassFile}

/-- A machine for the class does what one for the larger class does, until it misses something. -/
theorem follows_extends (h : larger.Extends base) (hnamed : base.MethodsNamed) (limits : Limits)
    (segment : Text.Segmenter) :
    Machine.Follows ⟨base, limits, segment⟩ ⟨larger, limits, segment⟩ Eq (Session.Alike Eq)
      Fault.OfAbsence := by
  refine follows_of_counterparts (Session.companions_alike Eq) rfl h.parallel
    (Locals.parallel_eq _) rfl ?_ ?_ ?_
  · intro name method hmethod
    obtain ⟨method', hmethod', hsame⟩ := h.method?_eq_some hnamed hmethod
    refine ⟨method', hmethod', hsame.code, fun hsession => hsession.announced name _ _, ?_⟩
    intro arguments
    rw [hsame.maxLocals]
    exact .refl _
  · intro name _
    exact .inr trivial
  · intro session session' hsession value
    exact .inl (hsession.answered _)

/-- Reading a file gives a class whose methods have their names within the pool. For such a class,
what a larger one adds is never noticed: a run that ends, but not for want of a constant or a method,
ends with the same answer and the same output on the larger class, and leaves a session behind from
which this holds again. -/
theorem run_of_extends (base : ClassFile) :
    (∀ bytes, (ClassFile.parse bytes).outcome = .ok base → base.MethodsNamed) ∧
    (base.MethodsNamed → ∀ larger : ClassFile, larger.Extends base →
      ∀ limits segment fuel name session session' answer after, session.Alike Eq session' →
        Machine.run ⟨base, limits, segment⟩ fuel name session = some (answer, after) →
        (∀ fault, answer = .error fault → ¬ fault.OfAbsence) →
        ∃ after',
          Machine.run ⟨larger, limits, segment⟩ fuel name session' = some (answer, after') ∧
          after.output = after'.output ∧ after.Alike Eq after') := by
  constructor
  · intro bytes hparse
    exact ClassFile.methodsNamed_of_parse hparse
  · intro hnamed larger h limits segment fuel name session session' answer after hsession hrun
      hanswer
    have hfollows := follows_extends h hnamed limits segment
    obtain ⟨after', hrun', hafter⟩ | ⟨fault, rfl, habsent⟩ :=
      hfollows.run (fun halike => halike.answered .flush) hsession hrun
    · refine ⟨after', hrun', ?_, hafter⟩
      rw [Session.output, Session.output, hafter.sink]
    · exact absurd habsent (hanswer fault rfl)

/-- The class of `twoLines` with another parent, other flags and descriptors, a further constant and
a second `main`, which does nothing. -/
def twoLinesAndMore : ClassFile where
  minorVersion := 3
  majorVersion := 61
  pool := ⟨twoLines.classFile.pool.entries ++ #[.utf8 "()V"]⟩
  access := 0x21
  thisClass := ⟨2⟩
  superClass := ⟨9⟩
  interfaces := [⟨9⟩]
  methods :=
    twoLines.classFile.methods.map
        (fun method => { method with access := ⟨1⟩, descriptorIndex := ⟨18⟩, maxStack := 9 }) ++
      [⟨⟨8⟩, ⟨3⟩, ⟨18⟩, 0, 0, [0xB1]⟩]

theorem extends_twoLinesAndMore : twoLinesAndMore.Extends twoLines.classFile where
  thisClass := rfl
  pool := ⟨[.utf8 "()V"], rfl⟩
  methods := ⟨_, List.prefix_append _ _, .cons ⟨rfl, rfl, rfl⟩ (.cons ⟨rfl, rfl, rfl⟩ .nil)⟩

/-- Both lines are written, and the second `main` is not run. -/
theorem run_of_extends_twoLinesAndMore :
    twoLines.classFile.MethodsNamed ∧ twoLinesAndMore.Extends twoLines.classFile ∧
      ∃ after,
        Machine.run ⟨twoLinesAndMore, {}, Text.clusters⟩ 20 "main" (.start .unlimited none) =
          some (.ok (some (.int 1)), after) ∧ after.output = [50, 10, 51, 10] := by
  have hnamed : twoLines.classFile.MethodsNamed := by
    simp [ClassFile.MethodsNamed, twoLines, Pool.Index.Within, Pool.size]
  have hends : (twoLines.run 20 "main" (.start .unlimited none)).map
      (fun found => (found.1, found.2.output)) =
        some (.ok (some (.int 1)), [50, 10, 51, 10]) := by decide +kernel
  obtain ⟨after, hrun, houtput⟩ := exists_of_observed hends
  obtain ⟨after', hrun', houtput', -⟩ :=
    (run_of_extends twoLines.classFile).2 hnamed _ extends_twoLinesAndMore {} _ 20 "main" _ _ _ _
      ⟨rfl, rfl, rfl⟩ hrun (by simp)
  exact ⟨hnamed, extends_twoLinesAndMore, after', hrun', houtput' ▸ houtput⟩

end Machine

end ClassVM
