import ClassVM.Proofs.FormatExactness
import ClassVM.Proofs.ProgramCounter
import ClassVM.Proofs.Provenance

/-! # Which entries can be missing

The addresses inside the constants of a class that was read belong to entries. So a lookup that
follows them can miss only the entry that it was asked for, and a run only one that an instruction
names. -/

namespace ClassVM

/-! ## Lookups -/

namespace Pool

variable {α β : Type} {pool : Pool} {index : Index} {found : Except LookupError α}
  {next : α → Except LookupError β}

/-- The lookup does not fail for want of an entry. -/
def NeverMisses (found : Except LookupError α) : Prop :=
  ∀ other, found ≠ .error (.missing other)

/-- If the lookup fails for want of an entry, it is the one at the address. -/
def MissesAt (pool : Pool) (index : Index) (found : Except LookupError α) : Prop :=
  ∀ other, found = .error (.missing other) → other = index ∧ pool.entry? index = none

/-- The addresses inside the entries belong to entries. -/
def Closed (pool : Pool) : Prop :=
  ∀ entry ∈ pool.entries, entry.Fits pool.size

theorem NeverMisses.bind (h : NeverMisses found)
    (hnext : ∀ a, found = .ok a → NeverMisses (next a)) : NeverMisses (found >>= next) := by
  intro other hmissing
  obtain hfound | ⟨a, hfound, hrest⟩ := bind_eq_error_iff.1 hmissing
  · exact h other hfound
  · exact hnext a hfound other hrest

theorem MissesAt.bind (h : pool.MissesAt index found)
    (hnext : ∀ a, found = .ok a → NeverMisses (next a)) :
    pool.MissesAt index (found >>= next) := by
  intro other hmissing
  obtain hfound | ⟨a, hfound, hrest⟩ := bind_eq_error_iff.1 hmissing
  · exact h other hfound
  · exact absurd hrest (hnext a hfound other)

theorem MissesAt.never (h : pool.MissesAt index found) (hwithin : index.Within pool.size) :
    NeverMisses found := by
  intro other hmissing
  have hnone := entry?_eq_none_iff.1 (h other hmissing).2
  obtain ⟨hlow, hhigh⟩ := hwithin
  omega

theorem missesAt_entry : pool.MissesAt index (pool.entry index) := by
  intro other hmissing
  unfold entry at hmissing
  split at hmissing
  · cases hmissing
  · next hnone =>
      cases hmissing
      exact ⟨rfl, hnone⟩

/-- A lookup that follows no address misses only the entry at its own. -/
theorem missesAt_of_entry {next : Entry → Except LookupError α}
    (hnext : ∀ found, NeverMisses (next found)) :
    pool.MissesAt index (pool.entry index >>= next) :=
  missesAt_entry.bind fun found _ => hnext found

theorem missesAt_utf8 : pool.MissesAt index (pool.utf8 index) := by
  apply missesAt_of_entry
  intro found other hmissing
  cases found <;> cases hmissing

theorem missesAt_classRef : pool.MissesAt index (pool.classRef index) := by
  apply missesAt_of_entry
  intro found other hmissing
  cases found <;> cases hmissing

theorem missesAt_fieldRef : pool.MissesAt index (pool.fieldRef index) := by
  apply missesAt_of_entry
  intro found other hmissing
  cases found <;> cases hmissing

theorem missesAt_methodRef : pool.MissesAt index (pool.methodRef index) := by
  apply missesAt_of_entry
  intro found other hmissing
  cases found <;> cases hmissing

theorem missesAt_nameAndType : pool.MissesAt index (pool.nameAndType index) := by
  apply missesAt_of_entry
  intro found other hmissing
  cases found <;> cases hmissing

namespace Closed

theorem fits (h : pool.Closed) {entry : Entry} (hentry : pool.entry? index = some entry) :
    entry.Fits pool.size := by
  unfold entry? at hentry
  split at hentry
  · cases hentry
  · exact h entry (Array.mem_of_getElem? hentry)

theorem className (h : pool.Closed) : pool.MissesAt index (pool.className index) := by
  apply missesAt_classRef.bind
  intro name hname
  exact missesAt_utf8.never (h.fits (classRef_eq_ok_iff.1 hname))

theorem string (h : pool.Closed) : pool.MissesAt index (pool.string index) := by
  apply missesAt_entry.bind
  intro found hfound
  cases found with
  | string text => exact missesAt_utf8.never (h.fits (entry_eq_ok_iff.1 hfound))
  | _ =>
      intro other hmissing
      cases hmissing

/-- Both parts of a name and type belong to entries. -/
theorem parts (h : pool.Closed) {parts : Index × Index}
    (hparts : pool.nameAndType index = .ok parts) :
    NeverMisses (pool.utf8 parts.1) ∧ NeverMisses (pool.utf8 parts.2) := by
  have hfits := h.fits (nameAndType_eq_ok_iff.1 hparts)
  exact ⟨missesAt_utf8.never hfits.1, missesAt_utf8.never hfits.2⟩

theorem member (h : pool.Closed) {ref : MemberRef} (hwithin : ref.Within pool.size) :
    NeverMisses (pool.member ref) := by
  apply (h.className.never hwithin.1).bind
  intro owner _
  apply (missesAt_nameAndType.never hwithin.2).bind
  intro parts hparts
  obtain ⟨hname, hdescriptor⟩ := h.parts hparts
  apply hname.bind
  intro name _
  apply hdescriptor.bind
  intro descriptor _ other hmissing
  cases hmissing

theorem field (h : pool.Closed) : pool.MissesAt index (pool.field index) := by
  apply missesAt_fieldRef.bind
  intro ref href
  exact h.member (h.fits (fieldRef_eq_ok_iff.1 href))

theorem method (h : pool.Closed) : pool.MissesAt index (pool.method index) := by
  apply missesAt_methodRef.bind
  intro ref href
  exact h.member (h.fits (methodRef_eq_ok_iff.1 href))

end Closed

end Pool

/-! ## Classes that were read -/

namespace ClassFile

variable {classFile : ClassFile}

theorem wellFormed_of_parse {bytes : List UInt8} (h : (parse bytes).outcome = .ok classFile) :
    classFile.WellFormed :=
  (outcome_parse_eq_ok_iff.1 h).1

theorem WellFormed.name_eq_ok (h : classFile.WellFormed) : ∃ text, classFile.name = .ok text := by
  obtain ⟨nameIndex, text, hclass, htext⟩ := h.name
  exact ⟨text, Pool.className_eq_ok_iff.2 ⟨nameIndex, hclass, htext⟩⟩

end ClassFile

/-! ## Instructions -/

namespace Instruction

variable {τ σ ε : Type}

/-- The constant that the instruction names. -/
def constant? : Instruction τ → Option Pool.Index
  | .getStatic index | .loadConstant index | .invokeVirtual index | .invokeStatic index =>
      some index
  | _ => none

theorem constant?_of_retarget {f : τ → Except ε σ} {instruction : Instruction τ}
    {resolved : Instruction σ} (h : instruction.retarget f = .ok resolved) :
    resolved.constant? = instruction.constant? := by
  cases instruction with
  | ifNonzero distance =>
      obtain ⟨found, -, rfl⟩ := map_eq_ok_iff.1 h
      rfl
  | ifCompare comparison distance =>
      obtain ⟨found, -, rfl⟩ := map_eq_ok_iff.1 h
      rfl
  | goto distance =>
      obtain ⟨found, -, rfl⟩ := map_eq_ok_iff.1 h
      rfl
  | _ =>
      cases h
      rfl

/-- An instruction misses no entry but that of the constant that it names: the receiver of a
virtual call is a field reference, and the class has a name. -/
theorem Faults.missing {classFile : ClassFile} {memory : Memory} {instruction : Instruction τ}
    {index : Pool.Index} (hclass : classFile.WellFormed)
    (hmemory : memory.Sourced classFile.pool)
    (h : instruction.Faults classFile memory (.lookup (.missing index))) :
    instruction.constant? = some index ∧ classFile.pool.entry? index = none := by
  have hclosed : classFile.pool.Closed := hclass.entries
  cases h with
  | own ofInstruction => exact ofInstruction.elim
  | getStatic misses =>
      obtain ⟨rfl, hnone⟩ := Pool.missesAt_fieldRef index misses
      exact ⟨rfl, hnone⟩
  | loadConstant misses =>
      obtain ⟨rfl, hnone⟩ := hclosed.string index misses
      exact ⟨rfl, hnone⟩
  | invokeVirtual misses =>
      obtain ⟨rfl, hnone⟩ := hclosed.method index misses
      exact ⟨rfl, hnone⟩
  | invokeStatic misses =>
      obtain ⟨rfl, hnone⟩ := hclosed.method index misses
      exact ⟨rfl, hnone⟩
  | receiver pops takes misses =>
      have hbelow := (hmemory.took_one (Memory.took_of_pop pops)).2
      obtain ⟨ref, href⟩ := hbelow.popField takes
      obtain ⟨-, hnone⟩ := hclosed.field index misses
      rw [Pool.fieldRef_eq_ok_iff.1 href] at hnone
      cases hnone
  | className misses =>
      obtain ⟨text, hname⟩ := hclass.name_eq_ok
      rw [hname] at misses
      cases misses

end Instruction

/-- An instruction of one of the methods names the constant. -/
def ClassFile.Names (classFile : ClassFile) (index : Pool.Index) : Prop :=
  ∃ method ∈ classFile.methods, ∃ located, (Code.scan method.code).outcome = .ok located ∧
    ∃ place ∈ located, place.instruction.constant? = some index

/-- What the instruction of a frame names, it names in the code of a method. -/
theorem Frame.Inside.names {classFile : ClassFile} {frame : Frame} {instruction : Instruction Nat}
    {index : Pool.Index} (hframe : frame.Inside classFile)
    (hfetch : frame.program[frame.pc]? = some instruction)
    (hconstant : instruction.constant? = some index) : classFile.Names index := by
  obtain ⟨method, hmethod, hdecode⟩ := hframe.program
  obtain ⟨located, hscan, hresolve⟩ := Code.outcome_decode_eq_ok_iff.1 hdecode
  rw [← Array.getElem?_toList] at hfetch
  obtain ⟨place, hplace, hretarget⟩ := Code.getElem_of_resolve hresolve hfetch
  refine ⟨method, hmethod, located, hscan, place, List.mem_of_getElem? hplace, ?_⟩
  rw [← Instruction.constant?_of_retarget hretarget, hconstant]

/-! ## Runs -/

/-- A run of a class whose constants fit misses no entry but one that an instruction names. -/
theorem Machine.names_of_run {machine : Machine} {session after : Session} {name : String}
    {fuel : Nat} {index : Pool.Index} (hclass : machine.classFile.WellFormed)
    (hsession : session.Consistent machine.classFile)
    (hrun : machine.run fuel name session = some (.error (.lookup (.missing index)), after)) :
    machine.classFile.Names index ∧ machine.classFile.pool.entry? index = none := by
  have hlines := Session.LinesSince.refl machine.classFile.pool session
  have hfails := fails_of_run hrun
  cases hfails with
  | refused ofCall => exact ofCall.elim
  | faulted visits fetched faults =>
      have hinside := (machine.maintains_inside.visits hsession visits).1
      have hmemory := ((machine.maintains_sourced session).visits hlines visits).1
      obtain ⟨hconstant, hnone⟩ := faults.missing hclass hmemory
      exact ⟨hinside.names fetched hconstant, hnone⟩

namespace ClassFile

/-- In a class that was read, each lookup misses no entry but the one it is asked for, and the class
and its methods have their names and descriptors. A run on such a class, after any others, misses an
entry only if an instruction names its address and the address is outside of the pool. -/
theorem missing_entries_of_parse {bytes : List UInt8} {classFile : ClassFile}
    (hparse : (parse bytes).outcome = .ok classFile) :
    (∀ index,
      classFile.pool.MissesAt index (classFile.pool.className index) ∧
      classFile.pool.MissesAt index (classFile.pool.string index) ∧
      classFile.pool.MissesAt index (classFile.pool.field index) ∧
      classFile.pool.MissesAt index (classFile.pool.method index) ∧
      classFile.pool.MissesAt index
        (classFile.pool.nameAndType index >>= fun parts => classFile.pool.utf8 parts.1) ∧
      classFile.pool.MissesAt index
        (classFile.pool.nameAndType index >>= fun parts => classFile.pool.utf8 parts.2)) ∧
    (∃ text, classFile.name = .ok text) ∧
    (∀ method ∈ classFile.methods,
      (∃ text, classFile.methodName method = .ok text) ∧
      ∃ text, classFile.methodDescriptor method = .ok text) ∧
    ∀ limits segment sink threshold calls session,
      Machine.Runs ⟨classFile, limits, segment⟩ (.start sink threshold) calls session →
      ∀ fuel name index after,
        Machine.run ⟨classFile, limits, segment⟩ fuel name session =
          some (.error (.lookup (.missing index)), after) →
        classFile.Names index ∧
          (index.number.toNat = 0 ∨ classFile.pool.size < index.number.toNat) := by
  have hwell := wellFormed_of_parse hparse
  have hclosed : classFile.pool.Closed := hwell.entries
  refine ⟨?_, hwell.name_eq_ok, ?_, ?_⟩
  · intro index
    refine ⟨hclosed.className, hclosed.string, hclosed.field, hclosed.method, ?_, ?_⟩
    · exact Pool.missesAt_nameAndType.bind fun parts hparts => (hclosed.parts hparts).1
    · exact Pool.missesAt_nameAndType.bind fun parts hparts => (hclosed.parts hparts).2
  · intro method hmethod
    obtain ⟨name, hname⟩ := (hwell.methods method hmethod).name
    obtain ⟨descriptor, hdescriptor⟩ := (hwell.methods method hmethod).descriptor
    exact ⟨⟨name, Pool.utf8_eq_ok_iff.2 hname⟩, descriptor, Pool.utf8_eq_ok_iff.2 hdescriptor⟩
  · intro limits segment sink threshold calls session hruns fuel name index after hrun
    have hsession := hruns.evolves Session.evolution_consistent (Session.consistent_start _ _)
    obtain ⟨hnames, hnone⟩ := Machine.names_of_run hwell hsession hrun
    exact ⟨hnames, Pool.entry?_eq_none_iff.1 hnone⟩

/-- A class with five constants whose `main` loads the ninth. -/
def ninthOfFive : List UInt8 :=
  [0xCA, 0xFE, 0xBA, 0xBE, 0, 0, 0, 52, 0, 6, 1, 0, 1, 65, 7, 0, 1, 1, 0, 4, 109, 97, 105, 110, 1,
    0, 3, 40, 41, 86, 1, 0, 4, 67, 111, 100, 101, 0, 33, 0, 2, 0, 2, 0, 0, 0, 0, 0, 1, 0, 9, 0, 3, 0,
    4, 0, 1, 0, 5, 0, 0, 0, 15, 0, 1, 0, 1, 0, 0, 0, 3, 0x12, 9, 0xB1, 0, 0, 0, 0, 0, 0]

/-- The class is read, and its run misses the ninth entry. -/
theorem missing_entries_of_ninthOfFive :
    ∃ classFile after, (parse ninthOfFive).outcome = .ok classFile ∧
      Machine.run ⟨classFile, {}, Text.clusters⟩ 9 "main" (.start .unlimited none) =
        some (.error (.lookup (.missing ⟨9⟩)), after) ∧
      classFile.Names ⟨9⟩ ∧ (∃ text, classFile.name = .ok text) := by
  have hread : ((parse ninthOfFive).outcome.toOption.bind fun classFile =>
      (Machine.run ⟨classFile, {}, Text.clusters⟩ 9 "main" (.start .unlimited none)).map Prod.fst) =
        some (.error (.lookup (.missing ⟨9⟩))) := by decide +kernel
  obtain ⟨classFile, hfound, hrun⟩ := Option.bind_eq_some_iff.1 hread
  obtain ⟨⟨_, after⟩, hrun, rfl⟩ := Option.map_eq_some_iff.1 hrun
  have hparse := eq_ok_of_toOption hfound
  obtain ⟨-, hname, -, hmissing⟩ := missing_entries_of_parse hparse
  have hnames := (hmissing {} _ .unlimited none [] _ .nil 9 "main" ⟨9⟩ after hrun).1
  exact ⟨classFile, after, hparse, hrun, hnames, hname⟩

end ClassFile

end ClassVM
