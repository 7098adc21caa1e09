import ClassVM.Proofs.MissingEntries

/-! # Which addresses of a class are checked

While a class file is read, the addresses inside its constants, that of the class and those of the
names and descriptors of its methods are checked against the pool. The addresses of the parent and
of the interfaces are taken as they stand, so a class can be read with any of them. -/

namespace ClassVM

namespace Pool

/-- The addresses inside an entry. -/
def Entry.addresses : Entry → List Index
  | .utf8 _ => []
  | .classRef name => [name]
  | .string text => [text]
  | .fieldRef member | .methodRef member => [member.owner, member.nameAndType]
  | .nameAndType name descriptor => [name, descriptor]

theorem Entry.Fits.addresses {size : Nat} {entry : Entry} (h : entry.Fits size) :
    ∀ address ∈ entry.addresses, address.Within size := by
  cases entry with
  | utf8 text => simp [Entry.addresses]
  | classRef name => simpa [Entry.addresses, Entry.Fits] using h
  | string text => simpa [Entry.addresses, Entry.Fits] using h
  | fieldRef member => simpa [Entry.addresses, Entry.Fits, MemberRef.Within] using h
  | methodRef member => simpa [Entry.addresses, Entry.Fits, MemberRef.Within] using h
  | nameAndType name descriptor => simpa [Entry.addresses, Entry.Fits] using h

/-- An address with an entry is in range. -/
theorem within_of_entry? {pool : Pool} {address : Index} {entry : Entry}
    (h : pool.entry? address = some entry) : address.Within pool.size := by
  by_contra hout
  have hnone : pool.entry? address = none := by
    apply entry?_eq_none_iff.2
    rw [Index.Within] at hout
    omega
  rw [h] at hnone
  cases hnone

end Pool

namespace ClassFile

variable {bytes : List UInt8} {classFile : ClassFile} {extras : Extras}

/-- The addresses inside the constants, that of the class, and those of the names and descriptors of
the methods. -/
def checkedAddresses (classFile : ClassFile) : List Pool.Index :=
  classFile.pool.entries.toList.flatMap Pool.Entry.addresses ++ classFile.thisClass ::
    classFile.methods.flatMap fun method => [method.nameIndex, method.descriptorIndex]

/-- The addresses of the parent and of the interfaces. -/
def uncheckedAddresses (classFile : ClassFile) : List Pool.Index :=
  classFile.superClass :: classFile.interfaces

/-- All addresses that a class carries. -/
def addresses (classFile : ClassFile) : List Pool.Index :=
  classFile.checkedAddresses ++ classFile.uncheckedAddresses

theorem WellFormed.checkedAddresses (h : classFile.WellFormed) :
    ∀ address ∈ classFile.checkedAddresses, address.Within classFile.pool.size := by
  intro address haddress
  rw [ClassFile.checkedAddresses, List.mem_append, List.mem_cons] at haddress
  obtain hentries | rfl | hmethods := haddress
  · obtain ⟨entry, hentry, hinside⟩ := List.mem_flatMap.1 hentries
    exact (h.entries entry (Array.mem_toList_iff.1 hentry)).addresses address hinside
  · obtain ⟨nameIndex, text, hclass, -⟩ := h.name
    exact Pool.within_of_entry? hclass
  · obtain ⟨method, hmethod, hinside⟩ := List.mem_flatMap.1 hmethods
    obtain ⟨name, hname⟩ := (h.methods method hmethod).name
    obtain ⟨descriptor, hdescriptor⟩ := (h.methods method hmethod).descriptor
    rw [List.mem_pair] at hinside
    obtain rfl | rfl := hinside
    · exact Pool.within_of_entry? hname
    · exact Pool.within_of_entry? hdescriptor

/-- Another parent and other interfaces leave a class as well formed as it was. -/
theorem WellFormed.withParents (h : classFile.WellFormed) (superClass : Pool.Index)
    {interfaces : List Pool.Index} (hcount : interfaces.length ≤ 65535) :
    { classFile with superClass, interfaces }.WellFormed :=
  ⟨h.poolSize, h.entries, h.name, hcount, h.methodCount, h.methods⟩

theorem Extras.Fits.withParents (h : extras.Fits classFile) (superClass : Pool.Index)
    (interfaces : List Pool.Index) : extras.Fits { classFile with superClass, interfaces } :=
  ⟨h.methodCount, h.methods, h.attributeCount, h.attributes⟩

/-- The addresses inside the constants of a class that was read, of the class itself and of the
names and descriptors of its methods are in range, and so all addresses are, exactly if those of the
parent and of the interfaces are. These are what the file says: with any others in their place, in
range or not, the file is read as well. -/
theorem addresses_of_parse (h : (parse bytes).outcome = .ok classFile) :
    (∀ address ∈ classFile.checkedAddresses, address.Within classFile.pool.size) ∧
    ((∀ address ∈ classFile.addresses, address.Within classFile.pool.size) ↔
      ∀ address ∈ classFile.uncheckedAddresses, address.Within classFile.pool.size) ∧
    ∃ extras : Extras, bytes = classFile.written extras ∧
      ∀ superClass interfaces, interfaces.length ≤ 65535 →
        (parse ({ classFile with superClass, interfaces }.written extras)).outcome =
          .ok { classFile with superClass, interfaces } := by
  obtain ⟨hwell, extras, hextras, hbytes⟩ := outcome_parse_eq_ok_iff.1 h
  have hchecked := hwell.checkedAddresses
  refine ⟨hchecked, ?_, extras, hbytes, ?_⟩
  · rw [addresses, List.forall_mem_append]
    exact and_iff_right hchecked
  · intro superClass interfaces hcount
    apply outcome_parse_eq_ok_iff.2
    exact ⟨hwell.withParents superClass hcount, extras, hextras.withParents _ _, rfl⟩

/-- A class with two constants whose parent is the ninth, and whose interface is at no address. -/
def ninthParentOfTwo : List UInt8 :=
  [0xCA, 0xFE, 0xBA, 0xBE, 0, 0, 0, 52, 0, 3, 1, 0, 1, 65, 7, 0, 1, 0, 33, 0, 2, 0, 9, 0, 1, 0, 0,
    0, 0, 0, 0, 0, 0]

/-- The class is read, and what was checked of it is in range. -/
theorem addresses_of_ninthParentOfTwo :
    ∃ classFile, (parse ninthParentOfTwo).outcome = .ok classFile ∧
      ∀ address ∈ classFile.checkedAddresses, address.Within classFile.pool.size := by
  have hread : (parse ninthParentOfTwo).outcome.toOption.isSome := by decide +kernel
  obtain ⟨classFile, hfound⟩ := Option.isSome_iff_exists.1 hread
  have hparse := eq_ok_of_toOption hfound
  exact ⟨classFile, hparse, (addresses_of_parse hparse).1⟩

/-- Not all addresses of a class that was read are in range. -/
theorem ninthParent_out_of_range :
    ¬ ∀ bytes classFile, (parse bytes).outcome = .ok classFile →
      ∀ address ∈ classFile.addresses, address.Within classFile.pool.size := by
  intro hall
  have hread : (parse ninthParentOfTwo).outcome =
      .ok ⟨0, 52, ⟨#[.utf8 "A", .classRef ⟨1⟩]⟩, 33, ⟨2⟩, ⟨9⟩, [⟨0⟩], []⟩ := by decide +kernel
  have hwithin := hall _ _ hread ⟨9⟩ (by decide)
  exact absurd hwithin.2 (by decide)

end ClassFile

end ClassVM
