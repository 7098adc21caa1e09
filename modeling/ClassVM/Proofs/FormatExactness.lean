import ClassVM.ClassFile.Format
import ClassVM.Proofs.PoolLookup
import ClassVM.Proofs.Recognition
import ClassVM.Proofs.WrittenForm

/-! # Reading accepts exactly what can be written

Each step of the reader recognizes the written form of what it finds. Together they recognize the
written forms of the well-formed classes: whatever is read was written so, and only the data beside
the class is lost. -/

namespace ClassVM

/-- Bytes are the text that they decode to, encoded. -/
theorem Text.Utf8.decode_eq_ok_iff {bytes : List UInt8} {text : String} :
    decode bytes = .ok text ↔ bytes = encode text := by
  unfold decode encode String.fromUTF8?
  constructor
  · intro h
    split at h
    · next found hfound =>
        split at hfound
        · cases hfound
          cases h
          exact List.toList_data_toByteArray.symm
        · simp at hfound
    · simp at h
  · rintro rfl
    have hround : text.toUTF8.data.toList.toByteArray = text.toByteArray :=
      ByteArray.ext (by simp)
    simp only [hround, dif_pos text.isValidUTF8]
    rfl

namespace MethodAccess

/-- The bits with a meaning and the others make up all bits. -/
theorem defined_or_undefined (bits : UInt16) :
    (ofBits bits).bits ||| bits &&& ~~~defined = bits := by
  apply UInt16.eq_of_toBitVec_eq
  ext i
  simp only [ofBits, UInt16.toBitVec_or, UInt16.toBitVec_and, UInt16.toBitVec_not,
    BitVec.getElem_or, BitVec.getElem_and, BitVec.getElem_not]
  cases bits.toBitVec[i] <;> simp

theorem ofBits_or {bits others : UInt16} (hbits : bits &&& defined = bits)
    (hothers : others &&& defined = 0) : ofBits (bits ||| others) = ⟨bits⟩ := by
  have hsplit : (bits ||| others) &&& defined = bits &&& defined ||| others &&& defined := by
    apply UInt16.eq_of_toBitVec_eq
    ext i
    simp [Bool.and_or_distrib_right]
  rw [ofBits, hsplit, hbits, hothers, UInt16.or_zero]

end MethodAccess

namespace ClassFile

namespace Reader

open Cursor (numeral)
open Pool (Index MemberRef Entry)

theorem exists_uint16 {n : Nat} (h : n < 2 ^ 16) : ∃ number : UInt16, number.toNat = n :=
  ⟨UInt16.ofNat n, UInt16.toNat_ofNat_of_lt' h⟩

theorem exists_uint32 {n : Nat} (h : n < 2 ^ 32) : ∃ number : UInt32, number.toNat = n :=
  ⟨UInt32.ofNat n, UInt32.toNat_ofNat_of_lt' h⟩

/-- A relation that looks only at the right holds throughout if it holds of each item there. -/
theorem forall₂_const_left {α ε : Type} {Fits : ε → Prop} {values : List α} {extras : List ε} :
    List.Forall₂ (fun _ e => Fits e) values extras ↔
      values.length = extras.length ∧ ∀ e ∈ extras, Fits e := by
  induction values generalizing extras with
  | nil => cases extras <;> simp
  | cons first rest ih =>
      cases extras with
      | nil => simp
      | cons e extras =>
          simp only [List.forall₂_cons, ih, List.length_cons, Nat.add_right_cancel_iff,
            List.forall_mem_cons]
          tauto

/-! ## The pool -/

theorem recognizes_index : index.Recognizes fun found block => block = found.written := by
  apply (recognizes_uint16.bind fun number => recognizes_pure (⟨number⟩ : Index)).congr
  intro found block
  simp only [Language.andThen, Language.silent, ↓existsAndEq, true_and, and_true,
    List.append_nil]
  constructor
  · rintro ⟨number, rfl, rfl⟩
    rfl
  · rintro rfl
    exact ⟨found.number, rfl, rfl⟩

theorem recognizes_checkedIndex (declared : UInt16) :
    (checkedIndex declared).Recognizes fun found block =>
      found.Within (declared.toNat - 1) ∧ block = found.written := by
  apply (recognizes_uint16.bind fun number =>
    (recognizes_pure (⟨number⟩ : Index)).unless _ (.invalidIndex number declared)).congr
  intro found block
  have hwithin : ∀ number : UInt16, ¬((number = 0 || declared ≤ number) = true) ↔
      Index.Within (declared.toNat - 1) ⟨number⟩ := by
    intro number
    simp only [Index.Within, Bool.or_eq_true, decide_eq_true_eq, UInt16.le_iff_toNat_le,
      ← UInt16.toNat_inj, UInt16.toNat_zero]
    omega
  simp only [Language.andThen, Language.silent, hwithin, ↓existsAndEq, true_and, and_assoc,
    List.append_nil]
  constructor
  · rintro ⟨number, hnumber, rfl, rfl⟩
    exact ⟨hnumber, rfl⟩
  · rintro ⟨hfound, rfl⟩
    exact ⟨found.number, hfound, rfl, rfl⟩

theorem recognizes_memberRef (declared : UInt16) :
    (memberRef declared).Recognizes fun found block =>
      found.Within (declared.toNat - 1) ∧ block = found.written := by
  apply ((recognizes_checkedIndex declared).bind fun owner =>
    (recognizes_checkedIndex declared).bind fun nameAndType =>
      recognizes_pure (⟨owner, nameAndType⟩ : MemberRef)).congr
  intro found block
  simp only [Language.andThen, Language.silent, exists_and_left, ↓existsAndEq, true_and,
    and_assoc, List.append_nil]
  constructor
  · rintro ⟨owner, howner, nameAndType, hname, rfl, rfl⟩
    exact ⟨⟨howner, hname⟩, rfl⟩
  · rintro ⟨⟨howner, hname⟩, rfl⟩
    exact ⟨found.owner, howner, found.nameAndType, hname, rfl, rfl⟩

theorem recognizes_decoded (position : Nat) (bytes : List UInt8) :
    (decoded position bytes).Recognizes fun text block =>
      bytes = Text.Utf8.encode text ∧ block = [] := by
  simp only [← Text.Utf8.decode_eq_ok_iff]
  unfold decoded
  cases Text.Utf8.decode bytes with
  | error fault => exact (recognizes_fail _).congr (by simp)
  | ok text => exact (recognizes_pure text).congr (by simp [Language.silent, eq_comm])

theorem recognizes_utf8Text (position : Nat) :
    (utf8Text position).Recognizes fun text block =>
      (Text.Utf8.encode text).length ≤ 65535 ∧
        block = numeral 2 (Text.Utf8.encode text).length ++ Text.Utf8.encode text := by
  apply (recognizes_uint16.bind fun length =>
    (recognizes_take length.toNat).bind (recognizes_decoded position)).congr
  intro text block
  simp only [Language.andThen, exists_and_left, ↓existsAndEq, true_and, and_assoc,
    List.append_nil]
  constructor
  · rintro ⟨length, hlength, rfl⟩
    exact ⟨Nat.le_of_lt_succ (hlength ▸ length.toNat_lt), by rw [hlength]⟩
  · rintro ⟨hlength, rfl⟩
    obtain ⟨length, hnat⟩ := exists_uint16 (Nat.lt_succ_of_le hlength)
    exact ⟨length, hnat.symm, by rw [hnat]⟩

/-- The contents after a tag, where the tag is that of the entry. -/
theorem recognizes_contents (declared : UInt16) (position : Nat) (tag : UInt8) :
    (contents declared position tag).Recognizes fun found block =>
      found.Fits (declared.toNat - 1) ∧ found.written = tag :: block := by
  have hindex := recognizes_checkedIndex declared
  have hmember := recognizes_memberRef declared
  unfold contents
  split
  · apply ((recognizes_utf8Text position).map Entry.utf8).congr
    intro found block
    cases found <;> simp [Language.map, Entry.Fits, Entry.written, eq_comm]
  · apply (hindex.map Entry.classRef).congr
    intro found block
    cases found <;> simp [Language.map, Entry.Fits, Entry.written, eq_comm]
  · apply (hindex.map Entry.string).congr
    intro found block
    cases found <;> simp [Language.map, Entry.Fits, Entry.written, eq_comm]
  · apply (hmember.map Entry.fieldRef).congr
    intro found block
    cases found <;> simp [Language.map, Entry.Fits, Entry.written, eq_comm]
  · apply (hmember.map Entry.methodRef).congr
    intro found block
    cases found <;> simp [Language.map, Entry.Fits, Entry.written, eq_comm]
  · apply (hindex.bind fun name => hindex.bind fun descriptor =>
      recognizes_pure (Entry.nameAndType name descriptor)).congr
    intro found block
    cases found <;>
      simp [Language.andThen, Language.silent, Entry.Fits, Entry.written, and_assoc, eq_comm]
  · next h1 h7 h8 h9 h10 h12 =>
      apply (recognizes_fail _).congr
      intro found block
      cases found <;> simp_all [Entry.written, eq_comm]

theorem recognizes_entry (declared : UInt16) (position : Nat) :
    (entry declared position).Recognizes fun found block =>
      found.Fits (declared.toNat - 1) ∧ block = found.written := by
  apply (recognizes_byte.bind (recognizes_contents declared position)).congr
  intro found block
  constructor
  · rintro ⟨tag, _, back, rfl, ⟨hfits, hback⟩, rfl⟩
    exact ⟨hfits, hback.symm⟩
  · rintro ⟨hfits, rfl⟩
    cases hwritten : found.written with
    | nil => cases found <;> simp [Entry.written] at hwritten
    | cons tag back => exact ⟨tag, [tag], back, rfl, ⟨hfits, hwritten⟩, rfl⟩

theorem recognizes_entries (declared : UInt16) (count position : Nat) :
    (entries declared count position).Recognizes fun found block =>
      found.length = count ∧ (∀ item ∈ found, item.Fits (declared.toNat - 1)) ∧
        block = found.flatMap Entry.written := by
  induction count generalizing position with
  | zero =>
      apply (recognizes_pure []).congr
      intro found block
      simp only [Language.silent, List.length_eq_zero_iff]
      constructor
      · rintro ⟨rfl, rfl⟩
        simp
      · rintro ⟨rfl, -, rfl⟩
        simp
  | succ count ih =>
      apply ((recognizes_entry declared position).bind fun first =>
        (recognizes_emit (.constant position first)).bind fun _ =>
          (ih (position + 1)).map (first :: ·)).congr
      intro found block
      simp only [Language.andThen, Language.map, Language.silent, exists_and_left, exists_const,
        ↓existsAndEq, true_and, and_assoc, List.nil_append]
      constructor
      · rintro ⟨first, hfirst, rest, hlength, hrest, rfl, rfl⟩
        exact ⟨congrArg (· + 1) hlength, List.forall_mem_cons.2 ⟨hfirst, hrest⟩, rfl⟩
      · rintro ⟨hlength, hfits, rfl⟩
        cases found with
        | nil => simp at hlength
        | cons first rest =>
            obtain ⟨hfirst, hrest⟩ := List.forall_mem_cons.1 hfits
            exact ⟨first, hfirst, rest, Nat.succ.inj hlength, hrest, rfl, rfl⟩

theorem recognizes_pool :
    pool.Recognizes fun found block =>
      found.size ≤ 65534 ∧ (∀ item ∈ found.entries, item.Fits found.size) ∧
        block = writtenPool found := by
  apply (recognizes_uint16.bind fun declared =>
    ((recognizes_emit (.poolSize (declared.toNat - 1))).bind fun _ =>
      (recognizes_entries declared (declared.toNat - 1) 1).map
        fun found => (⟨found.toArray⟩ : Pool)).unless _ (.invalidPoolCount declared)).congr
  intro found block
  simp only [Language.andThen, Language.map, Language.silent, exists_and_left, exists_const,
    ↓existsAndEq, true_and, and_assoc, List.nil_append]
  constructor
  · rintro ⟨declared, hdeclared, items, hlength, hfits, rfl, rfl⟩
    have hlt := declared.toNat_lt
    have hpos : declared.toNat ≠ 0 := fun hzero => hdeclared (UInt16.toNat_inj.1 hzero)
    have hsize : items.length + 1 = declared.toNat := by omega
    refine ⟨?_, ?_, ?_⟩
    · simp only [Pool.size, List.size_toArray]
      omega
    · simpa [Pool.size, hlength] using hfits
    · simp [writtenPool, Pool.size, hsize]
  · rintro ⟨hsize, hfits, rfl⟩
    obtain ⟨declared, hnat⟩ := exists_uint16 (by omega : found.size + 1 < 2 ^ 16)
    refine ⟨declared, ?_, found.entries.toList, ?_, ?_, rfl, ?_⟩
    · rintro rfl
      simp at hnat
    · simp [hnat, Pool.size]
    · simpa [hnat] using hfits
    · rw [writtenPool, hnat]

/-! ## Attributes and methods -/

theorem recognizes_textAt (constants : Pool) (address : Index) :
    (lookup (constants.utf8 address)).Recognizes fun text block =>
      constants.TextAt address text ∧ block = [] :=
  (recognizes_lookup _).congr (by simp [Pool.utf8_eq_ok_iff, Pool.TextAt])

theorem recognizes_skipAttribute (constants : Pool) :
    (skipAttribute constants).Recognizes fun _ block =>
      ∃ item : Attribute, item.Fits constants ∧ block = item.written := by
  apply (recognizes_index.bind fun address =>
    (recognizes_textAt constants address).bind fun name =>
      recognizes_uint32.bind fun length =>
        (recognizes_emit (.skippedAttribute name)).bind fun _ =>
          recognizes_skip length.toNat).congr
  intro found block
  simp only [Language.andThen, Language.silent, exists_and_left, exists_const, ↓existsAndEq,
    true_and, and_assoc, List.nil_append]
  constructor
  · rintro ⟨address, name, hname, length, payload, hlength, rfl⟩
    exact ⟨⟨address, payload⟩, ⟨⟨name, hname⟩, hlength ▸ length.toNat_lt⟩,
      by simp [Attribute.written, hlength]⟩
  · rintro ⟨⟨address, payload⟩, ⟨⟨name, hname⟩, hlt⟩, rfl⟩
    obtain ⟨length, hnat⟩ := exists_uint32 hlt
    exact ⟨address, name, hname, length, payload, hnat.symm, by simp [Attribute.written, hnat]⟩

theorem recognizes_skipAttributes (constants : Pool) :
    (skipAttributes constants).Recognizes fun _ block =>
      ∃ items : List Attribute, items.length < 2 ^ 16 ∧
        (∀ item ∈ items, item.Fits constants) ∧ block = writtenList Attribute.written items := by
  apply (recognizes_uint16.bind fun count =>
    ((recognizes_skipAttribute constants).times count.toNat).map fun _ => ()).congr
  intro found block
  simp only [Language.andThen, Language.map]
  constructor
  · rintro ⟨count, _, back, rfl, ⟨values, hvalues, -⟩, rfl⟩
    obtain ⟨items, hlength, hfits, rfl⟩ :=
      (Language.exists_repeated_iff fun _ _ => Iff.rfl).1 ⟨values, hvalues⟩
    exact ⟨items, hlength ▸ count.toNat_lt, hfits, by rw [writtenList, hlength]⟩
  · rintro ⟨items, hlt, hfits, rfl⟩
    obtain ⟨count, hnat⟩ := exists_uint16 hlt
    obtain ⟨values, hvalues⟩ :=
      (Language.exists_repeated_iff fun _ _ => Iff.rfl).2 ⟨items, hnat.symm, hfits, rfl⟩
    exact ⟨count, _, _, rfl, ⟨values, hvalues, trivial⟩, by rw [writtenList, hnat]⟩

theorem recognizes_codeBody (constants : Pool) :
    (codeBody constants).Recognizes fun found block =>
      (found.maxStack < 2 ^ 16 ∧ found.maxLocals < 2 ^ 16 ∧ found.code.length < 2 ^ 32) ∧
        ∃ extras : CodeExtras, extras.Fits constants ∧
          block = writtenCode found.maxStack found.maxLocals found.code extras := by
  apply (recognizes_uint32.bind fun declaredLength => recognizes_uint16.bind fun maxStack =>
    recognizes_uint16.bind fun maxLocals => recognizes_uint32.bind fun length =>
    (recognizes_take length.toNat).bind fun code =>
    (recognizes_emit (.code code.length maxStack.toNat maxLocals.toNat)).bind fun _ =>
    recognizes_uint16.bind fun rows => (recognizes_skip (rows.toNat * 8)).bind fun _ =>
    (recognizes_skipAttributes constants).bind fun _ =>
    recognizes_pure (⟨maxStack.toNat, maxLocals.toNat, code⟩ : CodeBody)).congr
  intro found block
  simp only [Language.andThen, Language.silent, exists_and_left, exists_const, ↓existsAndEq,
    true_and, and_assoc, List.nil_append, List.append_nil]
  constructor
  · rintro ⟨declaredLength, maxStack, maxLocals, length, code, hlength, rows, handlers, hrows, items,
      hcount, hitems, rfl, rfl⟩
    have hdiv : handlers.length / 8 = rows.toNat := by omega
    refine ⟨maxStack.toNat_lt, maxLocals.toNat_lt, hlength ▸ length.toNat_lt,
      ⟨declaredLength, handlers, items⟩,
      ⟨⟨rows.toNat, rows.toNat_lt, hrows⟩, hcount, hitems⟩, ?_⟩
    simp [writtenCode, hlength, hdiv]
  · obtain ⟨maxStack, maxLocals, code⟩ := found
    rintro ⟨hstack, hlocals, hcode, ⟨declaredLength, handlers, items⟩,
      ⟨⟨rows, hrows, hhandlers⟩, hcount, hitems⟩, rfl⟩
    obtain ⟨maxStack, rfl⟩ := exists_uint16 hstack
    obtain ⟨maxLocals, rfl⟩ := exists_uint16 hlocals
    obtain ⟨length, hlength⟩ := exists_uint32 hcode
    obtain ⟨rows, rfl⟩ := exists_uint16 hrows
    have hdiv : handlers.length / 8 = rows.toNat := by
      change handlers.length = rows.toNat * 8 at hhandlers
      omega
    refine ⟨declaredLength, maxStack, maxLocals, length, code, hlength.symm, rows, handlers,
      hhandlers, items, hcount, hitems, rfl, ?_⟩
    simp [writtenCode, hlength, hdiv]

/-- A method is read from its written form beside any data that fits. -/
theorem recognizes_method (constants : Pool) :
    (method constants).Recognizes fun found block =>
      ∃ extras : MethodExtras, (FitsMethod constants found ∧ extras.Fits constants) ∧
        block = writtenMethod found extras := by
  apply (recognizes_uint16.bind fun bits => recognizes_index.bind fun nameIndex =>
    (recognizes_textAt constants nameIndex).bind fun name =>
    recognizes_index.bind fun descriptorIndex =>
    (recognizes_textAt constants descriptorIndex).bind fun descriptor =>
    (recognizes_emit (.method name descriptor (MethodAccess.ofBits bits))).bind fun _ =>
    recognizes_uint16.bind fun count =>
    (recognizes_index.bind fun codeIndex =>
      (recognizes_textAt constants codeIndex).bind fun word =>
      ((recognizes_codeBody constants).bind fun body =>
        recognizes_pure (⟨MethodAccess.ofBits bits, nameIndex, descriptorIndex, body.maxStack,
          body.maxLocals, body.code⟩ : Method)).unless _ (.missingCode name word)).unless _
        (.attributeCount name count)).congr
  intro found block
  simp only [Language.andThen, Language.silent, exists_and_left, exists_const, ↓existsAndEq,
    true_and, and_assoc, not_not, List.nil_append, List.append_nil]
  constructor
  · rintro ⟨bits, nameIndex, name, hname, descriptorIndex, descriptor, hdescriptor, codeIndex,
      hcode, body, hstack, hlocals, hlength, extras, hextras, rfl, rfl⟩
    refine ⟨⟨?_, ⟨name, hname⟩, ⟨descriptor, hdescriptor⟩, hstack, hlocals, hlength⟩,
      ⟨bits &&& ~~~MethodAccess.defined, codeIndex, extras⟩, ⟨?_, hcode, hextras⟩, ?_⟩
    · simp only [MethodAccess.ofBits, UInt16.and_assoc, UInt16.and_self]
    · simp only [UInt16.and_assoc, UInt16.not_and_self, UInt16.and_zero]
    · simp [writtenMethod, MethodAccess.defined_or_undefined]
  · rintro ⟨⟨haccess, ⟨name, hname⟩, ⟨descriptor, hdescriptor⟩, hstack, hlocals, hlength⟩,
      ⟨accessBits, codeIndex, extras⟩, ⟨hbits, hcode, hextras⟩, rfl⟩
    refine ⟨found.access.bits ||| accessBits, found.nameIndex, name, hname,
      found.descriptorIndex, descriptor, hdescriptor, codeIndex, hcode,
      ⟨found.maxStack, found.maxLocals, found.code⟩, hstack, hlocals, hlength, extras, hextras,
      ?_, ?_⟩
    · rw [MethodAccess.ofBits_or haccess hbits]
    · simp [writtenMethod]

theorem recognizes_methods (constants : Pool) (count : Nat) :
    (times (method constants) count).Recognizes fun found block =>
      found.length = count ∧ (∀ item ∈ found, FitsMethod constants item) ∧
        ∃ extras : List MethodExtras, found.length = extras.length ∧
          (∀ item ∈ extras, item.Fits constants) ∧
          block = (List.zipWith writtenMethod found extras).flatten := by
  apply ((recognizes_method constants).times count).congr
  intro found block
  rw [Language.repeated_iff_zipWith fun _ _ => Iff.rfl]
  simp only [List.forall₂_and_left, forall₂_const_left, and_assoc, exists_and_left]

/-! ## Class files -/

theorem recognizes_indices (count : Nat) :
    (times index count).Recognizes fun found block =>
      found.length = count ∧ block = found.flatMap Index.written := by
  apply (recognizes_index.times count).congr
  intro found block
  rw [Language.repeated_iff_flatMap (by simp : ∀ (a : Index) (block : List UInt8),
    block = a.written ↔ True ∧ block = a.written)]
  simp

theorem recognizes_className (constants : Pool) (address : Index) :
    (lookup (constants.className address)).Recognizes fun text block =>
      (∃ name, constants.entry? address = some (.classRef name) ∧ constants.TextAt name text) ∧
        block = [] :=
  (recognizes_lookup _).congr (by simp [Pool.className_eq_ok_iff, Pool.TextAt])

theorem recognizes_file : file.Recognizes WrittenAs := by
  apply (recognizes_uint32.bind fun number =>
    (recognizes_uint16.bind fun minorVersion => recognizes_uint16.bind fun majorVersion =>
      (recognizes_emit (.versions majorVersion minorVersion)).bind fun _ =>
      recognizes_pool.bind fun constants => recognizes_uint16.bind fun access =>
      (recognizes_emit (.classAccess access)).bind fun _ =>
      recognizes_index.bind fun thisClass =>
      (recognizes_className constants thisClass).bind fun name =>
      (recognizes_emit (.className name)).bind fun _ =>
      recognizes_index.bind fun superClass => recognizes_uint16.bind fun interfaceCount =>
      (recognizes_indices interfaceCount.toNat).bind fun interfaces =>
      (recognizes_emit (.interfaces interfaceCount.toNat)).bind fun _ =>
      recognizes_uint16.bind fun fieldCount =>
      (recognizes_uint16.bind fun methodCount =>
        (recognizes_methods constants methodCount.toNat).bind fun methods =>
        (recognizes_skipAttributes constants).bind fun _ =>
        recognizes_pure
          ({ minorVersion, majorVersion, pool := constants, access, thisClass, superClass,
             interfaces, methods } : ClassFile)).unless _
        (.unsupportedFields fieldCount)).unless _ (.missingMagic number)).congr
  intro found block
  simp only [WrittenAs, Language.andThen, Language.silent, exists_and_left, exists_const,
    ↓existsAndEq, true_and, and_assoc, not_not, List.nil_append, List.append_nil]
  constructor
  · rintro ⟨minorVersion, majorVersion, constants, hsize, hentries, access, thisClass, name,
      ⟨nameIndex, hclass, hname⟩, superClass, interfaceCount, interfaces, hinterfaces, methodCount,
      methods, hmethods, hfits, extras, hextras, hfits', items, hitems, hfits'', rfl, rfl⟩
    refine ⟨⟨hsize, hentries, ⟨nameIndex, name, hclass, hname⟩,
      Nat.le_of_lt_succ (hinterfaces ▸ interfaceCount.toNat_lt),
      Nat.le_of_lt_succ (hmethods ▸ methodCount.toNat_lt), hfits⟩, ⟨extras, items⟩,
      ⟨hextras.symm, hfits', hitems, hfits''⟩, ?_⟩
    simp [written, writtenList, hinterfaces, hmethods, magic]
  · rintro ⟨⟨hsize, hentries, ⟨nameIndex, name, hclass, hname⟩, hinterfaces, hmethods, hfits⟩,
      ⟨extras, items⟩, ⟨hextras, hfits', hitems, hfits''⟩, rfl⟩
    obtain ⟨interfaceCount, hinterfaceCount⟩ := exists_uint16 (Nat.lt_succ_of_le hinterfaces)
    obtain ⟨methodCount, hmethodCount⟩ := exists_uint16 (Nat.lt_succ_of_le hmethods)
    refine ⟨found.minorVersion, found.majorVersion, found.pool, hsize, hentries, found.access,
      found.thisClass, name, ⟨nameIndex, hclass, hname⟩, found.superClass, interfaceCount,
      found.interfaces, hinterfaceCount.symm, methodCount, found.methods, hmethodCount.symm, hfits,
      extras, hextras.symm, hfits', items, hitems, hfits'', rfl, ?_⟩
    simp [written, writtenList, hinterfaceCount, hmethodCount, magic]

end Reader

variable {bytes : List UInt8} {classFile : ClassFile}

/-- All that reading a buffer can come to: a class file with nothing behind it, a class file with
bytes left over, or an error on the way. -/
inductive Parses (bytes : List UInt8) : Except ReadError ClassFile → Prop
  | whole {classFile : ClassFile} {after : Cursor}
      (reads : (Reader.file (.ofBytes bytes)).outcome = .ok (classFile, after))
      (used : after.rest = []) : Parses bytes (.ok classFile)
  | leftOver {classFile : ClassFile} {after : Cursor}
      (reads : (Reader.file (.ofBytes bytes)).outcome = .ok (classFile, after))
      (left : after.rest ≠ []) : Parses bytes (.error (.trailingBytes after.remaining))
  | failed {e : ReadError} (fails : (Reader.file (.ofBytes bytes)).outcome = .error e) :
      Parses bytes (.error e)

theorem parses_iff {outcome : Except ReadError ClassFile} :
    (parse bytes).outcome = outcome ↔ Parses bytes outcome := by
  unfold parse
  rw [Log.Traced.outcome_bind]
  constructor
  · rintro rfl
    cases hfile : (Reader.file (.ofBytes bytes)).outcome with
    | error e => exact .failed hfile
    | ok found =>
        simp only [bind, Except.bind, Cursor.atEnd, List.isEmpty_iff]
        split
        · next hused => exact .whole hfile hused
        · next hleft => exact .leftOver hfile hleft
  · intro h
    cases h with
    | whole reads used => simp [reads, bind, Except.bind, Cursor.atEnd, used]
    | leftOver reads left => simp [reads, bind, Except.bind, Cursor.atEnd, left]
    | failed fails => simp [fails, bind, Except.bind]

/-- A buffer is read as a class exactly if it is a written form of the class. -/
theorem outcome_parse_eq_ok_iff :
    (parse bytes).outcome = .ok classFile ↔ classFile.WrittenAs bytes := by
  rw [parses_iff]
  constructor
  · intro h
    cases h with
    | whole reads used =>
        obtain ⟨block, hblock, hrest, -⟩ := (Reader.recognizes_file _ _ _).1 reads
        obtain rfl : bytes = block := by rwa [used, List.append_nil] at hrest
        exact hblock
  · intro h
    have hpass : (Cursor.ofBytes bytes).Passes bytes ⟨bytes.length, []⟩ :=
      ⟨(List.append_nil _).symm, (Nat.zero_add _).symm⟩
    exact .whole ((Reader.recognizes_file _ _ _).2 ⟨bytes, h, hpass⟩) rfl

/-- A class is read exactly from its written forms: every well-formed class is read back from each
of them, and whatever is accepted is a written form of the class that is found, so that only the
data beside the class is lost. -/
theorem parse_eq_ok_iff_written {bytes : List UInt8} {classFile : ClassFile} :
    (parse bytes).outcome = .ok classFile ↔
      classFile.WellFormed ∧
        ∃ extras : Extras, extras.Fits classFile ∧ bytes = classFile.written extras :=
  outcome_parse_eq_ok_iff

end ClassFile

end ClassVM
