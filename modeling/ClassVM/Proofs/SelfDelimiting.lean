import ClassVM.Proofs.FormatExactness

/-! # Class files end where they say

No step of the reader looks beyond the bytes that it reads, and none asks how many there are. So
bytes behind a class file change nothing but that they are left over, a class file that breaks off
is found to break off, and an error inside the bytes stays the same whatever follows them. -/

namespace ClassVM

namespace Cursor

/-- A block that is cut off is missed at its own start. -/
theorem take_eq_error {count : Nat} {cursor after : Cursor} {e : EndOfInput}
    (h : cursor.take count = (.error e, after)) : e = ⟨cursor.offset⟩ := by
  simp only [take] at h
  split at h
  · cases h
  · cases h
    rfl

end Cursor

namespace ClassFile

/-- The error lies in the bytes that were read: they had not run out, and none were left over. -/
def ReadError.InBytes : ReadError → Prop
  | .endOfInput _ | .trailingBytes _ => False
  | _ => True

namespace Reader

variable {α β : Type}

/-! ## Steps -/

/-- What becomes of an outcome once more bytes follow those that end at `last`: what was found is
found again, an error in the bytes is met again, and where the bytes ran out nothing is known. -/
inductive Continues (last : Nat) (more : List UInt8) :
    Except ReadError (α × Cursor) → Except ReadError (α × Cursor) → Prop
  | found {a : α} {after : Cursor} (within : after.endOffset = last) :
      Continues last more (.ok (a, after)) (.ok (a, after.extended more))
  | refused {e : ReadError} (inBytes : e.InBytes) : Continues last more (.error e) (.error e)
  | ranOut {place : Nat} {outcome : Except ReadError (α × Cursor)} (within : place ≤ last) :
      Continues last more (.error (.endOfInput ⟨place⟩)) outcome

/-- More bytes ahead of the cursor continue whatever the reader does. -/
def Incremental (reader : Reader α) : Prop :=
  ∀ cursor more, Continues cursor.endOffset more (reader cursor).outcome
    (reader (cursor.extended more)).outcome

theorem incremental_pure (a : α) : Incremental (pure a) := by
  intro cursor more
  exact .found rfl

theorem incremental_fail {e : ReadError} (h : e.InBytes) : Incremental (fail e : Reader α) := by
  intro cursor more
  exact .refused h

theorem incremental_emit (event : ReadEvent) : Incremental (emit event) := by
  intro cursor more
  exact .found rfl

theorem Incremental.map {reader : Reader α} (h : reader.Incremental) (f : α → β) :
    (f <$> reader).Incremental := by
  intro cursor more
  have hreader := h cursor more
  change Continues _ _ ((reader cursor).outcome.map fun found => (f found.1, found.2))
    ((reader (cursor.extended more)).outcome.map fun found => (f found.1, found.2))
  generalize (reader cursor).outcome = outcome at hreader
  generalize (reader (cursor.extended more)).outcome = outcome' at hreader
  cases hreader with
  | found within => exact .found within
  | refused inBytes => exact .refused inBytes
  | ranOut within => exact .ranOut within

theorem outcome_bind (reader : Reader α) (next : α → Reader β) (cursor : Cursor) :
    ((reader >>= next) cursor).outcome =
      (reader cursor).outcome >>= fun found => (next found.1 found.2).outcome :=
  Log.Traced.outcome_bind (reader cursor) fun found => next found.1 found.2

theorem Incremental.bind {reader : Reader α} {next : α → Reader β} (h : reader.Incremental)
    (hnext : ∀ a, (next a).Incremental) : (reader >>= next).Incremental := by
  intro cursor more
  have hreader := h cursor more
  rw [outcome_bind, outcome_bind]
  generalize (reader cursor).outcome = outcome at hreader
  generalize (reader (cursor.extended more)).outcome = outcome' at hreader
  cases hreader with
  | @found a after within =>
      have hrest := hnext a after more
      rw [within] at hrest
      exact hrest
  | refused inBytes => exact .refused inBytes
  | ranOut within => exact .ranOut within

theorem incremental_lookup (result : Except Pool.LookupError α) :
    (lookup result).Incremental := by
  cases result with
  | error e => exact incremental_fail trivial
  | ok a => exact incremental_pure a

theorem Incremental.unless {reader : Reader α} (h : reader.Incremental) (c : Prop) [Decidable c]
    {e : ReadError} (he : e.InBytes) : Incremental (if c then fail e else reader) := by
  split
  · exact incremental_fail he
  · exact h

theorem Incremental.times {reader : Reader α} (h : reader.Incremental) (count : Nat) :
    (times reader count).Incremental := by
  induction count with
  | zero => exact incremental_pure []
  | succ count ih => exact h.bind fun first => ih.map (first :: ·)

/-- A read that recognizes its blocks finds them again before more bytes, so it is enough that it
runs out inside the buffer. -/
theorem incremental_read {f : Cursor → Cursor.Result α} {language : Language α}
    (h : (read f).Recognizes language)
    (hends : ∀ {cursor e after}, f cursor = (.error e, after) → e.offset ≤ cursor.endOffset) :
    (read f).Incremental := by
  intro cursor more
  cases hread : (read f cursor).outcome with
  | ok found =>
      obtain ⟨a, after⟩ := found
      obtain ⟨block, hblock, hpass⟩ := (h _ _ _).1 hread
      rw [(h _ _ _).2 ⟨block, hblock, hpass.extended more⟩]
      exact .found hpass.endOffset_eq
  | error e =>
      unfold read at hread
      split at hread
      · cases hread
      · next missed after hmissed =>
          cases hread
          exact .ranOut (hends hmissed)

theorem incremental_byte : (read Cursor.byte).Incremental := by
  apply incremental_read recognizes_byte
  intro cursor e after hmissed
  exact Nat.le_of_eq (congrArg EndOfInput.offset (Cursor.byte_eq_error hmissed))

theorem incremental_uint16 : (read Cursor.uint16).Incremental := by
  apply incremental_read recognizes_uint16
  intro cursor e after hmissed
  have hend := Cursor.bigEndian_eq_error (Cursor.mapResult_eq_error hmissed)
  exact Nat.le_of_eq (congrArg EndOfInput.offset hend)

theorem incremental_uint32 : (read Cursor.uint32).Incremental := by
  apply incremental_read recognizes_uint32
  intro cursor e after hmissed
  have hend := Cursor.bigEndian_eq_error (Cursor.mapResult_eq_error hmissed)
  exact Nat.le_of_eq (congrArg EndOfInput.offset hend)

theorem incremental_take (count : Nat) : (read (Cursor.take count)).Incremental := by
  apply incremental_read (recognizes_take count)
  intro cursor e after hmissed
  rw [Cursor.take_eq_error hmissed]
  exact Nat.le_add_right _ _

theorem incremental_skip (count : Nat) : (read (Cursor.skip count)).Incremental := by
  apply incremental_read (recognizes_skip count)
  intro cursor e after hmissed
  rw [Cursor.take_eq_error (Cursor.mapResult_eq_error hmissed)]
  exact Nat.le_add_right _ _

/-! ## The format -/

theorem incremental_index : index.Incremental :=
  incremental_uint16.bind fun number => incremental_pure (⟨number⟩ : Pool.Index)

theorem incremental_checkedIndex (declared : UInt16) : (checkedIndex declared).Incremental :=
  incremental_uint16.bind fun number => (incremental_pure (⟨number⟩ : Pool.Index)).unless _ trivial

theorem incremental_memberRef (declared : UInt16) : (memberRef declared).Incremental :=
  (incremental_checkedIndex declared).bind fun owner =>
    (incremental_checkedIndex declared).bind fun nameAndType =>
      incremental_pure (⟨owner, nameAndType⟩ : Pool.MemberRef)

theorem incremental_decoded (position : Nat) (bytes : List UInt8) :
    (decoded position bytes).Incremental := by
  unfold decoded
  split
  · exact incremental_pure _
  · exact incremental_fail trivial

theorem incremental_utf8Text (position : Nat) : (utf8Text position).Incremental :=
  incremental_uint16.bind fun length =>
    (incremental_take length.toNat).bind (incremental_decoded position)

theorem incremental_contents (declared : UInt16) (position : Nat) (tag : UInt8) :
    (contents declared position tag).Incremental := by
  have hindex := incremental_checkedIndex declared
  have hmember := incremental_memberRef declared
  unfold contents
  split
  · exact (incremental_utf8Text position).map _
  · exact hindex.map _
  · exact hindex.map _
  · exact hmember.map _
  · exact hmember.map _
  · exact hindex.bind fun name => hindex.bind fun descriptor => incremental_pure _
  · exact incremental_fail trivial

theorem incremental_entries (declared : UInt16) (count position : Nat) :
    (entries declared count position).Incremental := by
  induction count generalizing position with
  | zero => exact incremental_pure []
  | succ count ih =>
      have hentry : (entry declared position).Incremental :=
        incremental_byte.bind (incremental_contents declared position)
      exact hentry.bind fun first => (incremental_emit (.constant position first)).bind fun _ =>
        (ih (position + 1)).map (first :: ·)

theorem incremental_pool : pool.Incremental := by
  refine incremental_uint16.bind fun declared => Incremental.unless ?_ _ trivial
  exact (incremental_emit _).bind fun _ =>
    (incremental_entries declared (declared.toNat - 1) 1).map _

theorem incremental_skipAttributes (constants : Pool) : (skipAttributes constants).Incremental := by
  have hone : (skipAttribute constants).Incremental :=
    incremental_index.bind fun address =>
      (incremental_lookup (constants.utf8 address)).bind fun name =>
      incremental_uint32.bind fun length =>
      (incremental_emit (.skippedAttribute name)).bind fun _ => incremental_skip length.toNat
  exact incremental_uint16.bind fun count => (hone.times count.toNat).map _

theorem incremental_codeBody (constants : Pool) : (codeBody constants).Incremental :=
  incremental_uint32.bind fun _ => incremental_uint16.bind fun maxStack =>
    incremental_uint16.bind fun maxLocals => incremental_uint32.bind fun length =>
    (incremental_take length.toNat).bind fun code => (incremental_emit _).bind fun _ =>
    incremental_uint16.bind fun handlers =>
    (incremental_skip (handlers.toNat * 8)).bind fun _ =>
    (incremental_skipAttributes constants).bind fun _ =>
    incremental_pure (⟨maxStack.toNat, maxLocals.toNat, code⟩ : CodeBody)

theorem incremental_method (constants : Pool) : (method constants).Incremental := by
  refine incremental_uint16.bind fun bits => incremental_index.bind fun nameIndex =>
    (incremental_lookup _).bind fun name => incremental_index.bind fun descriptorIndex =>
    (incremental_lookup _).bind fun descriptor => (incremental_emit _).bind fun _ =>
    incremental_uint16.bind fun count => Incremental.unless ?_ _ trivial
  refine incremental_index.bind fun codeIndex => (incremental_lookup _).bind fun found =>
    Incremental.unless ?_ _ trivial
  exact (incremental_codeBody constants).bind fun body => incremental_pure _

theorem incremental_file : file.Incremental := by
  refine incremental_uint32.bind fun found => Incremental.unless ?_ _ trivial
  refine incremental_uint16.bind fun minorVersion => incremental_uint16.bind fun majorVersion =>
    (incremental_emit _).bind fun _ => incremental_pool.bind fun constants =>
    incremental_uint16.bind fun access => (incremental_emit _).bind fun _ =>
    incremental_index.bind fun thisClass => (incremental_lookup _).bind fun name =>
    (incremental_emit _).bind fun _ => incremental_index.bind fun superClass =>
    incremental_uint16.bind fun interfaceCount =>
    (incremental_index.times interfaceCount.toNat).bind fun interfaces =>
    (incremental_emit _).bind fun _ => incremental_uint16.bind fun fieldCount =>
    Incremental.unless ?_ _ trivial
  exact incremental_uint16.bind fun methodCount =>
    ((incremental_method constants).times methodCount.toNat).bind fun methods =>
    (incremental_skipAttributes constants).bind fun _ => incremental_pure _

end Reader

/-! ## Whole files -/

variable {bytes : List UInt8} {classFile : ClassFile}

/-- A class file without what is behind it is a class file. -/
theorem parse_take_of_found {after : Cursor}
    (hfile : (Reader.file (.ofBytes bytes)).outcome = .ok (classFile, after)) :
    (parse (bytes.take (bytes.length - after.remaining))).outcome = .ok classFile := by
  obtain ⟨block, hblock, hsplit, -⟩ := (Reader.recognizes_file _ _ _).1 hfile
  have htake : bytes.take (bytes.length - after.remaining) = block := by
    change bytes = block ++ after.rest at hsplit
    simp [hsplit, Cursor.remaining]
  rw [htake]
  exact outcome_parse_eq_ok_iff.2 hblock

theorem file_continues (bytes more : List UInt8) :
    Reader.Continues bytes.length more (Reader.file (.ofBytes bytes)).outcome
      (Reader.file (.ofBytes (bytes ++ more))).outcome := by
  have hfile := Reader.incremental_file (.ofBytes bytes) more
  rw [Cursor.endOffset, Cursor.remaining, Cursor.ofBytes, Nat.zero_add] at hfile
  exact hfile

/-- A class file that breaks off is found to break off. -/
theorem parse_of_strict_front {front : List UInt8} (h : (parse bytes).outcome = .ok classFile)
    (hfront : front <+: bytes) (hstrict : front ≠ bytes) :
    ∃ place ≤ front.length, (parse front).outcome = .error (.endOfInput ⟨place⟩) := by
  obtain ⟨back, rfl⟩ := hfront
  have hback : back ≠ [] := by
    rintro rfl
    exact hstrict (List.append_nil front).symm
  have hcontinues := file_continues front back
  cases parses_iff.1 h with
  | whole reads used =>
      rw [reads] at hcontinues
      generalize hcut : (Reader.file (.ofBytes front)).outcome = outcome at hcontinues
      cases hcontinues with
      | found _ => exact absurd (List.append_eq_nil_iff.1 used).2 hback
      | ranOut within => exact ⟨_, within, parses_iff.2 (.failed hcut)⟩

/-- What is behind a class file is left over, and all that follows it too. -/
theorem parse_append_of_found {after : Cursor} {more : List UInt8}
    (hfile : (Reader.file (.ofBytes bytes)).outcome = .ok (classFile, after))
    (hleft : after.rest ++ more ≠ []) :
    (parse (bytes ++ more)).outcome = .error (.trailingBytes (after.remaining + more.length)) := by
  have hcontinues := file_continues bytes more
  rw [hfile] at hcontinues
  generalize hlonger : (Reader.file (.ofBytes (bytes ++ more))).outcome = outcome at hcontinues
  cases hcontinues with
  | found _ =>
      have hparses := Parses.leftOver hlonger hleft
      rw [parses_iff]
      simpa [Cursor.remaining, Cursor.extended] using hparses

/-- An error in the bytes stays, whatever follows them. -/
theorem parse_append_of_inBytes {e : ReadError} (h : (parse bytes).outcome = .error e)
    (he : e.InBytes) (more : List UInt8) : (parse (bytes ++ more)).outcome = .error e := by
  have hcontinues := file_continues bytes more
  cases parses_iff.1 h with
  | leftOver _ _ => exact he.elim
  | failed fails =>
      rw [fails] at hcontinues
      generalize hlonger : (Reader.file (.ofBytes (bytes ++ more))).outcome = outcome at hcontinues
      cases hcontinues with
      | refused _ => exact parses_iff.2 (.failed hlonger)
      | ranOut _ => exact he.elim

/-- The reader itself never complains of bytes that are left over. -/
theorem file_of_leftOver {count : Nat}
    (h : (parse bytes).outcome = .error (.trailingBytes count)) :
    ∃ classFile after, (Reader.file (.ofBytes bytes)).outcome = .ok (classFile, after) ∧
      after.rest ≠ [] ∧ after.remaining = count := by
  cases parses_iff.1 h with
  | leftOver reads left => exact ⟨_, _, reads, left, rfl⟩
  | failed fails =>
      have hcontinues := file_continues bytes []
      rw [fails] at hcontinues
      generalize (Reader.file (.ofBytes (bytes ++ []))).outcome = outcome at hcontinues
      cases hcontinues with
      | refused inBytes => exact inBytes.elim

/-- Class files are self-delimiting. A buffer that is accepted is cut off at every earlier place,
and has bytes left over as soon as some follow it. A buffer with bytes left over begins with one
that is accepted. Any other error stays whatever follows. -/
theorem parse_of_front_and_append (bytes : List UInt8) :
    (∀ classFile, (parse bytes).outcome = .ok classFile →
      (∀ front, front <+: bytes → front ≠ bytes →
        ∃ place ≤ front.length, (parse front).outcome = .error (.endOfInput ⟨place⟩)) ∧
      ∀ more ≠ [], (parse (bytes ++ more)).outcome = .error (.trailingBytes more.length)) ∧
    (∀ count, (parse bytes).outcome = .error (.trailingBytes count) →
      count ≤ bytes.length ∧
      (∃ classFile, (parse (bytes.take (bytes.length - count))).outcome = .ok classFile) ∧
      ∀ more, (parse (bytes ++ more)).outcome = .error (.trailingBytes (count + more.length))) ∧
    ∀ e, (parse bytes).outcome = .error e → (∀ cause, e ≠ .endOfInput cause) →
      (∀ count, e ≠ .trailingBytes count) →
      ∀ more, (parse (bytes ++ more)).outcome = .error e := by
  refine ⟨?_, ?_, ?_⟩
  · intro classFile h
    refine ⟨fun front => parse_of_strict_front h, ?_⟩
    intro more hmore
    cases parses_iff.1 h with
    | @whole _ after reads used =>
        have hleft : after.rest ++ more ≠ [] := by simpa [used] using hmore
        have hlonger := parse_append_of_found reads hleft
        simpa [Cursor.remaining, used] using hlonger
  · intro count h
    obtain ⟨classFile, after, hfile, hleft, rfl⟩ := file_of_leftOver h
    refine ⟨?_, ⟨classFile, parse_take_of_found hfile⟩, ?_⟩
    · obtain ⟨block, -, hsplit, -⟩ := (Reader.recognizes_file _ _ _).1 hfile
      change bytes = block ++ after.rest at hsplit
      simp [hsplit, Cursor.remaining]
    · intro more
      exact parse_append_of_found hfile (by simp [hleft])
  · intro e h hnotEnd hnotLeft more
    refine parse_append_of_inBytes h ?_ more
    cases e with
    | endOfInput cause => exact hnotEnd cause rfl
    | trailingBytes count => exact hnotLeft count rfl
    | _ => trivial

/-- A class with one method, whose code has one row in its exception table and an attribute of two
bytes. -/
def skippedParts : List UInt8 :=
  [0xCA, 0xFE, 0xBA, 0xBE, 0, 0, 0, 52, 0, 6, 1, 0, 1, 65, 7, 0, 1, 1, 0, 4, 109, 97, 105, 110, 1,
    0, 3, 40, 41, 86, 1, 0, 4, 67, 111, 100, 101, 0, 33, 0, 2, 0, 2, 0, 0, 0, 0, 0, 1, 0, 9, 0, 3, 0,
    4, 0, 1, 0, 5, 0, 0, 0, 29, 0, 1, 0, 1, 0, 0, 0, 1, 0xB1, 0, 1, 0, 0, 0, 1, 0, 0, 0, 0, 0, 1, 0,
    5, 0, 0, 0, 2, 7, 7, 0, 0]

/-- Cut off in the row of the table, and followed by three bytes. -/
theorem parse_of_front_and_append_skippedParts :
    (∃ classFile, (parse skippedParts).outcome = .ok classFile) ∧
      (∃ place ≤ 78, (parse (skippedParts.take 78)).outcome = .error (.endOfInput ⟨place⟩)) ∧
      (parse (skippedParts ++ [1, 2, 3])).outcome = .error (.trailingBytes 3) := by
  have hread : (parse skippedParts).outcome.toOption.isSome := by decide +kernel
  cases hparse : (parse skippedParts).outcome with
  | error e => simp [hparse, Except.toOption] at hread
  | ok classFile =>
      obtain ⟨hcut, hmore⟩ := (parse_of_front_and_append skippedParts).1 classFile hparse
      refine ⟨⟨classFile, rfl⟩, ?_, hmore [1, 2, 3] (by decide)⟩
      exact hcut (skippedParts.take 78) (List.take_prefix _ _) (by decide)

end ClassFile

end ClassVM
