import ClassVM.Proofs.CodeLayout

/-! # Code as a sequence of encodings

An instruction is written as its opcode and its operands, the higher byte of a number first; some
instructions can be written in two ways and some not at all. Reading code undoes this: it succeeds
exactly on the sequences of encodings. Other code starts with a longest such sequence, and the error
says what stands behind it. -/

namespace ClassVM

namespace Code

/-- The opcode of an operation. -/
def arithmeticOpcode : Arithmetic → UInt8
  | .add => 0x60
  | .sub => 0x64
  | .mul => 0x68
  | .rem => 0x70

/-- The opcode of the branch on a comparison. -/
def comparisonOpcode : Comparison → UInt8
  | .greaterOrEqual => 0xA2
  | .greater => 0xA3

/-- The two bytes of a number. -/
def word (number : UInt16) : List UInt8 := Cursor.numeral 2 number.toNat

/-- All ways to write an instruction. -/
def encodings : Instruction Int16 → List (List UInt8)
  | .getStatic field => [0xB2 :: word field.number]
  | .loadConstant constant =>
      if constant.number < 256 then [[0x12, constant.number.toUInt8]] else []
  | .invokeVirtual method => [0xB6 :: word method.number]
  | .invokeStatic method => [0xB8 :: word method.number]
  | .returnNothing => [[0xB1]]
  | .returnValue => [[0xAC]]
  | .push value =>
      -- A small number has an opcode of its own.
      (if -1 ≤ value ∧ value ≤ 5 then [[UInt8.ofNat (value.toInt + 3).toNat]] else []) ++
        if -128 ≤ value ∧ value ≤ 127 then [[0x10, value.toInt8.toUInt8]] else []
  | .arithmetic op => [[arithmeticOpcode op]]
  | .store slot => if slot = 1 ∨ slot = 2 then [[0x3B + slot]] else []
  | .load slot => if slot ≤ 2 then [[0x1A + slot]] else []
  | .increment slot delta => [[0x84, slot, delta.toUInt8]]
  | .ifNonzero distance => [0x9A :: word distance.toUInt16]
  | .ifCompare comparison distance => [comparisonOpcode comparison :: word distance.toUInt16]
  | .goto distance => [0xA7 :: word distance.toUInt16]

/-! ## Opcodes and their operands -/

/-- The operands make up the instruction in the form. -/
def Form.Writes (instruction : Instruction Int16) (operands : List UInt8) : Form → Prop
  | .plain made => operands = [] ∧ made = instruction
  | .byte make => ∃ first, operands = [first] ∧ make first = instruction
  | .pair make => ∃ first second, operands = [first, second] ∧ make first second = instruction
  | .word make => ∃ number, operands = Code.word number ∧ make number = instruction

variable {instruction : Instruction Int16} {operands : List UInt8} {opcode : UInt8}

theorem signedByte_bounds (operand : UInt8) :
    -128 ≤ operand.toInt8.toInt32 ∧ operand.toInt8.toInt32 ≤ 127 := by
  simp only [Int32.le_iff_toInt_le, Int8.toInt_toInt32]
  exact ⟨operand.toInt8.le_toInt, operand.toInt8.toInt_le⟩

theorem toInt32_toInt8_of_le {value : Int32} (hlow : -128 ≤ value) (hhigh : value ≤ 127) :
    value.toInt8.toInt32 = value := by
  rw [Int32.le_iff_toInt_le] at hlow hhigh
  rw [← Int32.toInt_inj, Int8.toInt_toInt32, Int32.toInt_toInt8]
  exact Int.bmod_eq_of_le hlow (Int.lt_add_one_of_le hhigh)

theorem eq_small_of_le {value : Int32} (hlow : -1 ≤ value) (hhigh : value ≤ 5) :
    value = -1 ∨ value = 0 ∨ value = 1 ∨ value = 2 ∨ value = 3 ∨ value = 4 ∨ value = 5 := by
  simp only [Int32.le_iff_toInt_le, ← Int32.toInt_inj, Int32.reduceToInt] at *
  omega

theorem unsignedByte_lt (operand : UInt8) : operand.toUInt16 < 256 := by
  rw [UInt16.lt_iff_toNat_lt, UInt8.toNat_toUInt16]
  exact operand.toNat_lt

/-- An opcode with operands of its form is an encoding. -/
theorem mem_encodings_of_form {form : Form} (hform : formOf opcode = some form)
    (hwrites : form.Writes instruction operands) :
    opcode :: operands ∈ encodings instruction := by
  unfold formOf at hform
  split at hform
  all_goals cases hform
  all_goals simp only [Form.Writes, Form.branch, Form.pooled] at hwrites
  -- By the shape of the form: no operand, one byte or one number, two bytes.
  all_goals first
    | (obtain ⟨rfl, rfl⟩ := hwrites; decide)
    | (obtain ⟨operand, rfl, rfl⟩ := hwrites
       simp [encodings, comparisonOpcode, signedByte_bounds, unsignedByte_lt])
    | (obtain ⟨slot, delta, rfl, rfl⟩ := hwrites; simp [encodings])

/-- Every encoding is an opcode with operands of its form. -/
theorem exists_form_of_mem_encodings (h : opcode :: operands ∈ encodings instruction) :
    ∃ form, formOf opcode = some form ∧ form.Writes instruction operands := by
  cases instruction with
  | getStatic field =>
      obtain ⟨rfl, rfl⟩ : opcode = 0xB2 ∧ operands = word field.number := by
        simpa [encodings] using h
      exact ⟨_, rfl, field.number, rfl, rfl⟩
  | loadConstant constant =>
      obtain ⟨hlt, rfl, rfl⟩ :
          constant.number < 256 ∧ opcode = 0x12 ∧ operands = [constant.number.toUInt8] := by
        simpa [encodings] using h
      have hback : constant.number.toUInt8.toUInt16 = constant.number := by
        rw [UInt16.toUInt16_toUInt8, UInt16.mod_eq_of_lt hlt]
      exact ⟨_, rfl, _, rfl, by simp only [hback]⟩
  | invokeVirtual method =>
      obtain ⟨rfl, rfl⟩ : opcode = 0xB6 ∧ operands = word method.number := by
        simpa [encodings] using h
      exact ⟨_, rfl, method.number, rfl, rfl⟩
  | invokeStatic method =>
      obtain ⟨rfl, rfl⟩ : opcode = 0xB8 ∧ operands = word method.number := by
        simpa [encodings] using h
      exact ⟨_, rfl, method.number, rfl, rfl⟩
  | returnNothing =>
      obtain ⟨rfl, rfl⟩ : opcode = 0xB1 ∧ operands = [] := by simpa [encodings] using h
      exact ⟨_, rfl, rfl, rfl⟩
  | returnValue =>
      obtain ⟨rfl, rfl⟩ : opcode = 0xAC ∧ operands = [] := by simpa [encodings] using h
      exact ⟨_, rfl, rfl, rfl⟩
  | push value =>
      rw [encodings, List.mem_append] at h
      obtain hsmall | hbyte := h
      · obtain ⟨⟨hlow, hhigh⟩, hopcode, rfl⟩ :
            (-1 ≤ value ∧ value ≤ 5) ∧
              opcode = UInt8.ofNat (value.toInt + 3).toNat ∧ operands = [] := by
          simpa using hsmall
        subst hopcode
        obtain rfl | rfl | rfl | rfl | rfl | rfl | rfl := eq_small_of_le hlow hhigh
        all_goals exact ⟨_, rfl, rfl, rfl⟩
      · obtain ⟨⟨hlow, hhigh⟩, rfl, rfl⟩ :
            (-128 ≤ value ∧ value ≤ 127) ∧ opcode = 0x10 ∧
              operands = [value.toInt8.toUInt8] := by
          simpa using hbyte
        exact ⟨_, rfl, _, rfl, by simp [toInt32_toInt8_of_le hlow hhigh]⟩
  | arithmetic op =>
      obtain ⟨rfl, rfl⟩ : opcode = arithmeticOpcode op ∧ operands = [] := by
        simpa [encodings] using h
      cases op with
      | add => exact ⟨_, rfl, rfl, rfl⟩
      | sub => exact ⟨_, rfl, rfl, rfl⟩
      | mul => exact ⟨_, rfl, rfl, rfl⟩
      | rem => exact ⟨_, rfl, rfl, rfl⟩
  | store slot =>
      obtain ⟨hslot, rfl, rfl⟩ : (slot = 1 ∨ slot = 2) ∧ opcode = 0x3B + slot ∧ operands = [] := by
        simpa [encodings] using h
      obtain rfl | rfl := hslot
      · exact ⟨_, rfl, rfl, rfl⟩
      · exact ⟨_, rfl, rfl, rfl⟩
  | load slot =>
      obtain ⟨hslot, rfl, rfl⟩ : slot ≤ 2 ∧ opcode = 0x1A + slot ∧ operands = [] := by
        simpa [encodings] using h
      obtain rfl | rfl | rfl : slot = 0 ∨ slot = 1 ∨ slot = 2 := by
        simp only [UInt8.le_iff_toNat_le, ← UInt8.toNat_inj, UInt8.reduceToNat] at *
        omega
      · exact ⟨_, rfl, rfl, rfl⟩
      · exact ⟨_, rfl, rfl, rfl⟩
      · exact ⟨_, rfl, rfl, rfl⟩
  | increment slot delta =>
      obtain ⟨rfl, rfl⟩ : opcode = 0x84 ∧ operands = [slot, delta.toUInt8] := by
        simpa [encodings] using h
      exact ⟨_, rfl, _, _, rfl, by simp⟩
  | ifNonzero distance =>
      obtain ⟨rfl, rfl⟩ : opcode = 0x9A ∧ operands = word distance.toUInt16 := by
        simpa [encodings] using h
      exact ⟨_, rfl, _, rfl, by simp⟩
  | ifCompare comparison distance =>
      obtain ⟨rfl, rfl⟩ :
          opcode = comparisonOpcode comparison ∧ operands = word distance.toUInt16 := by
        simpa [encodings] using h
      cases comparison with
      | greaterOrEqual => exact ⟨_, rfl, _, rfl, by simp⟩
      | greater => exact ⟨_, rfl, _, rfl, by simp⟩
  | goto distance =>
      obtain ⟨rfl, rfl⟩ : opcode = 0xA7 ∧ operands = word distance.toUInt16 := by
        simpa [encodings] using h
      exact ⟨_, rfl, _, rfl, by simp⟩

theorem ne_nil_of_mem_encodings {block : List UInt8} (h : block ∈ encodings instruction) :
    block ≠ [] := by
  rintro rfl
  cases instruction <;> simp [encodings] at h

/-! ## Reading one encoding -/

/-- The number of bytes behind the opcode. -/
def Form.width : Form → Nat
  | .plain _ => 0
  | .byte _ => 1
  | .pair _ | .word _ => 2

variable {form : Form} {cursor after : Cursor}

/-- Operands of the right number always make up an instruction. -/
theorem Form.exists_writes (form : Form) {operands : List UInt8}
    (hlength : operands.length = form.width) : ∃ instruction, form.Writes instruction operands := by
  cases form with
  | plain made => exact ⟨made, List.length_eq_zero_iff.1 hlength, rfl⟩
  | byte make =>
      obtain ⟨first, rfl⟩ := List.length_eq_one_iff.1 hlength
      exact ⟨make first, first, rfl, rfl⟩
  | pair make =>
      obtain ⟨first, second, rfl⟩ := List.length_eq_two.1 hlength
      exact ⟨make first second, first, second, rfl, rfl⟩
  | word make =>
      have hlength : operands.length = 2 := hlength
      have hlt := Cursor.valueFrom_lt operands
      have hback := Cursor.numeral_valueFrom operands
      rw [hlength] at hlt hback
      refine ⟨_, UInt16.ofNat (Cursor.valueFrom 0 operands), ?_, rfl⟩
      rw [Code.word, UInt16.toNat_ofNat_of_lt' hlt, hback]

theorem Form.read_eq_ok_iff :
    form.read cursor = (.ok instruction, after) ↔
      ∃ operands, form.Writes instruction operands ∧ cursor.Passes operands after := by
  cases form with
  | plain made =>
      simp only [Form.read, Form.Writes, Prod.mk.injEq, Except.ok.injEq]
      constructor
      · rintro ⟨rfl, rfl⟩
        exact ⟨[], ⟨rfl, rfl⟩, Cursor.passes_nil.2 rfl⟩
      · rintro ⟨operands, ⟨rfl, rfl⟩, hpass⟩
        exact ⟨rfl, (Cursor.passes_nil.1 hpass).symm⟩
  | byte make =>
      simp only [Form.read, Form.Writes, Cursor.mapResult_eq_ok_iff, Cursor.byte_eq_ok_iff]
      constructor
      · rintro ⟨first, hpass, hmake⟩
        exact ⟨[first], ⟨first, rfl, hmake⟩, hpass⟩
      · rintro ⟨operands, ⟨first, rfl, hmake⟩, hpass⟩
        exact ⟨first, hpass, hmake⟩
  | pair make =>
      rw [Form.read]
      constructor
      · intro h
        split at h
        · simp at h
        · next first middle hfirst =>
            obtain ⟨second, hsecond, hmake⟩ := Cursor.mapResult_eq_ok_iff.1 h
            have hpass := Cursor.passes_append.2
              ⟨middle, Cursor.byte_eq_ok_iff.1 hfirst, Cursor.byte_eq_ok_iff.1 hsecond⟩
            exact ⟨_, ⟨first, second, rfl, hmake⟩, hpass⟩
      · rintro ⟨operands, ⟨first, second, rfl, hmake⟩, hpass⟩
        have hsplit : cursor.Passes ([first] ++ [second]) after := hpass
        obtain ⟨middle, hfirst, hsecond⟩ := Cursor.passes_append.1 hsplit
        rw [Cursor.byte_eq_ok_iff.2 hfirst]
        exact Cursor.mapResult_eq_ok_iff.2 ⟨second, Cursor.byte_eq_ok_iff.2 hsecond, hmake⟩
  | word make =>
      simp only [Form.read, Form.Writes, Cursor.mapResult_eq_ok_iff, Cursor.uint16_eq_ok_iff]
      constructor
      · rintro ⟨number, hpass, hmake⟩
        exact ⟨_, ⟨number, rfl, hmake⟩, hpass⟩
      · rintro ⟨operands, ⟨number, rfl, hmake⟩, hpass⟩
        exact ⟨number, hpass, hmake⟩

/-- An instruction is read exactly where one of its encodings lies ahead. -/
theorem readOne_eq_ok_iff :
    readOne cursor = .ok (instruction, after) ↔
      ∃ block ∈ encodings instruction, cursor.Passes block after := by
  constructor
  · intro h
    unfold readOne at h
    split at h
    · cases h
    · next opcode middle hopcode =>
        split at h
        · cases h
        · next form hform =>
            split at h
            · cases h
            · next hread =>
                cases h
                obtain ⟨operands, hwrites, hpass⟩ := Form.read_eq_ok_iff.1 hread
                have hboth := Cursor.passes_append.2
                  ⟨middle, Cursor.byte_eq_ok_iff.1 hopcode, hpass⟩
                exact ⟨_, mem_encodings_of_form hform hwrites, hboth⟩
  · rintro ⟨block, hblock, hpass⟩
    cases block with
    | nil => exact absurd rfl (ne_nil_of_mem_encodings hblock)
    | cons opcode operands =>
        obtain ⟨form, hform, hwrites⟩ := exists_form_of_mem_encodings hblock
        have hsplit : cursor.Passes ([opcode] ++ operands) after := hpass
        obtain ⟨middle, hopcode, hoperands⟩ := Cursor.passes_append.1 hsplit
        have hread := Form.read_eq_ok_iff.2 ⟨operands, hwrites, hoperands⟩
        simp [readOne, Cursor.byte_eq_ok_iff.2 hopcode, hform, hread]

/-! ## Where no encoding can be read -/

/-- Operands are read byte by byte, so operands that are cut off are missed at the end. -/
theorem Form.read_eq_error {e : EndOfInput} (h : form.read cursor = (.error e, after)) :
    e = ⟨cursor.endOffset⟩ ∧ cursor.remaining < form.width := by
  constructor
  · cases form with
    | plain made => cases h
    | byte make => exact Cursor.byte_eq_error (Cursor.mapResult_eq_error h)
    | pair make =>
        rw [Form.read] at h
        split at h
        · next hfirst =>
            cases h
            exact Cursor.byte_eq_error hfirst
        · next first middle hfirst =>
            have hsecond := Cursor.byte_eq_error (Cursor.mapResult_eq_error h)
            rw [hsecond, (Cursor.byte_eq_ok_iff.1 hfirst).endOffset_eq]
    | word make =>
        have hnumber := Cursor.mapResult_eq_error (Cursor.mapResult_eq_error h)
        exact Cursor.bigEndian_eq_error hnumber
  · by_contra hlt
    have hlength : (cursor.rest.take form.width).length = form.width := by
      rw [List.length_take]
      exact Nat.min_eq_left (Nat.le_of_not_lt hlt)
    obtain ⟨instruction, hwrites⟩ := form.exists_writes hlength
    have hpass : cursor.Passes (cursor.rest.take form.width)
        ⟨cursor.offset + form.width, cursor.rest.drop form.width⟩ :=
      ⟨(List.take_append_drop _ _).symm, by rw [hlength]⟩
    have hread := Form.read_eq_ok_iff.2 ⟨_, hwrites, hpass⟩
    rw [h] at hread
    cases hread

/-- The byte is the opcode of some instruction. -/
def Supported (opcode : UInt8) : Prop :=
  ∃ instruction operands, opcode :: operands ∈ encodings instruction

/-- The bytes are the first of an encoding that goes on. -/
def CutOff (bytes : List UInt8) : Prop :=
  ∃ instruction, ∃ block ∈ encodings instruction, bytes <+: block ∧ bytes ≠ block

/-- What is wrong with bytes that no instruction can be read from. -/
inductive Flaw (offset : Nat) : List UInt8 → DecodeError → Prop
  | unsupported {opcode : UInt8} {tail : List UInt8} (unknown : ¬ Supported opcode) :
      Flaw offset (opcode :: tail) (.unsupportedOpcode opcode offset)
  | cutOff {opcode : UInt8} {tail : List UInt8} (incomplete : CutOff (opcode :: tail)) :
      Flaw offset (opcode :: tail) (.truncated ⟨offset + (opcode :: tail).length⟩)

theorem CutOff.supported {tail : List UInt8} (h : CutOff (opcode :: tail)) : Supported opcode := by
  obtain ⟨instruction, block, hblock, ⟨missing, rfl⟩, -⟩ := h
  exact ⟨instruction, tail ++ missing, hblock⟩

/-- Operands that are too few can be completed. -/
theorem cutOff_of_lt {tail : List UInt8} (hform : formOf opcode = some form)
    (hlt : tail.length < form.width) : CutOff (opcode :: tail) := by
  have hlength : (tail ++ List.replicate (form.width - tail.length) 0).length = form.width := by
    rw [List.length_append, List.length_replicate]
    omega
  obtain ⟨instruction, hwrites⟩ := form.exists_writes hlength
  refine ⟨instruction, _, mem_encodings_of_form hform hwrites, List.prefix_append _ _, ?_⟩
  intro heq
  have hsame := congrArg List.length heq
  simp only [List.length_cons, hlength] at hsame
  omega

theorem flaw_of_readOne {e : DecodeError} (hend : ¬ cursor.atEnd) (h : readOne cursor = .error e) :
    Flaw cursor.offset cursor.rest e := by
  obtain ⟨offset, rest⟩ := cursor
  cases rest with
  | nil => exact absurd rfl hend
  | cons opcode tail =>
      simp only [readOne, Cursor.byte] at h
      split at h
      · next hform =>
          cases h
          apply Flaw.unsupported
          intro hsupported
          obtain ⟨instruction, operands, hblock⟩ := hsupported
          obtain ⟨form, hfound, -⟩ := exists_form_of_mem_encodings hblock
          rw [hform] at hfound
          cases hfound
      · next form hform =>
          split at h
          · next hread =>
              cases h
              obtain ⟨rfl, hlt⟩ := Form.read_eq_error hread
              have hend : Cursor.endOffset ⟨offset + 1, tail⟩ =
                  offset + (opcode :: tail).length := by
                simp only [Cursor.endOffset, Cursor.remaining, List.length_cons]
                omega
              rw [hend]
              exact .cutOff (cutOff_of_lt hform hlt)
          · cases h

/-! ## The longest sequence of encodings -/

/-- Every block is an encoding. -/
def Complete (blocks : List (List UInt8)) : Prop :=
  ∀ block ∈ blocks, ∃ instruction, block ∈ encodings instruction

/-- The code is the blocks, which are encodings, and a rest. Whatever encodings the code starts with
are the first of the blocks. -/
structure Longest (code : List UInt8) (blocks : List (List UInt8)) (rest : List UInt8) : Prop where
  complete : Complete blocks
  splits : code = blocks.flatten ++ rest
  longest : ∀ others, Complete others → others.flatten <+: code → others <+: blocks

/-- No encoding goes on as another. -/
theorem eq_of_isPrefix {bytes first second : List UInt8} {one other : Instruction Int16}
    (hfirst : first ∈ encodings one) (hsecond : second ∈ encodings other)
    (hfirstPrefix : first <+: bytes) (hsecondPrefix : second <+: bytes) : first = second := by
  obtain ⟨rest, rfl⟩ := hfirstPrefix
  obtain ⟨rest', heq⟩ := hsecondPrefix
  have hread : readOne (.ofBytes (first ++ rest)) = .ok (one, ⟨first.length, rest⟩) :=
    readOne_eq_ok_iff.2 ⟨first, hfirst, rfl, (Nat.zero_add _).symm⟩
  have hread' : readOne (.ofBytes (first ++ rest)) = .ok (other, ⟨second.length, rest'⟩) :=
    readOne_eq_ok_iff.2 ⟨second, hsecond, heq.symm, (Nat.zero_add _).symm⟩
  rw [hread] at hread'
  simp only [Except.ok.injEq, Prod.mk.injEq, Cursor.mk.injEq] at hread'
  exact (List.append_inj heq hread'.2.1.symm).1.symm

namespace Longest

variable {code block rest : List UInt8} {blocks : List (List UInt8)}

theorem nil (hnone : ∀ instruction, ∀ block ∈ encodings instruction, ¬ block <+: code) :
    Longest code [] code where
  complete := by simp [Complete]
  splits := rfl
  longest others hcomplete hothers := by
    cases others with
    | nil => exact List.prefix_rfl
    | cons block others =>
        obtain ⟨instruction, hblock⟩ := hcomplete block (by simp)
        have hprefix : block <+: code := (List.prefix_append _ _).trans hothers
        exact absurd hprefix (hnone instruction block hblock)

theorem cons (hblock : block ∈ encodings instruction) (h : Longest code blocks rest) :
    Longest (block ++ code) (block :: blocks) rest where
  complete := by
    intro other hother
    obtain rfl | hother := List.mem_cons.1 hother
    · exact ⟨instruction, hblock⟩
    · exact h.complete other hother
  splits := by rw [h.splits, List.flatten_cons, List.append_assoc]
  longest others hcomplete hothers := by
    cases others with
    | nil => exact List.nil_prefix
    | cons other others =>
        obtain ⟨instruction', hother⟩ := hcomplete other (by simp)
        have hprefix : other <+: block ++ code := (List.prefix_append _ _).trans hothers
        obtain rfl := eq_of_isPrefix hother hblock hprefix (List.prefix_append _ _)
        rw [List.flatten_cons, List.prefix_append_right_inj] at hothers
        have hcomplete' : Complete others := fun later hlater =>
          hcomplete later (List.mem_cons_of_mem _ hlater)
        rw [List.prefix_cons_inj]
        exact h.longest others hcomplete' hothers

end Longest

/-- A sweep reads the longest sequence of encodings and ends at the end of the code, or with the
flaw behind the sequence. -/
theorem exists_longest_of_sweep (cursor : Cursor) :
    ∃ blocks rest, Longest cursor.rest blocks rest ∧
      ((rest = [] ∧ ∃ located, (sweep cursor).outcome = .ok located) ∨
        ∃ e, Flaw (cursor.offset + blocks.flatten.length) rest e ∧
          (sweep cursor).outcome = .error e) := by
  induction cursor using sweep.induct with
  | case1 cursor hend =>
      have hrest : cursor.rest = [] := List.isEmpty_iff.1 hend
      refine ⟨[], cursor.rest, Longest.nil ?_, .inl ⟨hrest, [], ?_⟩⟩
      · intro instruction block hblock hprefix
        rw [hrest, List.prefix_nil] at hprefix
        exact ne_nil_of_mem_encodings hblock hprefix
      · rw [outcome_sweep, if_pos hend]
  | case2 cursor hend e hread =>
      refine ⟨[], cursor.rest, Longest.nil ?_, .inr ⟨e, flaw_of_readOne hend hread, ?_⟩⟩
      · intro instruction block hblock hprefix
        obtain ⟨tail, htail⟩ := hprefix
        have hpass : cursor.Passes block ⟨cursor.offset + block.length, tail⟩ := ⟨htail.symm, rfl⟩
        rw [readOne_eq_ok_iff.2 ⟨block, hblock, hpass⟩] at hread
        cases hread
      · rw [outcome_sweep, if_neg hend, hread]
        rfl
  | case3 cursor hend instruction after hread ih =>
      obtain ⟨blocks, rest, hlongest, hends⟩ := ih
      obtain ⟨block, hblock, hrest, hoffset⟩ := readOne_eq_ok_iff.1 hread
      have houtcome : (sweep cursor).outcome =
          (sweep after).outcome.map (⟨cursor.offset, instruction⟩ :: ·) := by
        rw [outcome_sweep, if_neg hend, hread]
        rfl
      refine ⟨block :: blocks, rest, ?_, ?_⟩
      · rw [hrest]
        exact hlongest.cons hblock
      · obtain ⟨hnothing, located, hafter⟩ | ⟨e, hflaw, hafter⟩ := hends
        · exact .inl ⟨hnothing, _, by rw [houtcome, hafter]; rfl⟩
        · rw [hoffset, Nat.add_assoc, ← List.length_append, ← List.flatten_cons] at hflaw
          exact .inr ⟨e, hflaw, by rw [houtcome, hafter]; rfl⟩

/-! ## Code and its encodings -/

/-- Where the blocks start if they stand one after another. -/
def starts (blocks : List (List UInt8)) : List Nat :=
  (List.range blocks.length).map fun index => (blocks.take index).flatten.length

theorem starts_cons (block : List UInt8) (blocks : List (List UInt8)) :
    starts (block :: blocks) = 0 :: (starts blocks).map (block.length + ·) := by
  simp [starts, List.range_succ_eq_map, Function.comp_def]

/-- The blocks are encodings of the instructions, one for each. -/
def Encodes (instructions : List (Instruction Int16)) (blocks : List (List UInt8)) : Prop :=
  List.Forall₂ (fun instruction block => block ∈ encodings instruction) instructions blocks

theorem Covers.exists_blocks {located : List Located} (h : Covers cursor located) :
    ∃ blocks, Encodes (located.map Located.instruction) blocks ∧ cursor.rest = blocks.flatten ∧
      located.map Located.offset = (starts blocks).map (cursor.offset + ·) := by
  induction h with
  | nil ends => exact ⟨[], .nil, List.isEmpty_iff.1 ends, rfl⟩
  | cons reads _ ih =>
      obtain ⟨blocks, hencodes, hrest, hoffsets⟩ := ih
      obtain ⟨block, hblock, hahead, hoffset⟩ := readOne_eq_ok_iff.1 reads
      refine ⟨block :: blocks, .cons hblock hencodes, ?_, ?_⟩
      · rw [hahead, hrest, List.flatten_cons]
      · rw [List.map_cons, hoffsets, hoffset, starts_cons]
        simp [Function.comp_def, Nat.add_assoc]

theorem exists_covers {instructions : List (Instruction Int16)} {blocks : List (List UInt8)}
    (hencodes : Encodes instructions blocks) (hrest : cursor.rest = blocks.flatten) :
    ∃ located, Covers cursor located ∧ located.map Located.instruction = instructions ∧
      located.map Located.offset = (starts blocks).map (cursor.offset + ·) := by
  induction hencodes generalizing cursor with
  | nil => exact ⟨[], .nil (List.isEmpty_iff.2 hrest), rfl, rfl⟩
  | @cons instruction block instructions blocks hblock _ ih =>
      have hpass : cursor.Passes block ⟨cursor.offset + block.length, blocks.flatten⟩ :=
        ⟨hrest, rfl⟩
      have hread := readOne_eq_ok_iff.2 ⟨block, hblock, hpass⟩
      obtain ⟨located, hcovers, hinstructions, hoffsets⟩ :=
        @ih ⟨cursor.offset + block.length, blocks.flatten⟩ rfl
      refine ⟨_, .cons hread hcovers, ?_, ?_⟩
      · rw [List.map_cons, hinstructions]
      · rw [List.map_cons, hoffsets, starts_cons]
        simp [Function.comp_def, Nat.add_assoc]

theorem scan_eq_ok_iff_encodes {code : List UInt8} {instructions : List (Instruction Int16)}
    {offsets : List Nat} :
    (∃ located, (scan code).outcome = .ok located ∧
        located.map Located.instruction = instructions ∧ located.map Located.offset = offsets) ↔
      ∃ blocks, Encodes instructions blocks ∧ code = blocks.flatten ∧ offsets = starts blocks := by
  simp only [scan, outcome_sweep_eq_ok_iff]
  constructor
  · intro h
    obtain ⟨located, hcovers, rfl, rfl⟩ := h
    obtain ⟨blocks, hencodes, hcode, hoffsets⟩ := hcovers.exists_blocks
    refine ⟨blocks, hencodes, hcode, ?_⟩
    simpa [Cursor.ofBytes] using hoffsets
  · intro h
    obtain ⟨blocks, hencodes, hcode, rfl⟩ := h
    have hahead : (Cursor.ofBytes code).rest = blocks.flatten := hcode
    obtain ⟨located, hcovers, hinstructions, hoffsets⟩ := exists_covers hencodes hahead
    refine ⟨located, hcovers, hinstructions, ?_⟩
    simpa [Cursor.ofBytes] using hoffsets

/-- A scan finds instructions and offsets exactly if the code is made of encodings of these
instructions that start at these offsets. Otherwise it finds fault with what stands behind the
longest sequence of encodings: with a byte that is no opcode, or with an instruction that the end of
the code cuts off. -/
theorem scan_inverts_encodings (code : List UInt8) :
    (∀ instructions offsets,
      (scan code).outcome.map
          (fun located => (located.map Located.instruction, located.map Located.offset)) =
          .ok (instructions, offsets) ↔
        ∃ blocks, Encodes instructions blocks ∧ code = blocks.flatten ∧
          offsets = starts blocks) ∧
    ∃ blocks rest, Longest code blocks rest ∧
      (rest = [] → ∃ located, (scan code).outcome = .ok located) ∧
      ∀ opcode tail, rest = opcode :: tail →
        (¬ Supported opcode →
          (scan code).outcome = .error (.unsupportedOpcode opcode blocks.flatten.length)) ∧
        (Supported opcode →
          CutOff rest ∧ (scan code).outcome = .error (.truncated ⟨code.length⟩)) := by
  constructor
  · intro instructions offsets
    rw [map_eq_ok_iff]
    simp only [Prod.mk.injEq]
    exact scan_eq_ok_iff_encodes
  · obtain ⟨blocks, rest, hlongest, hends⟩ := exists_longest_of_sweep (.ofBytes code)
    refine ⟨blocks, rest, hlongest, ?_, ?_⟩
    · intro hnothing
      obtain ⟨-, hlocated⟩ | ⟨e, hflaw, -⟩ := hends
      · exact hlocated
      · rw [hnothing] at hflaw
        cases hflaw
    · intro opcode tail hrest
      subst hrest
      have hlength : code.length = blocks.flatten.length + (opcode :: tail).length := by
        rw [← List.length_append, ← hlongest.splits]
        rfl
      obtain ⟨hnothing, -⟩ | ⟨e, hflaw, houtcome⟩ := hends
      · cases hnothing
      · simp only [Cursor.ofBytes, Nat.zero_add] at hflaw
        cases hflaw with
        | unsupported unknown =>
            exact ⟨fun _ => houtcome, fun hsupported => absurd hsupported unknown⟩
        | cutOff incomplete =>
            refine ⟨fun unknown => absurd incomplete.supported unknown, fun _ => ⟨incomplete, ?_⟩⟩
            rw [hlength]
            exact houtcome

end Code

end ClassVM
