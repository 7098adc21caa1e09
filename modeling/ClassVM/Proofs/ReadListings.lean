import ClassVM.CommandLine.Listing
import Mathlib.Data.List.Basic

/-! # Listings can be read back

The line of an instruction is its mnemonic, which has no digit and no blank in it, and what is
written for its operands, which starts with a digit or a blank. So the mnemonic can be told from the
operands, the numbers can be read back, and no two instructions have the same line. No line of a
listing has the end of a line inside it, so the text of a listing shows one list of instructions
only. -/

namespace ClassVM

/-! ## Numbers -/

theorem isDigit_of_mem_toString {number : Nat} {c : Char} (h : c ∈ (toString number).toList) :
    c.isDigit := by
  rw [Nat.toString_eq_ofList_toDigits, String.toList_ofList] at h
  exact Nat.isDigit_of_mem_toDigits (by decide) (by decide) h

theorem notMem_toString {c : Char} (h : ¬ c.isDigit) (number : Nat) :
    c ∉ (toString number).toList :=
  fun hmem => h (isDigit_of_mem_toString hmem)

theorem toList_toString_int (number : Int) :
    (toString number).toList =
      (if 0 ≤ number then [] else ['-']) ++ (toString number.natAbs).toList := by
  rw [Int.toString_eq_repr, Int.repr_eq_if]
  split
  · next hnonneg =>
      have habs : number.toNat = number.natAbs := by omega
      rw [habs, ← Nat.toString_eq_repr, List.nil_append]
  · next hneg =>
      have habs : (-number).toNat = number.natAbs := by omega
      rw [habs, ← Nat.toString_eq_repr, String.toList_append]
      rfl

namespace Text

/-- The number that the digits of a text write. All else is passed over. -/
def readNat (text : List Char) : Nat := Nat.ofDigitChars 10 (text.filter Char.isDigit) 0

/-- The number that the digits of a text write, with the sign that stands in the text. -/
def readInt (text : List Char) : Int :=
  if '-' ∈ text then -(readNat text : Int) else readNat text

theorem readNat_append (front : List Char) (h : ∀ c ∈ front, ¬ c.isDigit) (number : Nat) :
    readNat (front ++ (toString number).toList) = number := by
  have hfront : front.filter Char.isDigit = [] := List.filter_eq_nil_iff.2 h
  have hdigits : (toString number).toList.filter Char.isDigit = (toString number).toList :=
    List.filter_eq_self.2 fun c hc => isDigit_of_mem_toString hc
  rw [readNat, List.filter_append, hfront, hdigits, List.nil_append,
    Nat.toString_eq_ofList_toDigits, String.toList_ofList, Nat.ofDigitChars_ten_toDigits]

theorem readInt_append (front : List Char) (h : ∀ c ∈ front, ¬ c.isDigit ∧ c ≠ '-')
    (number : Int) : readInt (front ++ (toString number).toList) = number := by
  have hfront : ∀ c ∈ front, ¬ c.isDigit := fun c hc => (h c hc).1
  have hminus : '-' ∉ front := fun hmem => (h '-' hmem).2 rfl
  have hdigits := notMem_toString (c := '-') (by decide) number.natAbs
  rw [toList_toString_int]
  split
  · next hnonneg =>
      have hunsigned : '-' ∉ front ++ (toString number.natAbs).toList :=
        List.not_mem_append hminus hdigits
      rw [List.nil_append, readInt, if_neg hunsigned, readNat_append front hfront]
      omega
  · next hneg =>
      have hsigned : '-' ∈ front ++ (['-'] ++ (toString number.natAbs).toList) := by simp
      have hbefore : ∀ c ∈ front ++ ['-'], ¬ c.isDigit :=
        List.forall_mem_append.2 ⟨hfront, by simp⟩
      rw [readInt, if_pos hsigned, ← List.append_assoc, readNat_append _ hbefore]
      omega

/-- A text is cut where a condition fails for the first time. -/
theorem takeWhile_append {front back : List Char} {condition : Char → Bool}
    (hfront : ∀ c ∈ front, condition c) (hback : ∀ c ∈ back.head?, ¬ condition c) :
    (front ++ back).takeWhile condition = front ∧
      (front ++ back).dropWhile condition = back := by
  rw [List.takeWhile_append_of_pos hfront, List.dropWhile_append_of_pos hfront]
  cases back with
  | nil => simp
  | cons c back =>
      have hc : ¬ condition c := hback c rfl
      simp [hc]

/-- A text is cut at a character that does not stand before the cut. -/
theorem takeWhile_ne_append {front : List Char} {c : Char} (h : c ∉ front) (back : List Char) :
    (front ++ c :: back).takeWhile (· ≠ c) = front ∧
      (front ++ c :: back).dropWhile (· ≠ c) = c :: back := by
  refine takeWhile_append (fun d hd => ?_) (by simp)
  have hne : d ≠ c := fun heq => h (heq ▸ hd)
  simpa using hne

end Text

namespace Instruction

variable {τ : Type} {writeTarget : τ → String} {readTarget : List Char → τ}

/-! ## Mnemonics and operands -/

/-- The word that the line of an instruction starts with. -/
def mnemonic : Instruction τ → String
  | .getStatic _ => "getstatic"
  | .loadConstant _ => "ldc"
  | .invokeVirtual _ => "invokevirtual"
  | .invokeStatic _ => "invokestatic"
  | .returnNothing => "return"
  | .returnValue => "ireturn"
  | .push _ => "push"
  | .arithmetic op => op.mnemonic
  | .store _ => "istore_"
  | .load _ => "iload_"
  | .increment _ _ => "iinc"
  | .ifNonzero _ => "ifne"
  | .ifCompare comparison _ => comparison.mnemonic
  | .goto _ => "goto"

/-- What is written behind the mnemonic. -/
def operands (writeTarget : τ → String) : Instruction τ → String
  | .getStatic index | .loadConstant index | .invokeVirtual index | .invokeStatic index =>
      " " ++ index.display
  | .returnNothing | .returnValue | .arithmetic _ => ""
  | .push value => " " ++ toString value.toInt
  | .store slot | .load slot => toString slot.toNat
  | .increment slot delta => " " ++ toString slot.toNat ++ " " ++ toString delta.toInt
  | .ifNonzero target | .ifCompare _ target | .goto target => " " ++ writeTarget target

theorem displayWith_eq (instruction : Instruction τ) :
    instruction.displayWith writeTarget =
      instruction.mnemonic ++ instruction.operands writeTarget := by
  cases instruction <;> simp [displayWith, mnemonic, operands, ← String.append_assoc]

/-- The character may stand in a mnemonic: it is no digit, no blank and no end of a line. -/
def inMnemonic (c : Char) : Bool := !c.isDigit && c ≠ ' ' && c ≠ '\n'

/-- The instruction with a mnemonic and with operands as they are written. -/
def ofWords? (readTarget : List Char → τ) (mnemonic : String) (operands : List Char) :
    Option (Instruction τ) :=
  match mnemonic with
  | "getstatic" => some (.getStatic ⟨.ofNat (Text.readNat operands)⟩)
  | "ldc" => some (.loadConstant ⟨.ofNat (Text.readNat operands)⟩)
  | "invokevirtual" => some (.invokeVirtual ⟨.ofNat (Text.readNat operands)⟩)
  | "invokestatic" => some (.invokeStatic ⟨.ofNat (Text.readNat operands)⟩)
  | "return" => some .returnNothing
  | "ireturn" => some .returnValue
  | "push" => some (.push (.ofInt (Text.readInt operands)))
  | "iadd" => some (.arithmetic .add)
  | "isub" => some (.arithmetic .sub)
  | "imul" => some (.arithmetic .mul)
  | "irem" => some (.arithmetic .rem)
  | "istore_" => some (.store (.ofNat (Text.readNat operands)))
  | "iload_" => some (.load (.ofNat (Text.readNat operands)))
  | "iinc" =>
      -- A blank stands before the first number, and another between the two.
      let numbers := operands.drop 1
      some (.increment (.ofNat (Text.readNat (numbers.takeWhile (· ≠ ' '))))
        (.ofInt (Text.readInt (numbers.dropWhile (· ≠ ' ')))))
  | "ifne" => some (.ifNonzero (readTarget operands))
  | "if_icmpge" => some (.ifCompare .greaterOrEqual (readTarget operands))
  | "if_icmpgt" => some (.ifCompare .greater (readTarget operands))
  | "goto" => some (.goto (readTarget operands))
  | _ => none

/-- The instruction that a line shows. -/
def ofLine? (readTarget : List Char → τ) (line : String) : Option (Instruction τ) :=
  let chars := line.toList
  ofWords? readTarget (String.ofList (chars.takeWhile inMnemonic)) (chars.dropWhile inMnemonic)

theorem inMnemonic_of_mem (instruction : Instruction τ) :
    ∀ c ∈ instruction.mnemonic.toList, inMnemonic c := by
  cases instruction with
  | arithmetic op => cases op <;> simp [mnemonic, Arithmetic.mnemonic, inMnemonic]
  | ifCompare comparison _ => cases comparison <;> simp [mnemonic, Comparison.mnemonic, inMnemonic]
  | _ => simp [mnemonic, inMnemonic]

theorem not_inMnemonic_of_head? (writeTarget : τ → String) (instruction : Instruction τ) :
    ∀ c ∈ (instruction.operands writeTarget).toList.head?, ¬ inMnemonic c := by
  have hslot : ∀ (slot : UInt8), ∀ c ∈ (toString slot.toNat).toList.head?, ¬ inMnemonic c := by
    intro slot c hc
    have hdigit := isDigit_of_mem_toString (List.mem_of_mem_head? hc)
    simp [inMnemonic, hdigit]
  cases instruction with
  | store slot => exact hslot slot
  | load slot => exact hslot slot
  | _ => simp [operands, inMnemonic]

theorem readNat_display (index : Pool.Index) :
    (⟨.ofNat (Text.readNat (" " ++ index.display).toList)⟩ : Pool.Index) = index := by
  have hfront :
      (" " ++ index.display).toList = [' ', '#'] ++ (toString index.number.toNat).toList := by
    simp only [Pool.Index.display, String.toList_append]
    rfl
  rw [hfront, Text.readNat_append _ (by simp), UInt16.ofNat_toNat]

theorem readNat_slot (slot : UInt8) :
    UInt8.ofNat (Text.readNat (toString slot.toNat).toList) = slot := by
  rw [← List.nil_append (toString slot.toNat).toList, Text.readNat_append _ (by simp),
    UInt8.ofNat_toNat]

/-- The number before the second blank is the slot, the number behind it what is added. -/
theorem readNumbers_increment (slot : UInt8) (delta : Int8) :
    let numbers := (" " ++ toString slot.toNat ++ " " ++ toString delta.toInt).toList.drop 1
    UInt8.ofNat (Text.readNat (numbers.takeWhile (· ≠ ' '))) = slot ∧
      Int8.ofInt (Text.readInt (numbers.dropWhile (· ≠ ' '))) = delta := by
  have hnumbers : (" " ++ toString slot.toNat ++ " " ++ toString delta.toInt).toList.drop 1 =
      (toString slot.toNat).toList ++ ' ' :: (toString delta.toInt).toList := by
    simp only [String.toList_append, List.append_assoc]
    rfl
  obtain ⟨hfirst, hsecond⟩ := Text.takeWhile_ne_append
    (notMem_toString (c := ' ') (by decide) slot.toNat) (toString delta.toInt).toList
  have hdelta : Text.readInt (' ' :: (toString delta.toInt).toList) = delta.toInt :=
    Text.readInt_append [' '] (by simp) delta.toInt
  intro numbers
  constructor
  · rw [show numbers = _ from hnumbers, hfirst, readNat_slot]
  · rw [show numbers = _ from hnumbers, hsecond, hdelta, Int8.ofInt_toInt]

theorem ofWords?_words (hread : ∀ target, readTarget (" " ++ writeTarget target).toList = target)
    (instruction : Instruction τ) :
    ofWords? readTarget instruction.mnemonic (instruction.operands writeTarget).toList =
      some instruction := by
  cases instruction with
  | getStatic index =>
      exact congrArg (fun index => some (getStatic index)) (readNat_display index)
  | loadConstant index =>
      exact congrArg (fun index => some (loadConstant index)) (readNat_display index)
  | invokeVirtual index =>
      exact congrArg (fun index => some (invokeVirtual index)) (readNat_display index)
  | invokeStatic index =>
      exact congrArg (fun index => some (invokeStatic index)) (readNat_display index)
  | returnNothing => rfl
  | returnValue => rfl
  | push value =>
      have hvalue : Int32.ofInt (Text.readInt (" " ++ toString value.toInt).toList) = value := by
        rw [String.toList_append, Text.readInt_append _ (by simp), Int32.ofInt_toInt]
      exact congrArg (fun value => some (push value)) hvalue
  | arithmetic op => cases op <;> rfl
  | store slot => exact congrArg (fun slot => some (store slot)) (readNat_slot slot)
  | load slot => exact congrArg (fun slot => some (load slot)) (readNat_slot slot)
  | increment slot delta =>
      obtain ⟨hslot, hdelta⟩ := readNumbers_increment slot delta
      exact congrArg₂ (fun slot delta => some (increment slot delta)) hslot hdelta
  | ifNonzero target => exact congrArg (fun target => some (ifNonzero target)) (hread target)
  | ifCompare comparison target =>
      cases comparison <;>
        exact congrArg (fun target => some (ifCompare _ target)) (hread target)
  | goto target => exact congrArg (fun target => some (goto target)) (hread target)

/-- The line of an instruction can be read back. -/
theorem ofLine?_displayWith
    (hread : ∀ target, readTarget (" " ++ writeTarget target).toList = target)
    (instruction : Instruction τ) :
    ofLine? readTarget (instruction.displayWith writeTarget) = some instruction := by
  obtain ⟨hmnemonic, hoperands⟩ := Text.takeWhile_append instruction.inMnemonic_of_mem
    (instruction.not_inMnemonic_of_head? writeTarget)
  simp only [ofLine?, displayWith_eq, String.toList_append, hmnemonic, hoperands,
    String.ofList_toList, ofWords?_words hread]

theorem displayWith_injective (readTarget : List Char → τ)
    (hread : ∀ target, readTarget (" " ++ writeTarget target).toList = target) :
    Function.Injective (displayWith writeTarget) := by
  intro first second h
  have hlines := congrArg (ofLine? readTarget) h
  rwa [ofLine?_displayWith hread, ofLine?_displayWith hread, Option.some.injEq] at hlines

theorem display_injective : Function.Injective display := by
  apply displayWith_injective Text.readNat
  intro index
  rw [String.toList_append]
  exact Text.readNat_append _ (by simp) index

theorem displayRaw_injective : Function.Injective displayRaw := by
  apply displayWith_injective fun text => Int16.ofInt (Text.readInt text)
  intro distance
  rw [String.toList_append, Text.readInt_append _ (by simp), Int16.ofInt_toInt]

/-! ## Lines -/

theorem newline_notMem_display (instruction : Instruction Nat) :
    '\n' ∉ instruction.display.toList := by
  have hnat := notMem_toString (c := '\n') (by decide)
  have hint : ∀ number : Int, '\n' ∉ (toString number).toList := by
    intro number
    rw [toList_toString_int]
    refine List.not_mem_append ?_ (hnat number.natAbs)
    split <;> decide
  rw [display, displayWith_eq, String.toList_append]
  refine List.not_mem_append ?_ ?_
  · intro hmem
    exact absurd (instruction.inMnemonic_of_mem _ hmem) (by decide)
  · cases instruction <;>
      simp only [operands, Pool.Index.display, String.toList_append, List.mem_append, hnat, hint,
        or_false] <;> simp

end Instruction

theorem toList_joinLines_cons (line : String) (lines : List String) :
    (joinLines (line :: lines)).toList = line.toList ++ '\n' :: (joinLines lines).toList := by
  simp [joinLines, String.toList_join]

theorem joinLines_append (first second : List String) :
    joinLines (first ++ second) = joinLines first ++ joinLines second := by
  simp [joinLines, String.join_append]

/-- Lines can be told apart in a text if no line has the end of a line inside it. -/
theorem joinLines_injective {first second : List String}
    (hfirst : ∀ line ∈ first, '\n' ∉ line.toList) (hsecond : ∀ line ∈ second, '\n' ∉ line.toList)
    (h : joinLines first = joinLines second) : first = second := by
  rw [← String.toList_inj] at h
  induction first generalizing second with
  | nil =>
      cases second with
      | nil => rfl
      | cons line lines => simp [joinLines] at h
  | cons line lines ih =>
      cases second with
      | nil => simp [joinLines] at h
      | cons line' lines' =>
          rw [List.forall_mem_cons] at hfirst hsecond
          rw [toList_joinLines_cons, toList_joinLines_cons] at h
          -- Both texts are cut at their first end of a line.
          have hcut := Text.takeWhile_ne_append hfirst.1 (joinLines lines).toList
          have hcut' := Text.takeWhile_ne_append hsecond.1 (joinLines lines').toList
          rw [h] at hcut
          have hline : line = line' := String.toList_inj.1 (hcut.1.symm.trans hcut'.1)
          have hrest := List.tail_eq_of_cons_eq (hcut.2.symm.trans hcut'.2)
          rw [hline, ih hfirst.2 hsecond.2 hrest]

/-- The number of its line can be taken off each instruction of a listing. -/
theorem map_display_of_numbered {first second : List (Instruction Nat)} (front : Nat → String)
    (start : Nat)
    (h : (first.zipIdx start).map (fun (instruction, index) => front index ++ instruction.display) =
      (second.zipIdx start).map fun (instruction, index) => front index ++ instruction.display) :
    first.map Instruction.display = second.map Instruction.display := by
  induction first generalizing second start with
  | nil =>
      cases second with
      | nil => rfl
      | cons _ _ => simp at h
  | cons instruction rest ih =>
      cases second with
      | nil => simp at h
      | cons instruction' rest' =>
          simp only [List.zipIdx_cons, List.map_cons, List.cons.injEq, String.append_right_inj] at h
          rw [List.map_cons, List.map_cons, h.1, ih (start + 1) h.2]

theorem newline_notMem_instructionListing {instructions : List (Instruction Nat)} :
    ∀ line ∈ instructionListing instructions, '\n' ∉ line.toList := by
  intro line hline
  obtain ⟨⟨instruction, index⟩, -, rfl⟩ := List.mem_map.1 hline
  have hindex := notMem_toString (c := '\n') (by decide) index
  simp only [Text.alignRight, List.leftpad, String.toList_append, String.toList_ofList,
    List.mem_append, hindex, instruction.newline_notMem_display, or_false]
  simp

theorem instructionListing_injective : Function.Injective instructionListing := by
  intro first second h
  have hdisplay :=
    map_display_of_numbered (fun index => Text.alignRight 4 (toString index) ++ ": ") 0 h
  exact (List.map_inj_right fun _ _ heq => Instruction.display_injective heq).1 hdisplay

/-- Instructions with the same lines are the same, resolved or not. Codes whose listings under one
heading are the same text are decoded to the same instructions. -/
theorem instructions_eq_of_listings_eq :
    (∀ first second : List (Instruction Nat),
      first.map Instruction.display = second.map Instruction.display → first = second) ∧
    (∀ first second : List (Instruction Int16),
      first.map Instruction.displayRaw = second.map Instruction.displayRaw → first = second) ∧
    ∀ (code code' : List UInt8) (first second : List (Instruction Nat)) (heading : List String),
      (Code.decode code).outcome = .ok first → (Code.decode code').outcome = .ok second →
      joinLines (heading ++ instructionListing first) =
        joinLines (heading ++ instructionListing second) →
      (Code.decode code).outcome = (Code.decode code').outcome := by
  refine ⟨fun first second h => ?_, fun first second h => ?_, ?_⟩
  · exact (List.map_inj_right fun _ _ heq => Instruction.display_injective heq).1 h
  · exact (List.map_inj_right fun _ _ heq => Instruction.displayRaw_injective heq).1 h
  · intro code code' first second heading hfirst hsecond h
    rw [joinLines_append, joinLines_append, String.append_right_inj] at h
    have hlines := joinLines_injective newline_notMem_instructionListing
      newline_notMem_instructionListing h
    rw [hfirst, hsecond, instructionListing_injective hlines]

/-- A constant with an opcode of its own and the same constant in a byte of its own. -/
theorem instructions_eq_of_listings_eq_constants :
    ([0x04, 0xAC] : List UInt8) ≠ [0x10, 0x01, 0xAC] ∧
      (Code.decode [0x04, 0xAC]).outcome = (Code.decode [0x10, 0x01, 0xAC]).outcome := by
  refine ⟨by decide, ?_⟩
  have hshort : (Code.decode [0x04, 0xAC]).outcome = .ok [.push 1, .returnValue] := by
    decide +kernel
  have hlong : (Code.decode [0x10, 0x01, 0xAC]).outcome = .ok [.push 1, .returnValue] := by
    decide +kernel
  exact instructions_eq_of_listings_eq.2.2 _ _ _ _ ["main:"] hshort hlong rfl

end ClassVM
