import ClassVM.Descriptor
import ClassVM.Proofs.PlainClusters

/-! # The grammar of descriptors

A type is written as a letter, as a class name between `L` and `;`, or as `[` before the type of the
elements. The reader takes exactly the clusters that spell a type, so a descriptor that is read and
written again is the same text. In ASCII, where clusters are single characters or the end of a line,
every written descriptor is read back, unless a parameter is of the type `V` or a class name has a
`;` in it. -/

namespace ClassVM

open Text

/-! ## Types -/

namespace ValueType

/-- The letter of a type that is written as a single letter. -/
def letter? : ValueType → Option Char
  | .void => some 'V'
  | .byte => some 'B'
  | .char => some 'C'
  | .int => some 'I'
  | .long => some 'J'
  | .float => some 'F'
  | .double => some 'D'
  | .short => some 'S'
  | .boolean => some 'Z'
  | .reference _ | .array _ => none

/-- A type as it is written. -/
def render : ValueType → String
  | .reference name => "L" ++ name ++ ";"
  | .array element => "[" ++ element.render
  | type => String.ofList type.letter?.toList

/-- The class names in a type. -/
def classNames : ValueType → List String
  | .reference name => [name]
  | .array element => element.classNames
  | _ => []

/-- The clusters spell the type. A class name ends at the first cluster that is a `;`. -/
inductive SpeltBy : ValueType → List Cluster → Prop
  | letter {type : ValueType} {c : Char} (stands : type.letter? = some c) : SpeltBy type [[c]]
  | reference {name : List Cluster} (unended : [';'] ∉ name) :
      SpeltBy (.reference (String.ofList name.flatten)) (['L'] :: (name ++ [[';']]))
  | array {element : ValueType} {front : List Cluster} (inner : SpeltBy element front) :
      SpeltBy (.array element) (['['] :: front)

/-- The clusters spell the types one after another, and none of them is the type `V`. -/
inductive AllSpeltBy : List ValueType → List Cluster → Prop
  | nil : AllSpeltBy [] []
  | cons {first : ValueType} {others : List ValueType} {front back : List Cluster}
      (head : first.SpeltBy front) (notVoid : first ≠ .void) (tail : AllSpeltBy others back) :
      AllSpeltBy (first :: others) (front ++ back)

variable {type : ValueType} {front text after : List Cluster}

theorem ofLetter_eq_some_iff {cluster : Cluster} :
    ofLetter cluster = some type ↔ ∃ c, type.letter? = some c ∧ cluster = [c] := by
  constructor
  · intro h
    unfold ofLetter at h
    split at h <;> cases h <;> exact ⟨_, rfl, rfl⟩
  · rintro ⟨c, hletter, rfl⟩
    cases type <;> cases hletter <;> rfl

theorem toList_render_of_letter {c : Char} (h : type.letter? = some c) :
    type.render.toList = [c] := by
  cases type <;> cases h <;> rfl

theorem classNames_of_letter {c : Char} (h : type.letter? = some c) : type.classNames = [] := by
  cases type <;> cases h <;> rfl

/-- A letter of a type neither opens nor closes anything, and is not the start of a line's end. -/
theorem letter_ne {c : Char} (h : type.letter? = some c) :
    c ≠ '[' ∧ c ≠ 'L' ∧ c ≠ ')' ∧ c ≠ '\r' := by
  cases type <;> cases h <;> decide

theorem splitAt?_eq_some_iff {stop : Cluster} {before : List Cluster} :
    splitAt? stop text = some (before, after) ↔ stop ∉ before ∧ text = before ++ stop :: after := by
  constructor
  · intro h
    induction text generalizing before with
    | nil => cases h
    | cons cluster rest ih =>
        rw [splitAt?] at h
        split at h
        · next hstop =>
            cases h
            exact ⟨List.not_mem_nil, by rw [hstop, List.nil_append]⟩
        · next hother =>
            obtain ⟨⟨name, left⟩, hsplit, heq⟩ := Option.map_eq_some_iff.1 h
            cases heq
            obtain ⟨hname, rfl⟩ := ih hsplit
            exact ⟨List.not_mem_cons_of_ne_of_not_mem (Ne.symm hother) hname, rfl⟩
  · rintro ⟨hbefore, rfl⟩
    induction before with
    | nil => simp [splitAt?]
    | cons cluster before ih =>
        obtain ⟨hother, hbefore⟩ := List.ne_and_not_mem_of_not_mem_cons hbefore
        rw [List.cons_append, splitAt?, if_neg hother.symm, ih hbefore]
        rfl

theorem speltBy_of_parse (h : parse text = (some type, after)) :
    ∃ front, type.SpeltBy front ∧ text = front ++ after := by
  induction text generalizing type after with
  | nil => cases h
  | cons cluster rest ih =>
      rw [parse] at h
      split at h
      · next hbracket =>
          obtain ⟨helement, rfl⟩ := Prod.mk.inj h
          obtain ⟨element, hparse, rfl⟩ := Option.map_eq_some_iff.1 helement
          obtain ⟨front, hfront, hrest⟩ := ih (Prod.ext hparse rfl)
          refine ⟨['['] :: front, .array hfront, ?_⟩
          rw [hbracket, List.cons_append, ← hrest]
      · split at h
        · next hclass =>
            split at h
            · cases h
            · next name left hsplit =>
                cases h
                obtain ⟨hname, rfl⟩ := splitAt?_eq_some_iff.1 hsplit
                exact ⟨_, .reference hname, by simp [hclass]⟩
        · obtain ⟨hletter, rfl⟩ := Prod.mk.inj h
          obtain ⟨c, hstands, rfl⟩ := ofLetter_eq_some_iff.1 hletter
          exact ⟨[[c]], .letter hstands, rfl⟩

/-- A type that is spelt out is read, and nothing behind it is touched. -/
theorem SpeltBy.parse_append (h : type.SpeltBy front) (after : List Cluster) :
    parse (front ++ after) = (some type, after) := by
  induction h with
  | @letter type c stands =>
      obtain ⟨hbracket, hclass, -⟩ := letter_ne stands
      have hletter := ofLetter_eq_some_iff.2 ⟨c, stands, rfl⟩
      simp [parse, hbracket, hclass, hletter]
  | @reference name unended =>
      have hsplit := splitAt?_eq_some_iff.2 ⟨unended, (rfl : name ++ [';'] :: after = _)⟩
      simp [parse, hsplit]
  | array inner ih => simp [parse, ih]

/-- Reading a type takes the clusters that spell it, and only them. -/
theorem parse_eq_some_iff :
    parse text = (some type, after) ↔ ∃ front, type.SpeltBy front ∧ text = front ++ after := by
  constructor
  · exact speltBy_of_parse
  · rintro ⟨front, hfront, rfl⟩
    exact hfront.parse_append after

/-- What spells a type does not start by closing the parameters. -/
theorem SpeltBy.exists_cons (h : type.SpeltBy front) :
    ∃ cluster rest, front = cluster :: rest ∧ cluster ≠ [')'] := by
  cases h with
  | letter stands => exact ⟨_, [], rfl, by simpa using (letter_ne stands).2.2.1⟩
  | reference _ => exact ⟨['L'], _, rfl, by decide⟩
  | array _ => exact ⟨['['], _, rfl, by decide⟩

/-- A type that is spelt out by clusters is written as their characters. -/
theorem SpeltBy.flatten_eq (h : type.SpeltBy front) : front.flatten = type.render.toList := by
  induction h with
  | letter stands => simp [toList_render_of_letter stands]
  | reference _ => simp [render]
  | array _ ih => simp [render, ih]

variable {parameters : List ValueType} {rest : List Char}

theorem AllSpeltBy.flatten_eq (h : AllSpeltBy parameters front) :
    front.flatten = parameters.flatMap fun type => type.render.toList := by
  induction h with
  | nil => rfl
  | cons head _ _ ih => rw [List.flatten_append, head.flatten_eq, ih, List.flatMap_cons]

/-! ## Types in plain clusters -/

theorem exists_speltBy_of_letter {c : Char} (hplain : ∀ cluster ∈ text, cluster.Plain)
    (hletter : type.letter? = some c) (h : text.flatten = type.render.toList ++ rest) :
    ∃ front after, type.SpeltBy front ∧ text = front ++ after ∧ after.flatten = rest := by
  rw [toList_render_of_letter hletter] at h
  obtain ⟨after, rfl, hafter⟩ := exists_cons_of_flatten hplain (letter_ne hletter).2.2.2 h
  exact ⟨[[c]], after, .letter hletter, rfl, hafter⟩

/-- Plain clusters whose characters start with a type as it is written start by spelling it. -/
theorem exists_speltBy (hplain : ∀ cluster ∈ text, cluster.Plain)
    (hnames : ∀ name ∈ type.classNames, ';' ∉ name.toList)
    (h : text.flatten = type.render.toList ++ rest) :
    ∃ front after, type.SpeltBy front ∧ text = front ++ after ∧ after.flatten = rest := by
  induction type generalizing text with
  | reference name =>
      have hname : ';' ∉ name.toList := hnames name (List.mem_singleton_self name)
      have hwritten : text.flatten = 'L' :: (name.toList ++ ';' :: rest) := by simpa [render] using h
      obtain ⟨behind, rfl, hbehind⟩ := exists_cons_of_flatten hplain (by decide) hwritten
      have hplain := (List.forall_mem_cons.1 hplain).2
      obtain ⟨front, after, rfl, hfront, hafter⟩ := exists_append_of_flatten hplain hname hbehind
      have hunended : [';'] ∉ front := by
        intro hmem
        apply hname
        rw [← hfront]
        exact List.mem_flatten.2 ⟨[';'], hmem, List.mem_singleton_self ';'⟩
      have hspelt := SpeltBy.reference hunended
      rw [hfront, String.ofList_toList] at hspelt
      exact ⟨_, after, hspelt, by simp, hafter⟩
  | array element ih =>
      have hwritten : text.flatten = '[' :: (element.render.toList ++ rest) := by
        simpa [render] using h
      obtain ⟨behind, rfl, hbehind⟩ := exists_cons_of_flatten hplain (by decide) hwritten
      have hplain := (List.forall_mem_cons.1 hplain).2
      obtain ⟨front, after, hfront, rfl, hafter⟩ := ih hplain hnames hbehind
      exact ⟨['['] :: front, after, .array hfront, rfl, hafter⟩
  | _ => exact exists_speltBy_of_letter hplain rfl h

theorem exists_allSpeltBy (hplain : ∀ cluster ∈ text, cluster.Plain)
    (hvoid : ∀ type ∈ parameters, type ≠ .void)
    (hnames : ∀ name ∈ parameters.flatMap classNames, ';' ∉ name.toList)
    (h : text.flatten = parameters.flatMap (fun type => type.render.toList) ++ rest) :
    ∃ front after, AllSpeltBy parameters front ∧ text = front ++ after ∧
      after.flatten = rest := by
  induction parameters generalizing text with
  | nil => exact ⟨[], text, .nil, rfl, h⟩
  | cons first others ih =>
      obtain ⟨hfirst, hothers⟩ := List.forall_mem_cons.1 hvoid
      rw [List.flatMap_cons] at hnames
      obtain ⟨hnamesFirst, hnamesOthers⟩ := List.forall_mem_append.1 hnames
      rw [List.flatMap_cons, List.append_assoc] at h
      obtain ⟨front, behind, hfront, rfl, hbehind⟩ := exists_speltBy hplain hnamesFirst h
      have hplain := (List.forall_mem_append.1 hplain).2
      obtain ⟨back, after, hback, rfl, hafter⟩ := ih hplain hothers hnamesOthers hbehind
      refine ⟨front ++ back, after, .cons hfront hfirst hback, ?_, hafter⟩
      rw [List.append_assoc]

theorem SpeltBy.classNames_closed (h : type.SpeltBy front)
    (hplain : ∀ cluster ∈ front, cluster.Plain) :
    ∀ name ∈ type.classNames, ';' ∉ name.toList := by
  induction h with
  | letter stands => simp [classNames_of_letter stands]
  | @reference name unended =>
      intro text htext
      have hname : ∀ cluster ∈ name, cluster.Plain := by
        intro cluster hcluster
        exact hplain cluster (by simp [hcluster])
      rw [List.mem_singleton.1 htext, String.toList_ofList]
      exact not_mem_flatten hname unended
  | array _ ih => exact ih (List.forall_mem_cons.1 hplain).2

theorem AllSpeltBy.ne_void (h : AllSpeltBy parameters front) :
    ∀ type ∈ parameters, type ≠ .void := by
  induction h with
  | nil => simp
  | cons _ notVoid _ ih => exact List.forall_mem_cons.2 ⟨notVoid, ih⟩

theorem AllSpeltBy.classNames_closed (h : AllSpeltBy parameters front)
    (hplain : ∀ cluster ∈ front, cluster.Plain) :
    ∀ name ∈ parameters.flatMap classNames, ';' ∉ name.toList := by
  induction h with
  | nil => simp
  | cons head _ _ ih =>
      obtain ⟨hfront, hback⟩ := List.forall_mem_append.1 hplain
      rw [List.flatMap_cons]
      exact List.forall_mem_append.2 ⟨head.classNames_closed hfront, ih hback⟩

end ValueType

/-! ## Descriptors -/

namespace Descriptor

open ValueType (AllSpeltBy)

/-- A descriptor as it is written. -/
def render (descriptor : Descriptor) : String :=
  "(" ++ String.join (descriptor.parameters.map ValueType.render) ++ ")" ++ descriptor.result.render

/-- The class names in a descriptor. -/
def classNames (descriptor : Descriptor) : List String :=
  descriptor.parameters.flatMap ValueType.classNames ++ descriptor.result.classNames

/-- The clusters spell the descriptor. -/
inductive SpeltBy : Descriptor → List Cluster → Prop
  | intro {parameters : List ValueType} {result : ValueType} {front back : List Cluster}
      (takes : AllSpeltBy parameters front) (gives : result.SpeltBy back) :
      SpeltBy ⟨parameters, result⟩ (['('] :: (front ++ [')'] :: back))

variable {descriptor : Descriptor} {text after : List Cluster} {parameters : List ValueType}

theorem parseParameters_of_parse {cluster : Cluster} {rest : List Cluster} {first : ValueType}
    (hopen : cluster ≠ [')']) (hparse : ValueType.parse (cluster :: rest) = (some first, after))
    (hvoid : first ≠ .void) :
    parseParameters (cluster :: rest) =
      (parseParameters after).map fun (others, left) => (first :: others, left) := by
  rw [parseParameters, if_neg hopen]
  split
  · next heq => simp [hparse] at heq
  · next heq => simp [hparse, hvoid] at heq
  · next heq =>
      rw [hparse] at heq
      cases heq
      split
      · next hnone => rw [hnone]; rfl
      · next hsome => rw [hsome]; rfl

theorem allSpeltBy_of_parseParameters (h : parseParameters text = some (parameters, after)) :
    ∃ front, AllSpeltBy parameters front ∧ text = front ++ [')'] :: after := by
  fun_induction parseParameters text generalizing parameters with
  | case1 => cases h
  | case2 rest =>
      cases h
      exact ⟨[], .nil, rfl⟩
  | case3 => cases h
  | case4 => cases h
  | case5 => cases h
  | case6 cluster rest hopen first behind hvoid hparse others left hothers ih =>
      cases h
      obtain ⟨front, hfirst, htext⟩ := ValueType.parse_eq_some_iff.1 hparse
      obtain ⟨back, hback, rfl⟩ := ih hothers
      refine ⟨front ++ back, .cons hfirst hvoid hback, ?_⟩
      rw [htext, List.append_assoc]

theorem parseParameters_append {front : List Cluster}
    (h : AllSpeltBy parameters front) (after : List Cluster) :
    parseParameters (front ++ [')'] :: after) = some (parameters, after) := by
  induction h with
  | nil => simp [parseParameters]
  | @cons first others front back head notVoid tail ih =>
      have hparse := head.parse_append (back ++ [')'] :: after)
      obtain ⟨cluster, rest, rfl, hopen⟩ := head.exists_cons
      rw [List.append_assoc, List.cons_append]
      rw [List.cons_append] at hparse
      rw [parseParameters_of_parse hopen hparse notVoid, ih]
      rfl

/-- A descriptor is read from the clusters that spell it, and from no others. -/
theorem ofClusters?_eq_some_iff :
    ofClusters? text = some descriptor ↔ descriptor.SpeltBy text := by
  constructor
  · intro h
    unfold ofClusters? at h
    split at h
    · cases h
    · split at h
      · next hopens =>
          split at h
          · cases h
          · next parameters behind htakes =>
              split at h
              · next result hgives =>
                  cases h
                  obtain ⟨front, hfront, rfl⟩ := allSpeltBy_of_parseParameters htakes
                  obtain ⟨back, hback, rfl⟩ := ValueType.parse_eq_some_iff.1 hgives
                  rw [hopens, List.append_nil]
                  exact .intro hfront hback
              · cases h
      · cases h
  · rintro ⟨takes, gives⟩
    have hgives := gives.parse_append []
    rw [List.append_nil] at hgives
    simp [ofClusters?, parseParameters_append takes, hgives]

theorem parse_eq_ok_iff {segment : Segmenter} {text : String} :
    parse segment text = .ok descriptor ↔ descriptor.SpeltBy (segment text) := by
  rw [← ofClusters?_eq_some_iff, parse]
  cases ofClusters? (segment text) with
  | none => simp
  | some found => simp

theorem toList_render (descriptor : Descriptor) :
    descriptor.render.toList =
      '(' :: (descriptor.parameters.flatMap (fun type => type.render.toList) ++
        ')' :: descriptor.result.render.toList) := by
  simp [render, List.flatMap_map]

/-- A descriptor that is spelt out by clusters is written as their characters. -/
theorem SpeltBy.flatten_eq (h : descriptor.SpeltBy text) :
    text.flatten = descriptor.render.toList := by
  obtain ⟨takes, gives⟩ := h
  simp [toList_render, takes.flatten_eq, gives.flatten_eq]

/-- No parameter is of the type `V`, and no class name has a `;` in it. -/
structure Readable (descriptor : Descriptor) : Prop where
  parameters : ∀ type ∈ descriptor.parameters, type ≠ .void
  classNames : ∀ name ∈ descriptor.classNames, ';' ∉ name.toList

theorem SpeltBy.readable (h : descriptor.SpeltBy text)
    (hplain : ∀ cluster ∈ text, cluster.Plain) : descriptor.Readable := by
  obtain ⟨takes, gives⟩ := h
  obtain ⟨hfront, hbehind⟩ := List.forall_mem_append.1 (List.forall_mem_cons.1 hplain).2
  have hnames := takes.classNames_closed hfront
  have hresult := gives.classNames_closed (List.forall_mem_cons.1 hbehind).2
  exact ⟨takes.ne_void, List.forall_mem_append.2 ⟨hnames, hresult⟩⟩

theorem speltBy_of_flatten (hplain : ∀ cluster ∈ text, cluster.Plain)
    (hreadable : descriptor.Readable) (h : text.flatten = descriptor.render.toList) :
    descriptor.SpeltBy text := by
  obtain ⟨parameters, result⟩ := descriptor
  obtain ⟨hnamesParameters, hnamesResult⟩ := List.forall_mem_append.1 hreadable.classNames
  rw [toList_render] at h
  obtain ⟨behind, rfl, hbehind⟩ := exists_cons_of_flatten hplain (by decide) h
  have hplain := (List.forall_mem_cons.1 hplain).2
  obtain ⟨front, closing, hfront, rfl, hclosing⟩ :=
    ValueType.exists_allSpeltBy hplain hreadable.parameters hnamesParameters hbehind
  have hplain := (List.forall_mem_append.1 hplain).2
  obtain ⟨last, rfl, hlast⟩ := exists_cons_of_flatten hplain (by decide) hclosing
  have hplain := (List.forall_mem_cons.1 hplain).2
  rw [← List.append_nil (ValueType.render _).toList] at hlast
  obtain ⟨back, after, hback, rfl, hafter⟩ :=
    ValueType.exists_speltBy hplain hnamesResult hlast
  have hnil := eq_nil_of_flatten (List.forall_mem_append.1 hplain).2 hafter
  rw [hnil, List.append_nil]
  exact .intro hfront hback

/-- A descriptor is read from plain clusters exactly if they say what is written for it, and it is
one that can be read back. -/
theorem speltBy_iff_flatten (hplain : ∀ cluster ∈ text, cluster.Plain) :
    descriptor.SpeltBy text ↔
      text.flatten = descriptor.render.toList ∧ descriptor.Readable := by
  constructor
  · intro h
    exact ⟨h.flatten_eq, h.readable hplain⟩
  · rintro ⟨hflatten, hreadable⟩
    exact speltBy_of_flatten hplain hreadable hflatten

variable {segment : Segmenter} {text : String}

/-- A descriptor that is read from a text is written as this text, with nothing left out. -/
theorem render_of_parse (hlossless : segment.Lossless text)
    (h : parse segment text = .ok descriptor) : descriptor.render = text := by
  have hflatten := (parse_eq_ok_iff.1 h).flatten_eq
  rw [hlossless] at hflatten
  exact (String.toList_inj.1 hflatten).symm

/-- An ASCII text is read as the descriptors that are written as this text and can be read back. -/
theorem parse_eq_ok_iff_render (hcuts : segment.CutsAscii text) (hascii : Text.IsAscii text) :
    parse segment text = .ok descriptor ↔ text = descriptor.render ∧ descriptor.Readable := by
  rw [parse_eq_ok_iff, hcuts hascii, speltBy_iff_flatten plain_of_mem_plainClusters,
    flatten_plainClusters, String.toList_inj]

/-- However texts are cut into clusters: if nothing of a text is lost, a descriptor that is read
from it is written as this text, with nothing left out. If an ASCII text is cut into single
characters and ends of lines, it is read as a descriptor exactly if it is what is written for the
descriptor, no parameter is of the type `V`, and no class name has a `;` in it. -/
theorem parse_inverts_render (segment : Segmenter) (text : String) (descriptor : Descriptor) :
    (segment.Lossless text → parse segment text = .ok descriptor → descriptor.render = text) ∧
    (segment.CutsAscii text → Text.IsAscii text →
      (parse segment text = .ok descriptor ↔ text = descriptor.render ∧ descriptor.Readable)) :=
  ⟨render_of_parse, parse_eq_ok_iff_render⟩

/-- Arrays of arrays, and a class name with the end of a line in it, by extended grapheme
clusters. -/
theorem parse_inverts_render_lineInName :
    Text.IsAscii "([[La\r\nb;I)[V" ∧
      parse clusters "([[La\r\nb;I)[V" =
        .ok ⟨[.array (.array (.reference "a\r\nb")), .int], .array .void⟩ ∧
      (⟨[.array (.array (.reference "a\r\nb")), .int], .array .void⟩ : Descriptor).render =
        "([[La\r\nb;I)[V" := by
  have hascii : Text.IsAscii "([[La\r\nb;I)[V" := by decide +kernel
  have hparse : parse clusters "([[La\r\nb;I)[V" =
      .ok ⟨[.array (.array (.reference "a\r\nb")), .int], .array .void⟩ := by
    apply ((parse_inverts_render clusters _ _).2 (cutsAscii_clusters _) hascii).2
    exact ⟨by decide +kernel, by decide +kernel, by decide +kernel⟩
  exact ⟨hascii, hparse, (parse_inverts_render clusters _ _).1 (lossless_clusters _) hparse⟩

end Descriptor

end ClassVM
