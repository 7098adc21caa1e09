import ClassVM.ClassFile.Reader
import ClassVM.Proofs.CursorReads
import Mathlib.Data.List.Forall2

/-! # What readers recognize

A language gives every value the blocks of bytes that may stand for it. A reader recognizes a
language if it finds a value exactly where one of the value's blocks lies ahead, and then stands
behind that block. Both directions are stated at once, so they are proved together for each way of
putting readers together, and never again for a reader that is put together. -/

namespace ClassVM

namespace ClassFile

/-- The blocks that may stand for each value. -/
abbrev Language (α : Type) := α → List UInt8 → Prop

namespace Language

variable {α β : Type}

/-- One value, written as nothing. -/
def silent (a : α) : Language α := fun found block => found = a ∧ block = []

/-- A value written by the one language, then one written by the language it leads to. -/
def andThen (first : Language α) (next : α → Language β) : Language β := fun b block =>
  ∃ a front back, first a front ∧ next a b back ∧ block = front ++ back

/-- The values of a language, changed. -/
def map (f : α → β) (language : Language α) : Language β := fun b block =>
  ∃ a, language a block ∧ f a = b

/-- As many values as given, one after another. -/
def repeated (language : Language α) (count : Nat) : Language (List α) := fun values block =>
  values.length = count ∧ ∃ blocks, List.Forall₂ language values blocks ∧ block = blocks.flatten

/-- If a value is written together with something that is not part of it, then a list of values is
written together with a list of such things. -/
theorem repeated_iff_zipWith {ε : Type} {language : Language α} {Fits : α → ε → Prop}
    {written : α → ε → List UInt8}
    (h : ∀ a block, language a block ↔ ∃ e, Fits a e ∧ block = written a e)
    {count : Nat} {values : List α} {block : List UInt8} :
    language.repeated count values block ↔
      values.length = count ∧ ∃ extras, List.Forall₂ Fits values extras ∧
        block = (List.zipWith written values extras).flatten := by
  have hall : (∃ blocks, List.Forall₂ language values blocks ∧ block = blocks.flatten) ↔
      ∃ extras, List.Forall₂ Fits values extras ∧
        block = (List.zipWith written values extras).flatten := by
    induction values generalizing block with
    | nil => simp
    | cons first rest ih =>
        constructor
        · rintro ⟨_, hblocks, rfl⟩
          cases hblocks with
          | @cons _ front _ blocks hfirst hrest =>
              obtain ⟨e, he, rfl⟩ := (h first front).1 hfirst
              obtain ⟨extras, hextras, hflat⟩ := ih.1 ⟨blocks, hrest, rfl⟩
              exact ⟨e :: extras, .cons he hextras, by simp [hflat]⟩
        · rintro ⟨_, hextras, rfl⟩
          cases hextras with
          | @cons _ e _ extras he hrest =>
              obtain ⟨blocks, hblocks, hflat⟩ := ih.2 ⟨extras, hrest, rfl⟩
              exact ⟨written first e :: blocks, .cons ((h _ _).2 ⟨e, he, rfl⟩) hblocks,
                by simp [hflat]⟩
  rw [repeated, hall]

/-- If each value is written in one way, then a list of values is written in one way. -/
theorem repeated_iff_flatMap {language : Language α} {Fits : α → Prop}
    {written : α → List UInt8}
    (h : ∀ a block, language a block ↔ Fits a ∧ block = written a)
    {count : Nat} {values : List α} {block : List UInt8} :
    language.repeated count values block ↔
      values.length = count ∧ (∀ a ∈ values, Fits a) ∧ block = values.flatMap written := by
  have hall : ∀ blocks, List.Forall₂ language values blocks ↔
      (∀ a ∈ values, Fits a) ∧ blocks = values.map written := by
    induction values with
    | nil => simp
    | cons first rest ih =>
        intro blocks
        simp only [List.forall₂_cons_left_iff, ih, h, List.forall_mem_cons, List.map_cons]
        constructor
        · rintro ⟨_, _, ⟨hfirst, rfl⟩, ⟨hrest, rfl⟩, rfl⟩
          exact ⟨⟨hfirst, hrest⟩, rfl⟩
        · rintro ⟨⟨hfirst, hrest⟩, rfl⟩
          exact ⟨_, _, ⟨hfirst, rfl⟩, ⟨hrest, rfl⟩, rfl⟩
  simp only [repeated, hall, List.flatMap_def]
  constructor
  · rintro ⟨hlength, _, ⟨hfits, rfl⟩, hblock⟩
    exact ⟨hlength, hfits, hblock⟩
  · rintro ⟨hlength, hfits, hblock⟩
    exact ⟨hlength, _, ⟨hfits, rfl⟩, hblock⟩

/-- If nothing of a value is kept, then what is written is a list of the things beside it. -/
theorem exists_repeated_iff {ε : Type} {language : Language Unit} {Fits : ε → Prop}
    {written : ε → List UInt8}
    (h : ∀ found block, language found block ↔ ∃ e, Fits e ∧ block = written e)
    {count : Nat} {block : List UInt8} :
    (∃ values, language.repeated count values block) ↔
      ∃ extras : List ε, extras.length = count ∧ (∀ e ∈ extras, Fits e) ∧
        block = extras.flatMap written := by
  simp only [repeated_iff_zipWith h]
  constructor
  · rintro ⟨values, rfl, extras, hall, rfl⟩
    refine ⟨extras, hall.length_eq.symm, ?_⟩
    induction hall with
    | nil => simp
    | cons hfirst _ ih => simpa [hfirst] using ih
  · rintro ⟨extras, rfl, hfits, rfl⟩
    refine ⟨List.replicate extras.length (), by simp, extras, ?_⟩
    induction extras with
    | nil => simp
    | cons first rest ih =>
        obtain ⟨hfirst, hrest⟩ := List.forall_mem_cons.1 hfits
        obtain ⟨hall, hflat⟩ := ih hrest
        exact ⟨.cons hfirst hall, by simp [List.replicate_succ, hflat]⟩

end Language

namespace Reader

variable {α β : Type}

/-- The reader finds a value exactly where one of its blocks lies ahead, and passes that block. -/
def Recognizes (reader : Reader α) (language : Language α) : Prop :=
  ∀ cursor a after, (reader cursor).outcome = .ok (a, after) ↔
    ∃ block, language a block ∧ cursor.Passes block after

theorem outcome_bind_eq_ok {reader : Reader α} {next : α → Reader β} {cursor : Cursor}
    {found : β × Cursor} :
    ((reader >>= next) cursor).outcome = .ok found ↔
      ∃ a middle, (reader cursor).outcome = .ok (a, middle) ∧
        (next a middle).outcome = .ok found := by
  change (Log.Traced.outcome (reader cursor >>= fun p => next p.1 p.2)) = _ ↔ _
  rw [Log.Traced.outcome_bind]
  cases (reader cursor).outcome with
  | error e => simp [bind, Except.bind]
  | ok p =>
      obtain ⟨a, middle⟩ := p
      simp only [bind, Except.bind, Except.ok.injEq, Prod.mk.injEq]
      constructor
      · intro h
        exact ⟨a, middle, ⟨rfl, rfl⟩, h⟩
      · rintro ⟨a', middle', ⟨rfl, rfl⟩, h⟩
        exact h

theorem outcome_map_eq_ok {f : α → β} {reader : Reader α} {cursor after : Cursor} {b : β} :
    ((f <$> reader) cursor).outcome = .ok (b, after) ↔
      ∃ a, (reader cursor).outcome = .ok (a, after) ∧ f a = b := by
  change Except.map (fun p : α × Cursor => (f p.1, p.2)) (reader cursor).outcome = _ ↔ _
  cases (reader cursor).outcome with
  | error e => simp [Except.map]
  | ok p =>
      obtain ⟨a, middle⟩ := p
      simp only [Except.map, Except.ok.injEq, Prod.mk.injEq]
      constructor
      · rintro ⟨hb, hafter⟩
        exact ⟨a, ⟨rfl, hafter⟩, hb⟩
      · rintro ⟨a', ⟨rfl, hafter⟩, hb⟩
        exact ⟨hb, hafter⟩

/-- A reader recognizes a language that has the same blocks as one it recognizes. -/
theorem Recognizes.congr {reader : Reader α} {language other : Language α}
    (h : reader.Recognizes language) (heq : ∀ a block, language a block ↔ other a block) :
    reader.Recognizes other := by
  intro cursor a after
  simp only [h cursor a after, heq]

theorem recognizes_pure (a : α) : Recognizes (pure a) (.silent a) := by
  intro cursor found after
  change (Except.ok (a, cursor) = Except.ok (found, after)) ↔ _
  simp only [Except.ok.injEq, Prod.mk.injEq, Language.silent]
  constructor
  · rintro ⟨rfl, rfl⟩
    exact ⟨[], ⟨rfl, rfl⟩, Cursor.passes_nil.2 rfl⟩
  · rintro ⟨block, ⟨rfl, rfl⟩, hpass⟩
    exact ⟨rfl, (Cursor.passes_nil.1 hpass).symm⟩

theorem recognizes_fail (e : ReadError) :
    Recognizes (fail e : Reader α) fun _ _ => False := by
  intro cursor found after
  simp [fail]

theorem recognizes_emit (event : ReadEvent) : Recognizes (emit event) (.silent ()) := by
  intro cursor found after
  exact recognizes_pure () cursor found after

theorem Recognizes.bind {reader : Reader α} {next : α → Reader β} {language : Language α}
    {others : α → Language β} (h : reader.Recognizes language)
    (hnext : ∀ a, (next a).Recognizes (others a)) :
    (reader >>= next).Recognizes (language.andThen others) := by
  intro cursor b after
  rw [outcome_bind_eq_ok]
  constructor
  · rintro ⟨a, middle, hfirst, hsecond⟩
    obtain ⟨front, hfront, hpass⟩ := (h _ _ _).1 hfirst
    obtain ⟨back, hback, hpass'⟩ := (hnext a _ _ _).1 hsecond
    exact ⟨front ++ back, ⟨a, front, back, hfront, hback, rfl⟩,
      Cursor.passes_append.2 ⟨middle, hpass, hpass'⟩⟩
  · rintro ⟨block, ⟨a, front, back, hfront, hback, rfl⟩, hpass⟩
    obtain ⟨middle, hpass, hpass'⟩ := Cursor.passes_append.1 hpass
    exact ⟨a, middle, (h _ _ _).2 ⟨front, hfront, hpass⟩,
      (hnext a _ _ _).2 ⟨back, hback, hpass'⟩⟩

theorem Recognizes.map {reader : Reader α} {language : Language α} (f : α → β)
    (h : reader.Recognizes language) : (f <$> reader).Recognizes (language.map f) := by
  intro cursor b after
  rw [outcome_map_eq_ok]
  constructor
  · rintro ⟨a, hread, rfl⟩
    obtain ⟨block, hblock, hpass⟩ := (h _ _ _).1 hread
    exact ⟨block, ⟨a, hblock, rfl⟩, hpass⟩
  · rintro ⟨block, ⟨a, hblock, rfl⟩, hpass⟩
    exact ⟨a, (h _ _ _).2 ⟨block, hblock, hpass⟩, rfl⟩

/-- A step that reads nothing: the lookup has to find the value. -/
theorem recognizes_lookup (result : Except Pool.LookupError α) :
    (lookup result).Recognizes fun a block => result = .ok a ∧ block = [] := by
  cases result with
  | error e => exact (recognizes_fail _).congr (by simp)
  | ok a => exact (recognizes_pure a).congr (by simp [Language.silent, eq_comm])

/-- A step that is taken only if nothing speaks against it. -/
theorem Recognizes.unless {reader : Reader α} {language : Language α}
    (h : reader.Recognizes language) (c : Prop) [Decidable c] (e : ReadError) :
    Recognizes (if c then fail e else reader) fun a block => ¬c ∧ language a block := by
  split
  · next hc => exact (recognizes_fail e).congr (by simp [hc])
  · next hc => exact h.congr (by simp [hc])

theorem Recognizes.times {reader : Reader α} {language : Language α}
    (h : reader.Recognizes language) (count : Nat) :
    (times reader count).Recognizes (language.repeated count) := by
  induction count with
  | zero =>
      apply (recognizes_pure []).congr
      intro values block
      simp only [Language.silent, Language.repeated, List.length_eq_zero_iff]
      constructor
      · rintro ⟨rfl, rfl⟩
        exact ⟨rfl, [], .nil, rfl⟩
      · rintro ⟨rfl, blocks, hall, rfl⟩
        cases hall
        exact ⟨rfl, rfl⟩
  | succ count ih =>
      apply (h.bind fun first => ih.map (first :: ·)).congr
      intro values block
      simp only [Language.andThen, Language.map, Language.repeated]
      constructor
      · rintro ⟨first, front, _, hfront, ⟨rest, ⟨hlength, blocks, hall, rfl⟩, rfl⟩, rfl⟩
        exact ⟨by simp [hlength], front :: blocks, .cons hfront hall, by simp⟩
      · rintro ⟨hlength, blocks, hall, rfl⟩
        cases hall with
        | nil => simp at hlength
        | @cons first front rest blocks hfront hall =>
            exact ⟨first, front, blocks.flatten, hfront,
              ⟨rest, ⟨by simpa using hlength, blocks, hall, rfl⟩, rfl⟩, by simp⟩

/-- A read of the cursor recognizes a language if the cursor's own read does. -/
theorem recognizes_read {f : Cursor → Cursor.Result α} {language : Language α}
    (h : ∀ cursor a after, f cursor = (.ok a, after) ↔
      ∃ block, language a block ∧ cursor.Passes block after) :
    (read f).Recognizes language := by
  intro cursor a after
  rw [← h cursor a after]
  unfold read
  cases hf : f cursor with
  | mk result reached =>
      cases result with
      | error e => simp
      | ok found => simp [Log.Traced.outcome_pure]

theorem recognizes_byte : (read Cursor.byte).Recognizes fun b block => block = [b] :=
  recognizes_read (by simp [Cursor.byte_eq_ok_iff])

theorem recognizes_uint16 :
    (read Cursor.uint16).Recognizes fun number block =>
      block = Cursor.numeral 2 number.toNat :=
  recognizes_read (by simp [Cursor.uint16_eq_ok_iff])

theorem recognizes_uint32 :
    (read Cursor.uint32).Recognizes fun number block =>
      block = Cursor.numeral 4 number.toNat :=
  recognizes_read (by simp [Cursor.uint32_eq_ok_iff])

theorem recognizes_take (count : Nat) :
    (read (Cursor.take count)).Recognizes fun found block =>
      found.length = count ∧ block = found :=
  recognizes_read (by simp [Cursor.take_eq_ok_iff])

theorem recognizes_skip (count : Nat) :
    (read (Cursor.skip count)).Recognizes fun _ block => block.length = count :=
  recognizes_read (by simp [Cursor.skip, Cursor.mapResult_eq_ok_iff, Cursor.take_eq_ok_iff])

end Reader

end ClassFile

end ClassVM
