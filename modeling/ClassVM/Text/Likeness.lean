/-! # Likeness of words

How much a text looks like a word, as an exact share of one. Characters of the text are matched with
equal characters of the word that stand near the same place. The share is the mean of three: how much
of the text is matched, how much of the word is, and how many of the matches go forward. Each
character of a common beginning then closes a tenth of the gap that is left to one. -/

namespace ClassVM.Text

/-- A part of a whole. -/
structure Share where
  part : Nat
  whole : Nat
  deriving DecidableEq

/-- The first share is the smaller one. -/
def Share.lessThan (x y : Share) : Bool :=
  x.part * y.whole < y.part * x.whole

/-- The places of `word` that the characters of a text are matched with, in the order of the text,
whose first character stands at `place`. A character takes the first equal one of the word that is at
most `reach` places away and not taken yet. -/
def matchPlaces (word : List Char) (reach : Nat) (place : Nat) (taken : List Nat) :
    List Char → List Nat
  | [] => []
  | c :: rest =>
      let near := (List.range word.length).find? fun j =>
        place ≤ j + reach && j ≤ place + reach && word[j]? == some c && !taken.contains j
      match near with
      | some j => j :: matchPlaces word reach (place + 1) (j :: taken) rest
      | none => matchPlaces word reach (place + 1) taken rest

/-- How often a list of numbers goes down from one to the next. -/
def descents : List Nat → Nat
  | x :: y :: rest => (if y < x then 1 else 0) + descents (y :: rest)
  | _ => 0

/-- How many characters two texts have in common at their beginning. -/
def sharedStart : List Char → List Char → Nat
  | a :: as, b :: bs => if a = b then sharedStart as bs + 1 else 0
  | _, _ => 0

/-- The share of matched characters and of forward matches, of which there is none without a match.
A match reaches almost half the length of the longer text. -/
def matchShare (text word : List Char) : Share :=
  let longer := if text.length < word.length then word.length else text.length
  let places := matchPlaces word (longer / 2 - 1) 0 [] text
  let matched := places.length
  if matched = 0 then ⟨0, 1⟩
  else
    ⟨matched * matched * (text.length + word.length)
        + (matched - descents places) * (text.length * word.length),
      3 * text.length * word.length * matched⟩

/-- How much a text looks like a word. -/
def likeness (text word : List Char) : Share :=
  let share := matchShare text word
  let part := 10 * share.part + sharedStart text word * (share.whole - share.part)
  let whole := 10 * share.whole
  ⟨if part < whole then part else whole, whole⟩

/-- The likeness above which a word is worth naming. -/
def fairLikeness : Share := ⟨4, 5⟩

/-- The word that a text looks like most, if it looks like one at all; of equals the first. -/
def nearest? (text : String) (words : List String) : Option String :=
  let choose (best : Option (Share × String)) (word : String) : Option (Share × String) :=
    let share := likeness text.toList word.toList
    let bound := match best with
      | some (most, _) => most
      | none => fairLikeness
    if bound.lessThan share then some (share, word) else best
  (words.foldl choose none).map (·.2)

end ClassVM.Text
