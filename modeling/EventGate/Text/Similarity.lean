/-! # Similarity of words

How much two words have in common: the letters that both have at nearly the same place, and how
many of those are out of order. It helps to guess what somebody meant to type.
-/

namespace EventGate.Text

/-- How far the places of a common letter may be apart. -/
def reach (left right : List Char) : Nat :=
  max left.length right.length / 2 - 1

/-- The first place from `start` to before `stop` that is still free and holds the letter. -/
def freePlace? (c : Char) (start stop : Nat) : Nat → List (Char × Bool) → Option Nat
  | _, [] => none
  | place, (d, taken) :: rest =>
    if start ≤ place ∧ place < stop ∧ d = c ∧ !taken then some place
    else freePlace? c start stop (place + 1) rest

/-- The common letters in the order of the first word, and the second word with its common letters
marked. -/
def commonFrom (range : Nat) : Nat → List Char → List (Char × Bool) →
    List Char × List (Char × Bool)
  | _, [], right => ([], right)
  | place, c :: rest, right =>
    match freePlace? c (place - range) (place + range + 1) 0 right with
    | some found =>
      let (common, right) :=
        commonFrom range (place + 1) rest (right.modify found fun d => (d.1, true))
      (c :: common, right)
    | none => commonFrom range (place + 1) rest right

/-- The common letters of two words, in the order of each. -/
def common (left right : List Char) : List Char × List Char :=
  let (found, marked) := commonFrom (reach left right) 0 left (right.map fun c => (c, false))
  (found, (marked.filter Prod.snd).map Prod.fst)

/-- How similar two words are, as a fraction: the mean of the shares that the common letters have
in each word, and of the share of them that is in order. -/
def similarity (left right : List Char) : Nat × Nat :=
  if left.isEmpty && right.isEmpty then (1, 1)
  else
    let (inLeft, inRight) := common left right
    let count := inLeft.length
    if count = 0 then (0, 1)
    else
      let moved := ((inLeft.zip inRight).filter fun p => p.1 != p.2).length / 2
      let a := left.length
      let b := right.length
      (count * count * (a + b) + (count - moved) * a * b, 3 * count * a * b)

/-- Words are similar when more than seven tenths of them agree. -/
def isSimilar (share : Nat × Nat) : Bool :=
  decide (7 * share.2 < 10 * share.1)

/-- The choices that are similar to a word, the most similar one last. -/
def similarTo (word : String) (choices : List String) : List String :=
  let shares := choices.map fun choice => (similarity word.toList choice.toList, choice)
  ((shares.filter fun s => isSimilar s.1).mergeSort fun s t =>
    decide (s.1.1 * t.1.2 ≤ t.1.1 * s.1.2)).map Prod.snd

example : similarity "martha".toList "marhta".toList = (612, 648) := by decide

theorem freePlace?_lt {c : Char} {start stop place found : Nat} {right : List (Char × Bool)}
    (h : freePlace? c start stop place right = some found) : found < stop := by
  induction right generalizing place with
  | nil => simp [freePlace?] at h
  | cons d rest ih =>
    unfold freePlace? at h
    split at h
    · next hd => exact Option.some.inj h ▸ hd.2.1
    · exact ih h

end EventGate.Text
