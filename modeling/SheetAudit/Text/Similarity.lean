/-!
# Similar names

How much two names have in common, for suggestions after a misspelling.  `matched a b` counts the
characters in common blocks: the longest block that occurs in both, and then those to the left and
to the right of it.  A name is close to another when at least three fifths of the characters of both
lie in common blocks.
-/

namespace SheetAudit.Text

/-- The length of the common beginning of two texts. -/
def commonPrefix : List Char → List Char → Nat
  | a :: as, b :: bs => if a = b then commonPrefix as bs + 1 else 0
  | _, _ => 0

/-- A block that occurs in two texts. -/
structure Block where
  /-- Where it starts in the first text. -/
  left : Nat
  /-- Where it starts in the second text. -/
  right : Nat
  /-- Its length. -/
  length : Nat
  deriving DecidableEq, Repr

/-- The longest block that occurs in both texts; of several, the one that starts first. -/
def longestBlock (a b : List Char) : Block :=
  let starts := (List.range a.length).flatMap fun i => (List.range b.length).map fun j => (i, j)
  starts.foldl (fun best (i, j) =>
    let n := commonPrefix (a.drop i) (b.drop j)
    if best.length < n then ⟨i, j, n⟩ else best) ⟨0, 0, 0⟩

/-- Counts the characters in common blocks; `fuel` bounds the number of nested blocks. -/
def matchedFrom : (fuel : Nat) → List Char → List Char → Nat
  | 0, _, _ => 0
  | fuel + 1, a, b =>
    let block := longestBlock a b
    if block.length = 0 then 0
    else
      matchedFrom fuel (a.take block.left) (b.take block.right) + block.length +
        matchedFrom fuel (a.drop (block.left + block.length)) (b.drop (block.right + block.length))

/-- The number of characters in common blocks.  Every block uses up a character of `a`. -/
def matched (a b : List Char) : Nat :=
  matchedFrom a.length a b

/-- A name with its likeness to another: the characters in common, of those in both together. -/
structure Likeness where
  /-- The name. -/
  name : String
  /-- The number of characters in common blocks. -/
  common : Nat
  /-- The number of characters of both names. -/
  total : Nat
  deriving DecidableEq, Repr

/-- The likeness of a name to a word. -/
def Likeness.of (word name : String) : Likeness :=
  ⟨name, matched name.toList word.toList, name.length + word.length⟩

/-- Whether a name is close. -/
def Likeness.isClose (l : Likeness) : Bool :=
  3 * l.total ≤ 10 * l.common

/-- Whether one name comes before another as a suggestion: the more alike, then the greater. -/
def Likeness.precedes (l m : Likeness) : Bool :=
  m.common * l.total < l.common * m.total ||
    (l.common * m.total == m.common * l.total && decide (m.name ≤ l.name))

/-- The number of suggestions. -/
def maxSuggestions : Nat := 3

/-- The names that are close to a word, the closest first. -/
def closeNames (word : String) (names : List String) : List String :=
  let close := (names.map (Likeness.of word)).filter Likeness.isClose
  ((close.mergeSort Likeness.precedes).take maxSuggestions).map (·.name)

end SheetAudit.Text
