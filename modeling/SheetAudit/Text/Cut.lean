/-!
# Cutting text at a mark

`cut? mark text` finds the first occurrence of a mark and gives the text on both sides of it.  The
equation `eq_append_of_cut?` says that nothing is lost, and `length_of_cut?` is what recursion on
the part behind the mark needs.
-/

namespace SheetAudit.Text

/-- What follows `mark` in a text that starts with it. -/
def behind? : (mark : List Char) → List Char → Option (List Char)
  | [], cs => some cs
  | m :: ms, c :: cs => if m = c then behind? ms cs else none
  | _ :: _, [] => none

/-- Walks to the first occurrence of `mark`; `before` holds what was passed, last character
first. -/
def cutFrom? (mark : List Char) (before : List Char) : List Char → Option (List Char × List Char)
  | [] => if mark.isEmpty then some (before.reverse, []) else none
  | c :: cs =>
    match behind? mark (c :: cs) with
    | some rest => some (before.reverse, rest)
    | none => cutFrom? mark (c :: before) cs

/-- The text before and the text after the first occurrence of `mark`, if it occurs. -/
def cut? (mark cs : List Char) : Option (List Char × List Char) :=
  cutFrom? mark [] cs

/-- Whether `mark` occurs somewhere in the text. -/
def occurs (mark cs : List Char) : Bool :=
  (cut? mark cs).isSome

/-- The text before the first occurrence of `mark`, and the text after it or nothing. -/
def partition (mark cs : List Char) : List Char × List Char :=
  (cut? mark cs).getD (cs, [])

/-- Whether the text starts with `mark`. -/
def startsWith (mark cs : List Char) : Bool :=
  (behind? mark cs).isSome

/-- A text that starts with a mark is that mark followed by the rest. -/
theorem eq_append_of_behind? {mark cs rest : List Char} (h : behind? mark cs = some rest) :
    cs = mark ++ rest := by
  fun_induction behind? mark cs with
  | case1 => simpa using h
  | case2 _ _ _ ih => simpa using ih h
  | case3 => simp at h
  | case4 => simp at h

/-- The parts and the mark between them are what was passed and the rest. -/
theorem eq_append_of_cutFrom? {mark before cs u rest : List Char}
    (h : cutFrom? mark before cs = some (u, rest)) : before.reverse ++ cs = u ++ mark ++ rest := by
  induction cs generalizing before with
  | nil =>
    simp only [cutFrom?] at h
    split at h
    · next hm => simp_all [List.isEmpty_iff]
    · simp at h
  | cons c cs ih =>
    simp only [cutFrom?] at h
    split at h
    · next r hr =>
      simp only [Option.some.injEq, Prod.mk.injEq] at h
      rw [eq_append_of_behind? hr, h.1, h.2, List.append_assoc]
    · simpa using ih h

/-- The two sides of a cut, with the mark between them, are the text. -/
theorem eq_append_of_cut? {mark cs u rest : List Char} (h : cut? mark cs = some (u, rest)) :
    cs = u ++ mark ++ rest := by
  simpa using eq_append_of_cutFrom? h

/-- The lengths of the two sides and of the mark add up to the length of the text. -/
theorem length_of_cut? {mark cs u rest : List Char} (h : cut? mark cs = some (u, rest)) :
    u.length + mark.length + rest.length = cs.length := by
  simp [eq_append_of_cut? h, Nat.add_assoc]

end SheetAudit.Text
