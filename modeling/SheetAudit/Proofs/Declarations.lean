import SheetAudit.Proofs.Trim
import SheetAudit.Stylesheet.Rule

/-!
# Declaration blocks

`splitDeclarations` divides a block at its semicolons, trims the parts and drops the empty ones.

## Key results

- `splitDeclarations_append`: a semicolon divides a block into two blocks
- `splitDeclarations_intercalate`: declarations joined by semicolons are found again
- `isDeclaration_of_mem_splitDeclarations`: a block has nothing but declarations
- `splitDeclarations_canonical`: the blocks in which a list of declarations is found again
-/

namespace SheetAudit.Stylesheet

open SheetAudit.Text

/-- Text that a block gives back as one declaration. -/
structure IsDeclaration (d : String) : Prop where
  /-- It is not empty. -/
  ne_empty : d ≠ ""
  /-- It has no blank character at either end. -/
  trimmed : Trimmed d.toList
  /-- No semicolon divides it. -/
  no_semicolon : ';' ∉ d.toList

/-- The three conditions on a declaration, by which it can be decided whether a text is one. -/
theorem isDeclaration_iff (d : String) :
    IsDeclaration d ↔ d ≠ "" ∧ Trimmed d.toList ∧ ';' ∉ d.toList :=
  ⟨fun h => ⟨h.ne_empty, h.trimmed, h.no_semicolon⟩, fun h => ⟨h.1, h.2.1, h.2.2⟩⟩

instance (d : String) : Decidable (IsDeclaration d) :=
  decidable_of_iff' _ (isDeclaration_iff d)

/-- A semicolon divides a block into two blocks. -/
theorem splitDeclarations_append (x y : List Char) :
    splitDeclarations (x ++ ';' :: y) = splitDeclarations x ++ splitDeclarations y := by
  rw [splitDeclarations, List.splitOn_append_cons_self, List.map_append, List.filter_append,
    List.map_append]
  rfl

/-- A blank character in front of a block is lost. -/
private theorem splitDeclarations_blank_cons {c : Char} (hc : isBlank c = true) (cs : List Char) :
    splitDeclarations (c :: cs) = splitDeclarations cs := by
  have hsemi : (c == ';') = false := by
    rw [beq_eq_false_iff_ne]
    rintro rfl
    exact absurd hc (by decide)
  -- the character joins the first part of the block, whose trimming drops it
  obtain ⟨x, xs, hx⟩ := List.exists_cons_of_ne_nil (List.splitOn_ne_nil ';' cs)
  have htrim : trim (c :: x) = trim x := trim_blank_append (w := [c]) (by simpa using hc) x
  rw [splitDeclarations, splitDeclarations, List.splitOn_cons_eq_if_modifyHead, hsemi, hx]
  simp [htrim]

/-- A declaration on its own is the only one of its block. -/
theorem splitDeclarations_of_isDeclaration {d : String} (h : IsDeclaration d) :
    splitDeclarations d.toList = [d] := by
  have hne : d.toList ≠ [] := fun hnil => h.ne_empty (String.toList_inj.mp hnil)
  rw [splitDeclarations, List.splitOn_eq_singleton h.no_semicolon]
  simp [trim_of_trimmed h.trimmed, hne]

/-- The text of declarations joined by semicolons, one declaration at a time. -/
theorem toList_intercalate_cons_cons (d e : String) (es : List String) :
    ("; ".intercalate (d :: e :: es)).toList =
      d.toList ++ ';' :: ' ' :: ("; ".intercalate (e :: es)).toList := by
  rw [String.toList_intercalate, String.toList_intercalate, List.map_cons, List.map_cons,
    List.intercalate_cons_cons, List.append_assoc]
  rfl

/-- Declarations joined by semicolons are found again, in order. -/
theorem splitDeclarations_intercalate {ds : List String} (h : ∀ d ∈ ds, IsDeclaration d) :
    splitDeclarations ("; ".intercalate ds).toList = ds := by
  induction ds with
  | nil => rfl
  | cons d ds ih =>
    have hd := splitDeclarations_of_isDeclaration (h d (by simp))
    -- the last declaration has no semicolon behind it
    cases ds with
    | nil => simpa using hd
    | cons e es =>
      rw [toList_intercalate_cons_cons, splitDeclarations_append, hd,
        splitDeclarations_blank_cons (by decide), ih fun c hc => h c (by simp [hc])]
      rfl

/-- No part of a text that is divided at a mark holds the mark. -/
private theorem notMem_of_mem_splitOn {mark : Char} {part cs : List Char}
    (h : part ∈ cs.splitOn mark) :
    mark ∉ part := by
  -- on the text; its first character ends a part or joins the first one
  induction cs generalizing part with
  | nil =>
    rw [List.splitOn_nil, List.mem_singleton] at h
    simp [h]
  | cons c cs ih =>
    rw [List.splitOn_cons_eq_if_modifyHead] at h
    obtain ⟨first, parts, hparts⟩ := List.exists_cons_of_ne_nil (List.splitOn_ne_nil mark cs)
    rw [hparts] at h ih
    split at h
    · -- the mark ends an empty part, and the others are those of the rest
      rcases List.mem_cons.mp h with rfl | h
      · exact List.not_mem_nil
      · exact ih h
    · next hc =>
      rcases List.mem_cons.mp h with rfl | h
      · rw [beq_iff_eq] at hc
        exact List.not_mem_cons_of_ne_of_not_mem (Ne.symm hc) (ih List.mem_cons_self)
      · exact ih (List.mem_cons_of_mem _ h)

/-- A block has nothing but declarations. -/
theorem isDeclaration_of_mem_splitDeclarations {d : String} {block : List Char}
    (h : d ∈ splitDeclarations block) : IsDeclaration d := by
  obtain ⟨part, hpart, rfl⟩ := List.mem_map.mp h
  obtain ⟨hmem, hne⟩ := List.mem_filter.mp hpart
  obtain ⟨whole, hwhole, rfl⟩ := List.mem_map.mp hmem
  constructor
  · simpa using hne
  · rw [String.toList_ofList]
    exact trimmed_trim whole
  · rw [String.toList_ofList]
    exact fun hmark => notMem_of_mem_splitOn hwhole ((trim_isInfix whole).subset hmark)

/-- A semicolon divides a block into two; a list is found again in the block that joins it exactly
    if it has nothing but declarations; and so what is found in a block is found again. -/
theorem splitDeclarations_canonical :
    (∀ x y : List Char,
      splitDeclarations (x ++ ';' :: y) = splitDeclarations x ++ splitDeclarations y) ∧
    (∀ ds : List String,
      splitDeclarations ("; ".intercalate ds).toList = ds ↔ ∀ d ∈ ds, IsDeclaration d) ∧
    ∀ block : List Char,
      splitDeclarations ("; ".intercalate (splitDeclarations block)).toList =
        splitDeclarations block := by
  refine ⟨splitDeclarations_append, fun ds => ⟨fun h d hd => ?_, splitDeclarations_intercalate⟩,
    fun block => splitDeclarations_intercalate fun d => isDeclaration_of_mem_splitDeclarations⟩
  rw [← h] at hd
  exact isDeclaration_of_mem_splitDeclarations hd

end SheetAudit.Stylesheet
