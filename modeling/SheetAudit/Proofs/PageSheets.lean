import Mathlib.Data.List.Forall2
import Mathlib.Data.List.Induction
import SheetAudit.Page.Sheets
import SheetAudit.Proofs.Trim

/-!
# The stylesheets of a page, tag by tag

The targets of the links to stylesheets are gathered in one pass, with a list that grows.  Here a
link is described by its tag alone (`LinksSheet`), and the list by the tags of the page: what is in
it, and in which order.  Each of these is kept when one more tag is taken in
(`sheetTargets_concat`).

## Key results

- `mem_words_iff`: the words of a text are its maximal runs of characters that are not blank
- `lower_eq_iff`: which texts are equal to a name when letter case does not count
- `sheetTarget?_eq_some_iff`: which tag links which stylesheet
- `mem_sheetTargets_iff` / `pairwise_sheetTargets`: the targets of a page, and their order
- `getElem?_inlineSheets`: the sheets inside a page, by the places of their tags
- `sheets_of_tags`: all of it
-/

namespace SheetAudit.Text

/-! ## Words -/

/-- A word of a text: a run of characters that are not blank, with nothing but blanks next to it. -/
structure IsWordOf (w cs : List Char) : Prop where
  /-- A word has characters. -/
  ne_nil : w ≠ []
  /-- None of them is blank. -/
  not_blank : ∀ c ∈ w, isBlank c = false
  /-- The word stands in the text, between blanks or at an end. -/
  stands : ∃ u v, cs = u ++ w ++ v ∧ (∀ c ∈ u.getLast?, isBlank c = true) ∧
    ∀ c ∈ v.head?, isBlank c = true

/-- A text is free of blanks, or cut at its first one. -/
private theorem blank_cases (cs : List Char) :
    (∀ c ∈ cs, isBlank c = false) ∨
      ∃ u b rest, cs = u ++ b :: rest ∧ (∀ c ∈ u, isBlank c = false) ∧ isBlank b = true := by
  by_cases h : ∃ b ∈ cs, isBlank b = true
  · obtain ⟨b, u, rest, hu, hb, heq, -⟩ := List.exists_of_eraseP h.choose_spec.1 h.choose_spec.2
    exact .inr ⟨u, b, rest, heq, fun c hc => Bool.eq_false_iff.mpr (hu c hc), hb⟩
  · exact .inl fun c hc => Bool.eq_false_iff.mpr fun hb => h ⟨c, hc, hb⟩

/-- The pieces between blanks, one by one. -/
theorem mem_splitOnP_blank {w cs : List Char} (h : w ∈ cs.splitOnP isBlank) :
    (∀ c ∈ w, isBlank c = false) ∧ ∃ u v, cs = u ++ w ++ v ∧
      (∀ c ∈ u.getLast?, isBlank c = true) ∧ ∀ c ∈ v.head?, isBlank c = true := by
  rcases blank_cases cs with hcs | ⟨u, b, rest, rfl, hu, hb⟩
  · rw [List.splitOnP_eq_singleton hcs, List.mem_singleton] at h
    subst h
    exact ⟨hcs, [], [], by simp⟩
  · rw [List.splitOnP_append_cons u rest hb, List.splitOnP_eq_singleton hu,
      List.singleton_append, List.mem_cons] at h
    rcases h with rfl | h
    · exact ⟨hu, [], b :: rest, by simp [hb]⟩
    · obtain ⟨hw, u', v, rfl, hu', hv⟩ := mem_splitOnP_blank h
      refine ⟨hw, u ++ b :: u', v, by simp, ?_, hv⟩
      -- in front of the piece stands what stood there in the rest, or the blank itself
      cases u' with
      | nil => simp [hb]
      | cons d u' =>
        intro c hc
        rw [List.getLast?_append_cons, List.getLast?_cons_cons] at hc
        exact hu' c hc
termination_by cs.length

/-- The words of a text are its maximal runs of characters that are not blank. -/
theorem mem_words_iff {w cs : List Char} : w ∈ words cs ↔ IsWordOf w cs := by
  rw [words, List.mem_filter, Bool.not_eq_true', List.isEmpty_eq_false_iff]
  constructor
  · rintro ⟨hmem, hne⟩
    obtain ⟨hw, hstands⟩ := mem_splitOnP_blank hmem
    exact ⟨hne, hw, hstands⟩
  · rintro ⟨hne, hw, u, v, rfl, hu, hv⟩
    refine ⟨?_, hne⟩
    -- the word with what follows it, and then with what precedes it
    have hright : w ∈ (w ++ v).splitOnP isBlank := by
      cases v with
      | nil => simp [List.splitOnP_eq_singleton hw]
      | cons b v =>
        rw [List.splitOnP_append_cons w v (hv b rfl), List.splitOnP_eq_singleton hw]
        exact List.mem_append_left _ List.mem_cons_self
    rcases List.eq_nil_or_concat u with rfl | ⟨u', b, rfl⟩
    · exact hright
    · rw [List.concat_append, List.append_assoc, List.cons_append,
        List.splitOnP_append_cons u' (w ++ v) (hu b (by simp))]
      exact List.mem_append_right _ hright

/-! ## Letter case -/

/-- A text is a name in some letter case: each letter is that of the name, or its capital. -/
def InAnyCase (w name : List Char) : Prop :=
  List.Forall₂ (fun c l => c = l ∨ c = l.toUpper) w name

/-- The capital of a small letter stands 32 places before it. -/
private theorem toNat_toUpper {l : Char} (hl : 'a' ≤ l ∧ l ≤ 'z') :
    l.toUpper.toNat = l.toNat - 32 := by
  have hval : 'a'.val ≤ l.val ∧ l.val ≤ 'z'.val := hl
  have hsmall : 97 ≤ l.val.toNat ∧ l.val.toNat ≤ 122 := hl
  delta Char.toUpper
  rw [dif_pos hval]
  show (l.val + ('A'.val - 'a'.val)).toNat = l.val.toNat - 32
  rw [UInt32.toNat_add, show ('A'.val - 'a'.val).toNat = 2 ^ 32 - 32 from rfl]
  omega

/-- A character is a small letter in lower case exactly if it is that letter or its capital. -/
private theorem lowerLetter_eq_iff {c l : Char} (hl : 'a' ≤ l ∧ l ≤ 'z') :
    lowerLetter c = l ↔ c = l ∨ c = l.toUpper := by
  have hsmall : 97 ≤ l.toNat ∧ l.toNat ≤ 122 := hl
  -- characters are compared by their numbers
  rw [← Char.toNat_inj, ← Char.toNat_inj (c := c), ← Char.toNat_inj (c := c), toNat_toUpper hl,
    lowerLetter]
  split
  · next hc =>
    simp only [Bool.and_eq_true, decide_eq_true_eq] at hc
    have hcapital : 65 ≤ c.toNat ∧ c.toNat ≤ 90 := hc
    have hlower : (Char.ofNat (c.toNat + 32)).toNat = c.toNat + 32 := by
      rw [Char.ofNat, dif_pos (show (c.toNat + 32).isValidChar from .inl (by omega))]
      rfl
    omega
  · next hc =>
    simp only [Bool.and_eq_true, decide_eq_true_eq] at hc
    have hother : ¬(65 ≤ c.toNat ∧ c.toNat ≤ 90) := hc
    omega

/-- Text in lower case is a name of small letters exactly if it is that name in some letter
    case. -/
theorem lower_eq_iff {w name : List Char} (h : ∀ l ∈ name, 'a' ≤ l ∧ l ≤ 'z') :
    lower w = name ↔ InAnyCase w name := by
  -- both texts are taken apart one character at a time
  induction w generalizing name with
  | nil => simp [lower, InAnyCase, eq_comm]
  | cons c w ih =>
    cases name with
    | nil => simp [lower, InAnyCase]
    | cons l name =>
      obtain ⟨hl, hname⟩ := List.forall_mem_cons.mp h
      rw [InAnyCase, List.forall₂_cons, ← InAnyCase, ← ih hname, ← lowerLetter_eq_iff hl]
      exact List.cons_eq_cons

end SheetAudit.Text

namespace SheetAudit.Page

open SheetAudit.Text
open Stylesheet (Source)

/-! ## Links -/

/-- A tag links a stylesheet: it is a link whose target, trimmed, is the one given, and whose
    relation has the word `stylesheet` in some letter case. -/
structure LinksSheet (t : Tag) (target : String) : Prop where
  /-- The tag is a link. -/
  name_eq : t.name = "link".toList
  /-- It has a target, of which the one given is left without the blanks around it. -/
  href : ∃ href, t.attribute? "href".toList = some href ∧ trim href = target.toList
  /-- The target is not empty. -/
  ne_empty : target ≠ ""
  /-- It is related to the page as a stylesheet. -/
  rel : ∃ rel w, t.attribute? "rel".toList = some rel ∧ IsWordOf w rel ∧
    InAnyCase w "stylesheet".toList

/-- A tag is taken for a link to a stylesheet exactly if it is a link with the word `stylesheet` in
its relation. -/
theorem isSheetLink_iff {t : Tag} :
    isSheetLink t = true ↔ t.name = "link".toList ∧
      ∃ rel w, t.attribute? "rel".toList = some rel ∧ IsWordOf w rel ∧
        InAnyCase w "stylesheet".toList := by
  have hall : ("stylesheet".toList.all fun l => decide ('a' ≤ l ∧ l ≤ 'z')) = true := by decide
  have hletters : ∀ l ∈ "stylesheet".toList, 'a' ≤ l ∧ l ≤ 'z' :=
    fun l hl => of_decide_eq_true (List.all_eq_true.mp hall l hl)
  rw [isSheetLink, Bool.and_eq_true, beq_iff_eq]
  refine and_congr_right fun _ => ?_
  cases t.attribute? "rel".toList with
  | none => simp
  | some rel =>
    simp only [List.any_eq_true, beq_iff_eq, mem_words_iff, lower_eq_iff hletters,
      Option.some.injEq, exists_and_left, exists_eq_left']

/-- The target of a tag is the stylesheet that it links. -/
theorem sheetTarget?_eq_some_iff {t : Tag} {target : String} :
    sheetTarget? t = some target ↔ LinksSheet t target := by
  unfold sheetTarget?
  constructor
  -- a link counts if it has a target that is not blank
  · intro h
    split at h
    · next hlink =>
      obtain ⟨hname, hrel⟩ := isSheetLink_iff.mp hlink
      cases hhref : t.attribute? "href".toList with
      | none =>
        rw [hhref] at h
        cases h
      | some href =>
        simp only [hhref] at h
        split at h
        · cases h
        · next hne =>
          obtain rfl := Option.some.inj h
          refine ⟨hname, ⟨href, hhref, by simp⟩, ?_, hrel⟩
          intro hempty
          exact hne (by simpa using congrArg String.toList hempty)
    · cases h
  -- each condition takes one of the branches
  · rintro ⟨hname, ⟨href, hhref, htrim⟩, hne, hrel⟩
    rw [if_pos (isSheetLink_iff.mpr ⟨hname, hrel⟩), hhref]
    simpa [htrim] using hne

/-! ## Targets, one more tag at a time -/

/-- One more tag brings in its target, if it has one. -/
theorem sheetTargets_concat (tags : List Tag) (t : Tag) :
    sheetTargets (tags ++ [t]) =
      (sheetTarget? t).elim (sheetTargets tags) (addTarget (sheetTargets tags)) := by
  rw [sheetTargets, List.filterMap_append, List.foldl_append, ← sheetTargets]
  cases h : sheetTarget? t with
  | none => simp [h]
  | some target => simp [h]

/-- A target of the tags so far stays one, and a new one is that of the last tag. -/
private theorem mem_sheetTargets_concat {tags : List Tag} {t : Tag} {target : String} :
    target ∈ sheetTargets (tags ++ [t]) ↔ target ∈ sheetTargets tags ∨ LinksSheet t target := by
  rw [sheetTargets_concat, ← sheetTarget?_eq_some_iff]
  cases sheetTarget? t with
  | none => simp
  | some new =>
    simp only [Option.elim_some, Option.some.injEq, addTarget]
    split
    · next hmem =>
      rw [List.contains_iff_mem] at hmem
      exact ⟨.inl, fun h => h.elim id fun heq => heq ▸ hmem⟩
    · rw [List.mem_append, List.mem_singleton, eq_comm (a := target)]

/-- The targets are those of the tags that link a stylesheet. -/
theorem mem_sheetTargets_iff {tags : List Tag} {target : String} :
    target ∈ sheetTargets tags ↔ ∃ t ∈ tags, LinksSheet t target := by
  -- on the tags from the front of the page, as they are taken in
  induction tags using List.reverseRecOn with
  | nil => simp [sheetTargets]
  | append_singleton tags t ih =>
    rw [mem_sheetTargets_concat, ih]
    simp [or_and_right, exists_or]

/-- A relation that holds between the targets so far, and between each of them and a new one, holds
    between the targets with one more tag. -/
private theorem pairwise_sheetTargets_concat {R : String → String → Prop} {tags : List Tag}
    {t : Tag} (h : (sheetTargets tags).Pairwise R)
    (hnew : ∀ new, LinksSheet t new → new ∉ sheetTargets tags →
      ∀ old ∈ sheetTargets tags, R old new) :
    (sheetTargets (tags ++ [t])).Pairwise R := by
  rw [sheetTargets_concat]
  cases htarget : sheetTarget? t with
  | none => exact h
  | some new =>
    rw [Option.elim_some, addTarget]
    -- a target that is there already changes nothing
    split
    · exact h
    · next hmem =>
      rw [List.contains_iff_mem] at hmem
      refine List.pairwise_append.mpr ⟨h, List.pairwise_singleton _ _, ?_⟩
      simpa using hnew new (sheetTarget?_eq_some_iff.mp htarget) hmem

/-- No target comes twice. -/
theorem nodup_sheetTargets (tags : List Tag) : (sheetTargets tags).Nodup := by
  induction tags using List.reverseRecOn with
  | nil => exact List.nodup_nil
  | append_singleton tags t ih =>
    apply pairwise_sheetTargets_concat ih
    rintro new - hmem old hold rfl
    exact hmem hold

/-- The first link to one stylesheet comes before every link to another. -/
def LinkedBefore (tags : List Tag) (target later : String) : Prop :=
  ∃ (i : Nat) (t : Tag), tags[i]? = some t ∧ LinksSheet t target ∧
    ∀ (j : Nat) (t' : Tag), tags[j]? = some t' → LinksSheet t' later → i < j

/-- Targets come in the order of their first links. -/
theorem pairwise_sheetTargets (tags : List Tag) :
    (sheetTargets tags).Pairwise (LinkedBefore tags) := by
  induction tags using List.reverseRecOn with
  | nil => exact .nil
  | append_singleton tags t ih =>
    -- a place among the tags so far is left of the new tag
    have hlast : ∀ {i j : Nat} {t₀ t' : Tag}, tags[i]? = some t₀ →
        (tags ++ [t])[j]? = some t' → (tags[j]? = some t' → i < j) → i < j := by
      intro i j t₀ t' hi hj hbefore
      have hlt := (List.getElem?_eq_some_iff.mp hi).1
      by_cases hlt' : j < tags.length
      · rw [List.getElem?_append_left hlt'] at hj
        exact hbefore hj
      · omega
    have hkept : ∀ {i : Nat} {t₀ : Tag}, tags[i]? = some t₀ → (tags ++ [t])[i]? = some t₀ := by
      intro i t₀ hi
      rw [List.getElem?_append_left (List.getElem?_eq_some_iff.mp hi).1, hi]
    apply pairwise_sheetTargets_concat
    -- targets so far keep their order: the new tag stands behind all others
    · refine ih.imp fun ⟨i, t₀, hi, hlink, hall⟩ => ?_
      refine ⟨i, t₀, hkept hi, hlink, fun j t' hj hlink' => ?_⟩
      exact hlast hi hj fun hj' => hall j t' hj' hlink'
    · intro new hnew hmem old hold
      obtain ⟨t₀, ht₀, hlink⟩ := mem_sheetTargets_iff.mp hold
      obtain ⟨i, hi⟩ := List.mem_iff_getElem?.mp ht₀
      refine ⟨i, t₀, hkept hi, hlink, fun j t' hj hlink' => ?_⟩
      -- no tag so far links the new target
      refine hlast hi hj fun hj' => absurd ?_ hmem
      exact mem_sheetTargets_iff.mpr ⟨t', List.mem_of_getElem? hj', hlink'⟩

/-! ## Sheets inside the page -/

/-- Whether a tag is that of a style element. -/
def isStyle (t : Tag) : Bool :=
  t.name == "style".toList

/-- A member that passes a test is found behind the earlier ones that pass it. -/
private theorem getElem?_filter_countP {α : Type} {p : α → Bool} {xs : List α} {i : Nat} {x : α}
    (h : xs[i]? = some x) (hx : p x = true) :
    (xs.filter p)[(xs.take i).countP p]? = some x := by
  -- on the list; the place moves down with it
  induction xs generalizing i with
  | nil => simp at h
  | cons y xs ih =>
    cases i with
    | zero =>
      obtain rfl : y = x := by simpa using h
      simp [List.filter_cons_of_pos hx]
    | succ i =>
      have hi := ih (by simpa using h)
      by_cases hy : p y = true
      · simpa [List.filter_cons_of_pos hy, List.countP_cons_of_pos hy] using hi
      · simpa [List.filter_cons_of_neg hy, List.countP_cons_of_neg hy] using hi

/-- The sheet of a style element is numbered by the style elements up to it, and holds its text. -/
theorem getElem?_inlineSheets {tags : List Tag} {i : Nat} {t : Tag} (h : tags[i]? = some t)
    (hstyle : t.name = "style".toList) :
    (inlineSheets tags)[(tags.take i).countP isStyle]? =
      some ⟨s!"inline-style-{(tags.take i).countP isStyle + 1}", String.ofList t.text⟩ := by
  have hget : (tags.filter isStyle)[(tags.take i).countP isStyle]? = some t :=
    getElem?_filter_countP h (beq_iff_eq.mpr hstyle)
  show (((tags.filter isStyle).zipIdx.map _)[(tags.take i).countP isStyle]?) = _
  rw [List.getElem?_map, List.getElem?_zipIdx, hget]
  simp

/-- There are as many sheets inside a page as it has style elements. -/
theorem length_inlineSheets (tags : List Tag) :
    (inlineSheets tags).length = tags.countP isStyle := by
  show (((tags.filter isStyle).zipIdx.map _).length) = _
  rw [List.length_map, List.length_zipIdx, List.countP_eq_length_filter]

/-- The stylesheets of a page, by its tags in order.  The targets of its links are all different,
    not empty and trimmed; they are exactly the targets of the tags that link a stylesheet, in the
    order of their first links.  Each style element is a sheet of its own, with its text, and
    numbered from one in the order of the page. -/
theorem sheets_of_tags (tags : List Tag) :
    (sheetTargets tags).Nodup ∧
    (∀ target ∈ sheetTargets tags, target ≠ "" ∧ Trimmed target.toList) ∧
    (∀ target, target ∈ sheetTargets tags ↔ ∃ t ∈ tags, LinksSheet t target) ∧
    (sheetTargets tags).Pairwise (LinkedBefore tags) ∧
    (inlineSheets tags).length = tags.countP isStyle ∧
    ∀ (i : Nat) (t : Tag), tags[i]? = some t → t.name = "style".toList →
      (inlineSheets tags)[(tags.take i).countP isStyle]? =
        some ⟨s!"inline-style-{(tags.take i).countP isStyle + 1}", String.ofList t.text⟩ := by
  refine ⟨nodup_sheetTargets tags, fun target hmem => ?_, fun _ => mem_sheetTargets_iff,
    pairwise_sheetTargets tags, length_inlineSheets tags, fun _ _ => getElem?_inlineSheets⟩
  obtain ⟨t, -, hlink⟩ := mem_sheetTargets_iff.mp hmem
  obtain ⟨href, -, htrim⟩ := hlink.href
  refine ⟨hlink.ne_empty, ?_⟩
  rw [← htrim]
  exact trimmed_trim href

end SheetAudit.Page
