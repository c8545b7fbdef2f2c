import Mathlib.Order.Monotone.Basic
import SheetAudit.Proofs.Cut
import SheetAudit.Stylesheet.Comment

/-!
# Comments and the text around them

`segments` finds the comments of a stylesheet with two cuts for each and an accumulator.  Here a
comment is described by where it stands: `FirstComment` says that it opens at the first opening mark
and closes at the first closing mark behind it.  Every proof about `segments` and `stripComments` is
an induction over the comments of the text (`comment_induction`).

## Key results

- `segments_of_firstComment` / `segments_of_no_comment`: `segments`, one comment at a time
- `source_segments`: the segments put together are the stylesheet
- `count_newline_stripComments`: removing comments keeps the number of line breaks
- `stripComments_append`: comments are removed from two sheets put together as from each of them
- `origin_spec`: what is visible stands in the stylesheet, outside comments and on the same line
-/

namespace SheetAudit.Stylesheet

open SheetAudit.Text

/-- Whether a segment is a comment. -/
def Segment.isComment : Segment → Bool
  | .code _ => false
  | .comment _ => true

/-! ## One comment at a time -/

/-- The first comment of `cs` is `body` between its marks, with `u` before and `rest` behind it. -/
structure FirstComment (cs u body rest : List Char) : Prop where
  /-- The comment stands in the text. -/
  eq_append : cs = u ++ commentOpen ++ (body ++ commentClose ++ rest)
  /-- No opening mark begins before it. -/
  first_open : ¬ commentOpen <:+: u ++ ['/']
  /-- No closing mark comes before its own. -/
  first_close : ¬ commentClose <:+: body ++ ['*']

/-- The first comment is found by cutting at its opening mark and then at its closing mark. -/
theorem firstComment_iff {cs u body rest : List Char} :
    FirstComment cs u body rest ↔
      ∃ inside, cut? commentOpen cs = some (u, inside) ∧
        cut? commentClose inside = some (body, rest) := by
  have hOpen : commentOpen ≠ [] := by simp [commentOpen]
  have hClose : commentClose ≠ [] := by simp [commentClose]
  constructor
  · rintro ⟨rfl, ho, hc⟩
    exact ⟨_, cut?_append hOpen ho, cut?_append hClose hc⟩
  · rintro ⟨inside, h₁, h₂⟩
    obtain ⟨rfl, ho⟩ := (cut?_eq_some_iff hOpen).mp h₁
    obtain ⟨rfl, hc⟩ := (cut?_eq_some_iff hClose).mp h₂
    exact ⟨rfl, ho, hc⟩

/-- What follows the first comment is shorter than the text. -/
private theorem FirstComment.length_lt {cs u body rest : List Char}
    (h : FirstComment cs u body rest) :
    rest.length < cs.length := by
  rw [h.eq_append]
  simp only [commentOpen, commentClose, List.length_append, List.length_cons, List.length_nil]
  omega

/-- What is true of a text without comments, and of a text with a comment when it is true of what
    follows the comment, is true of every text. -/
theorem comment_induction {motive : List Char → Prop}
    (code : ∀ cs, (∀ u body rest, ¬ FirstComment cs u body rest) → motive cs)
    (comment : ∀ cs u body rest, FirstComment cs u body rest → motive rest → motive cs)
    (cs : List Char) : motive cs := by
  by_cases h : ∃ u body rest, FirstComment cs u body rest
  · obtain ⟨u, body, rest, h⟩ := h
    exact comment cs u body rest h (comment_induction code comment rest)
  · exact code cs fun u body rest hc => h ⟨u, body, rest, hc⟩
termination_by cs.length
decreasing_by exact h.length_lt

/-! ## The segments of a text -/

/-- A first comment, and the code in front of it, join the segments already found. -/
theorem segmentsFrom_of_firstComment {cs u body rest : List Char} (done : List Segment)
    (h : FirstComment cs u body rest) :
    segmentsFrom done cs = segmentsFrom (.comment body :: .code u :: done) rest := by
  obtain ⟨inside, ho, hc⟩ := firstComment_iff.mp h
  rw [segmentsFrom]
  -- both marks are found where the comment has them, so the other cases do not arise
  split
  · next hn => simp [ho] at hn
  · next u' inside' ho' =>
    obtain ⟨rfl, rfl⟩ : u = u' ∧ inside = inside' := by simpa [ho] using ho'
    split
    · next hn => simp [hc] at hn
    · next body' rest' hc' =>
      obtain ⟨rfl, rfl⟩ : body = body' ∧ rest = rest' := by simpa [hc] using hc'
      rfl

/-- Without a comment the rest of the text is code. -/
theorem segmentsFrom_of_no_comment {cs : List Char} (done : List Segment)
    (h : ∀ u body rest, ¬ FirstComment cs u body rest) :
    segmentsFrom done cs = done.reverse ++ [.code cs] := by
  rw [segmentsFrom]
  split
  · simp
  · next u inside ho =>
    split
    · simp
    · next body rest hc => exact absurd (firstComment_iff.mpr ⟨inside, ho, hc⟩) (h u body rest)

/-- The segments already found only go in front. -/
private theorem segmentsFrom_eq_append (done : List Segment) (cs : List Char) :
    segmentsFrom done cs = done.reverse ++ segments cs := by
  induction cs using comment_induction generalizing done with
  | code cs h =>
    rw [segments, segmentsFrom_of_no_comment done h, segmentsFrom_of_no_comment [] h]
    rfl
  | comment cs u body rest h ih =>
    rw [segments, segmentsFrom_of_firstComment done h, segmentsFrom_of_firstComment [] h,
      ih, ih [.comment body, .code u]]
    simp

/-- A text with a comment is code, the comment, and the segments behind it. -/
theorem segments_of_firstComment {cs u body rest : List Char} (h : FirstComment cs u body rest) :
    segments cs = .code u :: .comment body :: segments rest := by
  rw [segments, segmentsFrom_of_firstComment [] h, segmentsFrom_eq_append]
  rfl

/-- A text without comments is code. -/
theorem segments_of_no_comment {cs : List Char} (h : ∀ u body rest, ¬ FirstComment cs u body rest) :
    segments cs = [.code cs] :=
  segmentsFrom_of_no_comment [] h

/-- A text without an opening mark has no comment. -/
theorem not_firstComment_of_not_isInfix {cs : List Char} (h : ¬ commentOpen <:+: cs)
    (u body rest : List Char) : ¬ FirstComment cs u body rest := by
  intro hc
  apply h
  rw [hc.eq_append]
  exact List.infix_append u commentOpen _

/-- The segments put together are the text. -/
theorem source_segments (cs : List Char) : (segments cs).flatMap Segment.source = cs := by
  -- comment by comment: the marks that were cut at are put back
  induction cs using comment_induction with
  | code cs h => simp [segments_of_no_comment h, Segment.source]
  | comment cs u body rest h ih =>
    rw [segments_of_firstComment h, List.flatMap_cons, List.flatMap_cons, ih, h.eq_append]
    simp [Segment.source]

/-! ## Removing comments -/

/-- Of the first comment only its line breaks are left. -/
theorem stripComments_of_firstComment {cs u body rest : List Char}
    (h : FirstComment cs u body rest) :
    stripComments cs =
      u ++ (List.replicate (body.count '\n') '\n' ++ stripComments rest) := by
  rw [stripComments, segments_of_firstComment h]
  rfl

/-- A text without comments stays as it is. -/
theorem stripComments_of_no_comment {cs : List Char}
    (h : ∀ u body rest, ¬ FirstComment cs u body rest) : stripComments cs = cs := by
  simp [stripComments, segments_of_no_comment h, Segment.visible]

/-- A text without an opening mark stays as it is. -/
theorem stripComments_of_not_isInfix {cs : List Char} (h : ¬ commentOpen <:+: cs) :
    stripComments cs = cs :=
  stripComments_of_no_comment (not_firstComment_of_not_isInfix h)

/-- A segment keeps its line breaks. -/
theorem Segment.count_newline_visible (g : Segment) :
    g.visible.count '\n' = g.source.count '\n' := by
  cases g with
  | code text => rfl
  | comment body => simp [visible, source, commentOpen, commentClose]

/-- A segment does not get longer. -/
private theorem Segment.length_visible_le (g : Segment) : g.visible.length ≤ g.source.length := by
  cases g with
  | code text => exact Nat.le_refl _
  | comment body =>
    have := List.count_le_length (a := '\n') (l := body)
    simp only [visible, source, List.length_replicate, List.length_append]
    omega

/-- Segments in a row keep their line breaks. -/
private theorem count_newline_flatMap_visible (gs : List Segment) :
    (gs.flatMap Segment.visible).count '\n' = (gs.flatMap Segment.source).count '\n' := by
  -- by induction on the segments
  induction gs with
  | nil => rfl
  | cons g gs ih =>
    rw [List.flatMap_cons, List.flatMap_cons, List.count_append, List.count_append, ih,
      g.count_newline_visible]

/-- Removing comments keeps the number of line breaks. -/
theorem count_newline_stripComments (cs : List Char) :
    (stripComments cs).count '\n' = cs.count '\n' := by
  rw [stripComments, count_newline_flatMap_visible, source_segments]

/-! ## Two texts put together -/

/-- A comment is opened and never closed: an opening mark stands outside the comments. -/
def HasOpenComment (cs : List Char) : Prop :=
  ∃ g ∈ segments cs, g.isComment = false ∧ occurs commentOpen g.source = true

/-- The last character of the text is `c`, and it stands outside comments. -/
def EndsInCode (c : Char) (cs : List Char) : Prop :=
  ∃ g ∈ (segments cs).getLast?, g.isComment = false ∧ g.source.getLast? = some c

instance (cs : List Char) : Decidable (HasOpenComment cs) :=
  inferInstanceAs (Decidable (∃ g ∈ _, _))

instance (c : Char) (cs : List Char) : Decidable (EndsInCode c cs) :=
  inferInstanceAs (Decidable (∃ g ∈ _, _))

/-- The first comment of a text stays its first comment when the text goes on. -/
theorem FirstComment.append {cs u body rest : List Char} (h : FirstComment cs u body rest)
    (v : List Char) : FirstComment (cs ++ v) u body (rest ++ v) where
  eq_append := by rw [h.eq_append]; simp
  first_open := h.first_open
  first_close := h.first_close

/-- Text in front that has no opening mark, nor ends in half of one, joins what precedes the first
    comment. -/
theorem firstComment_append_iff {cs v w body rest : List Char} (hcs : ¬ commentOpen <:+: cs)
    (hseam : ¬ (cs.getLast? = some '/' ∧ v.head? = some '*')) :
    FirstComment (cs ++ v) w body rest ↔ ∃ u, w = cs ++ u ∧ FirstComment v u body rest := by
  simp only [firstComment_iff, commentOpen, cut?_pair_append hcs hseam, Option.map_eq_some_iff]
  constructor
  · rintro ⟨inside, ⟨⟨u, inside'⟩, hv, hp⟩, hc⟩
    obtain ⟨rfl, rfl⟩ := Prod.mk.inj hp
    exact ⟨u, rfl, inside', hv, hc⟩
  · rintro ⟨u, rfl, inside, hv, hc⟩
    exact ⟨inside, ⟨(u, inside), hv, rfl⟩, hc⟩

/-- Comments are removed from two texts put together as from each of them, unless a comment of the
    first is never closed or an opening mark stands across the seam. -/
theorem stripComments_append {a b : List Char} (hopen : ¬ HasOpenComment a)
    (hseam : ¬ (EndsInCode '/' a ∧ b.head? = some '*')) :
    stripComments (a ++ b) = stripComments a ++ stripComments b := by
  -- by induction on the comments of the first text, which the second does not change
  induction a using comment_induction with
  | code a h =>
    have hsegs := segments_of_no_comment h
    -- all of `a` is code, so that the two hypotheses are about its text
    have ha : ¬ commentOpen <:+: a := fun hin =>
      hopen ⟨.code a, by simp [hsegs], rfl, (occurs_iff_isInfix (by simp [commentOpen])).mpr hin⟩
    have hseam' : ¬ (a.getLast? = some '/' ∧ b.head? = some '*') := fun hs =>
      hseam ⟨⟨.code a, by simp [hsegs], rfl, hs.1⟩, hs.2⟩
    rw [stripComments_of_no_comment h]
    by_cases hb : ∃ u body rest, FirstComment b u body rest
    · obtain ⟨u, body, rest, hb⟩ := hb
      have hab := (firstComment_append_iff ha hseam').mpr ⟨u, rfl, hb⟩
      rw [stripComments_of_firstComment hab, stripComments_of_firstComment hb, List.append_assoc]
    · have hab : ∀ u body rest, ¬ FirstComment (a ++ b) u body rest := by
        intro u body rest hc
        obtain ⟨w, -, hw⟩ := (firstComment_append_iff ha hseam').mp hc
        exact hb ⟨w, body, rest, hw⟩
      rw [stripComments_of_no_comment hab, stripComments_of_no_comment fun u body rest hc =>
        hb ⟨u, body, rest, hc⟩]
  | comment a u body rest h ih =>
    -- what follows the first comment of `a` has the later segments of `a`, and its last one
    have hsegs := segments_of_firstComment h
    have hopen' : ¬ HasOpenComment rest := by
      rintro ⟨g, hmem, hg⟩
      exact hopen ⟨g, by simp [hsegs, hmem], hg⟩
    have hseam' : ¬ (EndsInCode '/' rest ∧ b.head? = some '*') := by
      rintro ⟨⟨g, hlast, hg⟩, hb⟩
      exact hseam ⟨⟨g, by simp [hsegs, List.getLast?_cons, Option.mem_def.mp hlast], hg⟩, hb⟩
    rw [stripComments_of_firstComment (h.append b), stripComments_of_firstComment h,
      ih hopen' hseam']
    simp only [List.append_assoc]

/-! ## Where visible text comes from -/

/-- Whether an offset into the text of the segments falls into a comment. -/
def inComment : List Segment → Nat → Bool
  | [], _ => false
  | g :: gs, q =>
    if q < g.source.length then g.isComment else inComment gs (q - g.source.length)

/-- The offset into the text of the segments that belongs to an offset into what is visible of them.
    The line breaks kept of a comment are sent to the start of that comment. -/
def origin : List Segment → Nat → Nat
  | [], q => q
  | g :: gs, q =>
    if q < g.visible.length then q else g.source.length + origin gs (q - g.visible.length)

/-- What is visible of the first segment stands where it stood. -/
theorem origin_cons_of_lt {g : Segment} {gs : List Segment} {q : Nat}
    (h : q < g.visible.length) : origin (g :: gs) q = q := by
  rw [origin, if_pos h]

/-- What is visible of later segments stands behind the first one. -/
theorem origin_cons_of_ge {g : Segment} {gs : List Segment} {q : Nat}
    (h : ¬ q < g.visible.length) :
    origin (g :: gs) q = g.source.length + origin gs (q - g.visible.length) := by
  rw [origin, if_neg h]

/-- What is visible keeps its order. -/
theorem strictMono_origin (gs : List Segment) : StrictMono (origin gs) := by
  -- by induction on the segments: in one segment the order is kept, and the next one starts behind
  -- it
  induction gs with
  | nil => exact fun _ _ h => h
  | cons g gs ih =>
    intro p q hpq
    have hle := g.length_visible_le
    by_cases hq : q < g.visible.length
    · rw [origin_cons_of_lt hq, origin_cons_of_lt (by omega)]
      exact hpq
    · rw [origin_cons_of_ge hq]
      by_cases hp : p < g.visible.length
      · rw [origin_cons_of_lt hp]
        omega
      · rw [origin_cons_of_ge hp]
        have := ih (show p - g.visible.length < q - g.visible.length by omega)
        omega

/-- A visible character other than a line break stands at its origin, outside comments, behind as
    many line breaks as it has before it in what is visible. -/
theorem origin_spec {gs : List Segment} {q : Nat} {c : Char} (hc : c ≠ '\n')
    (h : (gs.flatMap Segment.visible)[q]? = some c) :
    (gs.flatMap Segment.source)[origin gs q]? = some c ∧
      inComment gs (origin gs q) = false ∧
      ((gs.flatMap Segment.source).take (origin gs q)).count '\n' =
        ((gs.flatMap Segment.visible).take q).count '\n' := by
  -- by induction on the segments, to the one with the character
  induction gs generalizing q with
  | nil => simp at h
  | cons g gs ih =>
    simp only [List.flatMap_cons] at h ⊢
    by_cases hq : q < g.visible.length
    · rw [List.getElem?_append_left hq] at h
      cases g with
      | code text =>
        -- code is visible as it stands
        have hq' : q < (Segment.code text).source.length := hq
        rw [origin_cons_of_lt hq, inComment, if_pos hq', List.getElem?_append_left hq',
          List.take_append_of_le_length hq.le, List.take_append_of_le_length hq'.le]
        exact ⟨h, rfl, rfl⟩
      | comment body =>
        -- of a comment only line breaks are visible
        simp only [Segment.visible, List.getElem?_replicate] at h
        split at h
        · exact absurd (Option.some.inj h).symm hc
        · exact absurd h (by simp)
    · rw [List.getElem?_append_right (by omega)] at h
      -- the character is in a later segment
      obtain ⟨hget, hout, hcount⟩ := ih h
      rw [origin_cons_of_ge hq]
      refine ⟨?_, ?_, ?_⟩
      · rw [List.getElem?_append_right (by omega), Nat.add_sub_cancel_left, hget]
      · rw [inComment, if_neg (by omega), Nat.add_sub_cancel_left, hout]
      · rw [List.take_length_add_append, List.take_append, List.count_append, List.count_append,
          hcount, List.take_of_length_le (Nat.le_of_not_lt hq), g.count_newline_visible]

end SheetAudit.Stylesheet
