import SheetAudit.Proofs.Comments

/-!
# How a text splits into code and comments

A text is code and comments in turn: each comment opens at the leftmost opening mark behind the
comment before it and closes at the first closing mark, and behind the last comment no opening mark
is ever closed.  `CommentLayout.Describes` says this by places in the text, without a scan; exactly
one layout describes a text, and `stripComments` can be read off it.

## Key results

- `leftmost_iff` / `closesLast_iff_not_isInfix`: first occurrences of a mark, by place and by infix
- `describes_cons_iff` / `describes_nil_iff`: a layout, one comment at a time
- `segments_of_describes`: the segments of a text are those of its layout
- `suffix_stripComments_of_open`: a comment that is never closed stays as it is
- `exists_origin_eq`: text outside comments stays on its line
-/

namespace SheetAudit.Stylesheet

open SheetAudit.Text

/-! ## First occurrences by place -/

section Marks

variable {mark b w : List Char}

/-- A mark is where it first occurs exactly if it does not begin inside what precedes it. -/
theorem leftmost_iff (hm : mark ≠ []) :
    (∀ u v, b ++ mark ++ w = u ++ mark ++ v → b.length ≤ u.length) ↔
      ¬ mark <:+: b ++ mark.dropLast := by
  have hpos := List.length_pos_iff.mpr hm
  have hmark := List.dropLast_concat_getLast hm
  constructor
  · rintro h ⟨u, v, hin⟩
    -- an occurrence that ends before the mark does is one to the left of it
    have hleft := h u (v ++ mark.getLast hm :: w) (by
      rw [← List.append_assoc, hin, List.append_assoc b, List.append_assoc b,
        List.append_cons mark.dropLast, hmark])
    have hlen := congrArg List.length hin
    simp only [List.length_append, List.length_dropLast] at hlen
    omega
  · intro h u v heq
    by_contra hlt
    apply h
    -- what ends with the earlier occurrence is a prefix that stops before the mark does
    have hpre : u ++ mark <+: b ++ mark.dropLast := by
      have hwhole : u ++ mark <+: b ++ mark ++ w := ⟨v, heq.symm⟩
      refine List.prefix_of_prefix_length_le hwhole ?_ ?_
      · refine ⟨mark.getLast hm :: w, ?_⟩
        rw [List.append_assoc b, List.append_assoc b, List.append_cons mark.dropLast, hmark]
      · simp only [List.length_append, List.length_dropLast]
        omega
    exact (List.suffix_append u mark).isInfix.trans hpre.isInfix

/-- A mark occurs only at the end exactly if it does not begin inside what precedes it. -/
theorem closesLast_iff_not_isInfix (hm : mark ≠ []) :
    (∀ u v, b ++ mark = u ++ mark ++ v → v = []) ↔ ¬ mark <:+: b ++ mark.dropLast := by
  rw [← leftmost_iff (w := []) hm]
  refine forall_congr' fun u => forall_congr' fun v => ?_
  rw [List.append_nil]
  refine imp_congr_right fun heq => ?_
  have hlen := congrArg List.length heq
  simp only [List.length_append] at hlen
  rw [← List.length_eq_zero_iff]
  omega

end Marks

/-! ## Layouts -/

/-- A comment, given by the text between its marks, and the code between it and the comment before
    it. -/
structure Commented where
  /-- The code in front of the comment. -/
  before : List Char
  /-- The text between the marks of the comment. -/
  body : List Char
  deriving DecidableEq, Repr

/-- The comment as it stands in the text. -/
def Commented.comment (c : Commented) : List Char :=
  commentOpen ++ c.body ++ commentClose

/-- A text as code and comments in turn. -/
structure CommentLayout where
  /-- The comments, each with the code in front of it. -/
  comments : List Commented
  /-- The code behind the last comment. -/
  tail : List Char
  deriving DecidableEq, Repr

namespace CommentLayout

/-- The text of a layout. -/
def source (d : CommentLayout) : List Char :=
  d.comments.flatMap (fun c => c.before ++ c.comment) ++ d.tail

/-- The code and the comments of a layout as segments. -/
def segments (d : CommentLayout) : List Segment :=
  d.comments.flatMap (fun c => [.code c.before, .comment c.body]) ++ [.code d.tail]

/-- Whether a layout is that of a text. -/
structure Describes (d : CommentLayout) (cs : List Char) : Prop where
  /-- Code and comments put together are the text. -/
  source_eq : d.source = cs
  /-- The closing mark of a comment occurs only at its end. -/
  closes : ∀ c ∈ d.comments, ∀ u v, c.body ++ commentClose = u ++ commentClose ++ v → v = []
  /-- A comment opens at the leftmost opening mark behind the comment before it. -/
  opens : ∀ done c rest, d.comments = done ++ c :: rest →
    ∀ u v, source ⟨c :: rest, d.tail⟩ = u ++ commentOpen ++ v → c.before.length ≤ u.length
  /-- Behind the last comment no opening mark is followed by a closing mark. -/
  open_tail : ∀ u v, d.tail = u ++ commentOpen ++ v → ¬ commentClose <:+: v

/-- The text of a layout, with its first comment apart. -/
private theorem source_cons (c : Commented) (rest : List Commented) (tail : List Char) :
    source ⟨c :: rest, tail⟩ =
      c.before ++ commentOpen ++ (c.body ++ commentClose ++ source ⟨rest, tail⟩) := by
  simp [source, Commented.comment]

/-- The segments of a layout, with those of its first comment apart. -/
private theorem segments_cons (c : Commented) (rest : List Commented) (tail : List Char) :
    segments ⟨c :: rest, tail⟩ = .code c.before :: .comment c.body :: segments ⟨rest, tail⟩ := by
  simp [segments]

/-- The segments of a layout determine it. -/
theorem segments_injective : Function.Injective segments := by
  rintro ⟨cs, t⟩ ⟨cs', t'⟩ h
  -- both layouts lose their first comment, or neither has one
  induction cs generalizing cs' with
  | nil =>
    cases cs' with
    | nil => simpa [segments] using h
    | cons c' cs' => simp [segments] at h
  | cons c cs ih =>
    cases cs' with
    | nil => simp [segments] at h
    | cons c' cs' =>
      rw [segments_cons, segments_cons] at h
      simp only [List.cons.injEq, Segment.code.injEq, Segment.comment.injEq] at h
      obtain ⟨hbefore, hbody, hrest⟩ := h
      obtain ⟨rfl, rfl⟩ := CommentLayout.mk.inj (ih cs' hrest)
      rw [show c = c' from by cases c; cases c'; simp_all]

/-! ## One comment at a time -/

/-- A text has no comment exactly if none of its opening marks is followed by a closing mark. -/
theorem no_firstComment_iff {cs : List Char} :
    (∀ u body rest, ¬ FirstComment cs u body rest) ↔
      ∀ u v, cs = u ++ commentOpen ++ v → ¬ commentClose <:+: v := by
  have hOpen : commentOpen ≠ [] := by simp [commentOpen]
  have hClose : commentClose ≠ [] := by simp [commentClose]
  constructor
  · rintro h u v rfl hin
    -- the first opening mark is there or to the left, so the closing mark is behind it as well
    have hocc : commentOpen <:+: u ++ commentOpen ++ v := List.infix_append u commentOpen v
    cases hcut : cut? commentOpen (u ++ commentOpen ++ v) with
    | none => exact (cut?_eq_none_iff hOpen).mp hcut hocc
    | some p =>
      obtain ⟨u₀, inside⟩ := p
      obtain ⟨heq, hfirst⟩ := (cut?_eq_some_iff hOpen).mp hcut
      have hle : u₀.length ≤ u.length := (leftmost_iff hOpen).mpr hfirst u v heq.symm
      have hsuffix : v <:+ inside := by
        refine List.suffix_of_suffix_length_le (List.suffix_append (u ++ commentOpen) v) ?_ ?_
        · rw [heq]
          exact List.suffix_append _ inside
        · have hlen := congrArg List.length heq
          simp only [List.length_append] at hlen
          omega
      cases hcut' : cut? commentClose inside with
      | none => exact (cut?_eq_none_iff hClose).mp hcut' (hin.trans hsuffix.isInfix)
      | some q => exact h u₀ q.1 q.2 (firstComment_iff.mpr ⟨inside, hcut, hcut'⟩)
  · intro h u body rest hc
    apply h u _ hc.eq_append
    exact List.infix_append body commentClose rest

/-- A layout without comments is that of a text without comments. -/
theorem describes_nil_iff {tail cs : List Char} :
    Describes ⟨[], tail⟩ cs ↔ tail = cs ∧ ∀ u body rest, ¬ FirstComment cs u body rest := by
  rw [no_firstComment_iff]
  constructor
  · intro h
    have heq : tail = cs := h.source_eq
    exact ⟨heq, heq ▸ h.open_tail⟩
  · rintro ⟨rfl, h⟩
    exact ⟨rfl, by simp, by simp, h⟩

/-- A layout with a comment is that of a text whose first comment it is. -/
theorem describes_cons_iff {c : Commented} {rest : List Commented} {tail cs : List Char} :
    Describes ⟨c :: rest, tail⟩ cs ↔
      FirstComment cs c.before c.body (source ⟨rest, tail⟩) ∧
        Describes ⟨rest, tail⟩ (source ⟨rest, tail⟩) := by
  have hOpen : commentOpen ≠ [] := by simp [commentOpen]
  have hClose : commentClose ≠ [] := by simp [commentClose]
  constructor
  -- what is said of each comment is said of the first one, and of the others
  · intro h
    refine ⟨⟨?_, ?_, ?_⟩, ⟨rfl, ?_, ?_, h.open_tail⟩⟩
    · rw [← source_cons, h.source_eq]
    · have hfirst := h.opens [] c rest rfl
      rw [source_cons] at hfirst
      exact (leftmost_iff hOpen).mp hfirst
    · exact (closesLast_iff_not_isInfix hClose).mp (h.closes c List.mem_cons_self)
    · exact fun c' hc' => h.closes c' (List.mem_cons_of_mem c hc')
    · intro done c' rest' heq
      exact h.opens (c :: done) c' rest' (congrArg (c :: ·) heq)
  · rintro ⟨hfirst, hrest⟩
    refine ⟨by rw [source_cons, hfirst.eq_append], ?_, ?_, hrest.open_tail⟩
    · intro c' hc'
      rcases List.mem_cons.mp hc' with rfl | hc'
      · exact (closesLast_iff_not_isInfix hClose).mpr hfirst.first_close
      · exact hrest.closes c' hc'
    · intro done c' rest' heq
      cases done with
      | nil =>
        obtain ⟨rfl, rfl⟩ := List.cons.inj heq
        rw [source_cons]
        exact (leftmost_iff hOpen).mpr hfirst.first_open
      | cons d done => exact hrest.opens done c' rest' (List.cons.inj heq).2

/-- The segments of a text are those of any layout that describes it. -/
theorem segments_of_describes {d : CommentLayout} {cs : List Char} (h : d.Describes cs) :
    Stylesheet.segments cs = d.segments := by
  obtain ⟨comments, tail⟩ := d
  induction comments generalizing cs with
  | nil =>
    obtain ⟨rfl, hnone⟩ := describes_nil_iff.mp h
    rw [segments_of_no_comment hnone]
    rfl
  | cons c rest ih =>
    obtain ⟨hfirst, hrest⟩ := describes_cons_iff.mp h
    rw [segments_of_firstComment hfirst, segments_cons, ih hrest]

/-- Every text has a layout. -/
theorem exists_describes (cs : List Char) : ∃ d : CommentLayout, d.Describes cs := by
  induction cs using comment_induction with
  | code cs h => exact ⟨⟨[], cs⟩, describes_nil_iff.mpr ⟨rfl, h⟩⟩
  | comment cs u body rest h ih =>
    obtain ⟨⟨comments, tail⟩, hd⟩ := ih
    have hsource : source ⟨comments, tail⟩ = rest := hd.source_eq
    refine ⟨⟨⟨u, body⟩ :: comments, tail⟩, describes_cons_iff.mpr ?_⟩
    rw [hsource]
    exact ⟨h, hd⟩

/-- What is visible of a layout: the code, and of each comment its line breaks. -/
private theorem flatMap_visible_segments (d : CommentLayout) :
    d.segments.flatMap Segment.visible =
      d.comments.flatMap (fun c =>
        c.before ++ List.replicate (c.comment.count '\n') '\n') ++ d.tail := by
  obtain ⟨comments, tail⟩ := d
  induction comments with
  | nil => simp [segments, Segment.visible]
  | cons c rest ih =>
    have hcount : c.comment.count '\n' = c.body.count '\n' := by
      simp [Commented.comment, commentOpen, commentClose]
    rw [segments_cons, List.flatMap_cons, List.flatMap_cons, ih]
    simp [Segment.visible, hcount]

end CommentLayout

/-! ## What stays -/

/-- An offset in front of the first comment is outside comments, one in the comment is not, and one
    behind the comment is where it is in the rest. -/
private theorem inComment_of_firstComment {cs u body rest : List Char}
    (h : FirstComment cs u body rest) (q : Nat) :
    inComment (segments cs) q =
      if q < u.length then false
      else if q < u.length + (body.length + 4) then true
      else inComment (segments rest) (q - u.length - (body.length + 4)) := by
  have hlen : (Segment.comment body).source.length = body.length + 4 := by
    simp [Segment.source, commentOpen, commentClose]
  rw [segments_of_firstComment h, inComment, inComment, hlen]
  show (if q < u.length then false else if q - u.length < body.length + 4 then true else _) = _
  split
  · rfl
  · congr 1
    simp only [eq_iff_iff]
    omega

/-- A comment that is never closed stays as it is: an opening mark outside comments has no closing
    mark behind it, and with all that follows it ends the text without its comments too. -/
theorem suffix_stripComments_of_open {cs u v : List Char} (heq : cs = u ++ commentOpen ++ v)
    (hout : inComment (segments cs) u.length = false) :
    ¬ commentClose <:+: v ∧ commentOpen ++ v <:+ stripComments cs := by
  induction cs using comment_induction generalizing u with
  | code cs h =>
    refine ⟨CommentLayout.no_firstComment_iff.mp h u v heq, ?_⟩
    rw [stripComments_of_no_comment h, heq, List.append_assoc]
    exact List.suffix_append u _
  | comment cs w body rest h ih =>
    have hOpen : commentOpen ≠ [] := by simp [commentOpen]
    -- the mark is not left of the first comment, and so it is right of it
    have hle : w.length ≤ u.length :=
      (leftmost_iff hOpen).mpr h.first_open u v (h.eq_append ▸ heq)
    rw [inComment_of_firstComment h, if_neg (by omega)] at hout
    split at hout
    · cases hout
    · next hge =>
      have hpre : w ++ commentOpen ++ (body ++ commentClose) <+: u := by
        have hwhole : w ++ commentOpen ++ (body ++ commentClose) <+: cs := by
          refine ⟨rest, ?_⟩
          rw [h.eq_append]
          simp
        refine List.prefix_of_prefix_length_le hwhole ⟨commentOpen ++ v, ?_⟩ ?_
        · rw [heq, List.append_assoc]
        · simp only [commentOpen, commentClose, List.length_append, List.length_cons,
            List.length_nil]
          omega
      -- what stands before the mark in the rest is the part behind the first comment
      obtain ⟨u', rfl⟩ := hpre
      have hrest : rest = u' ++ commentOpen ++ v := by
        have := h.eq_append.symm.trans heq
        simpa using this
      have hlen : (w ++ commentOpen ++ (body ++ commentClose) ++ u').length - w.length -
          (body.length + 4) = u'.length := by
        simp only [commentOpen, commentClose, List.length_append, List.length_cons, List.length_nil]
        omega
      rw [hlen] at hout
      obtain ⟨hv, hsuffix⟩ := ih hrest hout
      rw [stripComments_of_firstComment h]
      exact ⟨hv, hsuffix.trans ((List.suffix_append _ _).trans (List.suffix_append w _))⟩

/-- A character outside comments is the origin of a visible character, behind as many line
    breaks. -/
theorem exists_origin_eq {gs : List Segment} {q : Nat} {c : Char}
    (h : (gs.flatMap Segment.source)[q]? = some c) (hout : inComment gs q = false) :
    ∃ p, origin gs p = q ∧ (gs.flatMap Segment.visible)[p]? = some c ∧
      ((gs.flatMap Segment.visible).take p).count '\n' =
        ((gs.flatMap Segment.source).take q).count '\n' := by
  induction gs generalizing q with
  | nil => simp at h
  | cons g gs ih =>
    simp only [List.flatMap_cons] at h ⊢
    rw [inComment] at hout
    split at hout
    · next hq =>
      -- the segment is code, which is visible as it stands
      cases g with
      | comment body => cases hout
      | code text =>
        have hq' : q < (Segment.code text).visible.length := hq
        rw [List.getElem?_append_left hq] at h
        refine ⟨q, origin_cons_of_lt hq', ?_, ?_⟩
        · rw [List.getElem?_append_left hq']
          exact h
        · rw [List.take_append_of_le_length hq.le, List.take_append_of_le_length hq'.le]
          rfl
    · next hq =>
      -- the offset lies in the segments behind this one, and is shifted by it on both sides
      rw [List.getElem?_append_right (by omega)] at h
      obtain ⟨p, hp, hget, hcount⟩ := ih h hout
      refine ⟨g.visible.length + p, ?_, ?_, ?_⟩
      · rw [origin_cons_of_ge (by omega), Nat.add_sub_cancel_left, hp]
        omega
      · rw [List.getElem?_append_right (by omega), Nat.add_sub_cancel_left, hget]
      · rw [List.take_length_add_append, List.take_append, List.count_append, List.count_append,
          hcount, List.take_of_length_le (Nat.le_of_not_lt hq), g.count_newline_visible]

/-- Exactly one layout describes a text, and the text without comments is the code of that layout
    with the line breaks of its comments.  So the number of line breaks stays, a comment that is
    never closed stays as it is, and what stands outside comments keeps its order and its line. -/
theorem stripComments_existsUnique_layout (cs : List Char) :
    ∃ d : CommentLayout, d.Describes cs ∧ (∀ d' : CommentLayout, d'.Describes cs → d' = d) ∧
      stripComments cs =
        d.comments.flatMap (fun c =>
          c.before ++ List.replicate (c.comment.count '\n') '\n') ++ d.tail ∧
      (stripComments cs).count '\n' = cs.count '\n' ∧
      (∀ u v, cs = u ++ commentOpen ++ v → inComment d.segments u.length = false →
        ¬ commentClose <:+: v ∧ commentOpen ++ v <:+ stripComments cs) ∧
      ∃ place : Nat → Nat, StrictMono place ∧
        ∀ q c, cs[q]? = some c → inComment d.segments q = false →
          ∃ p, place p = q ∧ (stripComments cs)[p]? = some c ∧
            ((stripComments cs).take p).count '\n' = (cs.take q).count '\n' := by
  obtain ⟨d, hd⟩ := CommentLayout.exists_describes cs
  have hsegments := CommentLayout.segments_of_describes hd
  have hsource : d.segments.flatMap Segment.source = cs := by
    rw [← hsegments, source_segments]
  have hvisible : stripComments cs = d.segments.flatMap Segment.visible := by
    rw [stripComments, hsegments]
  refine ⟨d, hd, fun d' hd' => ?_, ?_, count_newline_stripComments cs, fun u v heq hout => ?_,
    origin d.segments, strictMono_origin _, fun q c hget hout => ?_⟩
  -- all layouts of the text have its segments
  · apply CommentLayout.segments_injective
    rw [← CommentLayout.segments_of_describes hd', hsegments]
  · rw [hvisible, d.flatMap_visible_segments]
  · rw [← hsegments] at hout
    exact suffix_stripComments_of_open heq hout
  · have h : (d.segments.flatMap Segment.source)[q]? = some c := by rw [hsource, hget]
    obtain ⟨p, hp, hget', hcount⟩ := exists_origin_eq h hout
    rw [hsource] at hcount
    rw [hvisible]
    exact ⟨p, hp, hget', hcount⟩

end SheetAudit.Stylesheet
