import Mathlib.Data.List.DropRight
import Mathlib.Data.List.Infix
import SheetAudit.Console.Markup
import SheetAudit.Proofs.Cut

/-!
# Text with tags around it

A line of a report is a text with tags of its own, in which names from outside are put.  Such a line
can be read if no tag starts in the names: its tags are then those that were written around the
names, but for one that a backslash at the end of a name may turn into text, and what is opened by
them is closed by them.

## Key results

- `tokensFrom_nil` / `tokensFrom_cons` / `tokensFrom_tag`: how a text is cut
- `hasTags_of_freeOfTags` / `HasTags.append_tag`: the tags of a text, piece by piece
- `addTokens_of_pairUp`: tags that pair up can be read
- `exists_render`: a text whose tags pair up is read
- `render_unmatched`: a text that closes what is not open is not
-/

namespace SheetAudit.Console

namespace Markup

variable {cs u v content rest : List Char} {tags : List (List Char)}

/-! ## Finding tags -/

/-- Whether no tag starts in a text. -/
def FreeOfTags (cs : List Char) : Prop :=
  ∀ c, isTagStart c = true → ¬['[', c] <:+: cs

/-- No tag starts in a text without opening brackets. -/
theorem freeOfTags_of_not_mem (h : '[' ∉ cs) : FreeOfTags cs :=
  fun _ _ hmem => h (hmem.subset List.mem_cons_self)

/-- If no tag starts in a text, none starts in a part of it. -/
theorem FreeOfTags.of_infix (h : FreeOfTags cs) (hu : u <:+: cs) : FreeOfTags u :=
  fun c hc hmem => h c hc (hmem.trans hu)

/-- No tag starts at the front of a text in which none starts, whatever follows it, as long as that
    does not go on with one. -/
theorem tag?_append_of_freeOfTags (hu : FreeOfTags u) (hne : u ≠ [])
    (hv : ∀ c ∈ v.head?, isTagStart c = false) : tag? (u ++ v) = none := by
  cases u with
  | nil => exact absurd rfl hne
  | cons c u =>
    -- only behind an opening bracket can there be a tag, and the next character starts none
    by_cases hc : c = '['
    · subst hc
      cases u with
      | nil =>
        cases v with
        | nil => rfl
        | cons d v => simp [tag?, hv d rfl]
      | cons d u =>
        have hd : isTagStart d = false :=
          Bool.eq_false_iff.mpr fun h => hu d h ⟨[], u, rfl⟩
        simp [tag?, hd]
    · rw [List.cons_append, tag?.eq_def]
      simp [hc]

/-- What can stand between the brackets of a tag. -/
def IsTag (content : List Char) : Prop :=
  ∃ c inside, content = c :: inside ∧ isTagStart c = true ∧ ∀ d ∈ inside, d ≠ '[' ∧ d ≠ ']'

/-- What can stand between the brackets of a tag is found as one. -/
theorem tag?_of_isTag (h : IsTag content) (rest : List Char) :
    tag? ('[' :: content ++ ']' :: rest) = some (content, rest) := by
  obtain ⟨c, inside, rfl, hc, hinside⟩ := h
  have hall : ∀ d ∈ inside, (d != '[' && d != ']') = true := by simpa using hinside
  simp [tag?, hc, List.takeWhile_append_of_pos hall, List.dropWhile_append_of_pos hall]

/-! ## Cutting a text, step by step -/

/-- The tokens of a tag with backslashes before it. -/
def tagTokens (position slashes : Nat) (content : List Char) : List Token :=
  (if 2 ≤ slashes then [.text (List.replicate (slashes / 2) '\\')] else []) ++
    [if slashes % 2 = 1 then .text ('[' :: content ++ [']']) else .tag (position + slashes) content]

/-- At the end of a text, what was passed is the last token. -/
theorem tokensFrom_nil (fuel position : Nat) (passed : List Char) (done : List Token) :
    tokensFrom fuel position passed done [] = (plain passed ++ done).reverse := by
  cases fuel <;> rfl

/-- A character at which no tag starts is passed. -/
theorem tokensFrom_cons {c : Char} {fuel position : Nat} {passed : List Char} {done : List Token}
    (h : tag? ((c :: cs).dropWhile (· == '\\')) = none) :
    tokensFrom (fuel + 1) position passed done (c :: cs) =
      tokensFrom fuel (position + 1) (c :: passed) done cs := by
  rw [tokensFrom, h]

/-- A tag with backslashes in front of it ends the plain text, and is cut off in one step. -/
theorem tokensFrom_tag (hcontent : IsTag content) (k fuel position : Nat) (passed : List Char)
    (done : List Token) :
    tokensFrom (fuel + 1) position passed done
        (List.replicate k '\\' ++ ('[' :: content ++ ']' :: rest)) =
      tokensFrom fuel (position + k + content.length + 2) []
        ((tagTokens position k content).reverse ++ plain passed ++ done) rest := by
  have hslash : ∀ c ∈ List.replicate k '\\', (c == '\\') = true := by simp
  -- the backslashes are taken whole, since a bracket follows them
  have htake : ((List.replicate k '\\' ++ ('[' :: content ++ ']' :: rest)).takeWhile
      (· == '\\')).length = k := by
    rw [List.takeWhile_append_of_pos hslash]
    simp
  have hdrop : (List.replicate k '\\' ++ ('[' :: content ++ ']' :: rest)).dropWhile (· == '\\') =
      '[' :: content ++ ']' :: rest := by
    rw [List.dropWhile_append_of_pos hslash]
    simp
  obtain ⟨c, cs, htext⟩ := List.exists_cons_of_ne_nil
    (l := List.replicate k '\\' ++ ('[' :: content ++ ']' :: rest)) (by simp)
  rw [htext] at htake hdrop ⊢
  rw [tokensFrom, hdrop, tag?_of_isTag hcontent]
  dsimp only
  rw [htake, tagTokens]
  split <;> split <;> simp

/-- The backslashes at the front of a text that does not end with one are followed by something. -/
theorem dropWhile_slash_ne_nil {c : Char} (h : (c :: u).getLast? ≠ some '\\') :
    (c :: u).dropWhile (· == '\\') ≠ [] := by
  intro hnil
  obtain ⟨d, hd⟩ := Option.isSome_iff_exists.mp (List.getLast?_isSome.mpr (List.cons_ne_nil c u))
  -- otherwise the last character would be a backslash as well
  have hslash := List.dropWhile_eq_nil_iff.mp hnil d (List.mem_of_getLast? hd)
  exact h (hd.trans (congrArg some (beq_iff_eq.mp hslash)))

/-! ## The tags of a text -/

/-- The tags among tokens. -/
def tagsOf (tokens : List Token) : List (List Char) :=
  tokens.filterMap fun
    | .text _ => none
    | .tag _ content => some content

/-- No tokens have no tags. -/
@[simp]
theorem tagsOf_nil : tagsOf [] = [] := rfl

/-- Plain text is no tag. -/
@[simp]
theorem tagsOf_text_cons (cs : List Char) (ts : List Token) :
    tagsOf (.text cs :: ts) = tagsOf ts := rfl

/-- A tag is the first of the tags. -/
@[simp]
theorem tagsOf_tag_cons (position : Nat) (content : List Char) (ts : List Token) :
    tagsOf (.tag position content :: ts) = content :: tagsOf ts := rfl

/-- The tags of tokens in a row are put together. -/
@[simp]
theorem tagsOf_append (xs ys : List Token) : tagsOf (xs ++ ys) = tagsOf xs ++ tagsOf ys :=
  List.filterMap_append

/-- The tags of reversed tokens are reversed. -/
@[simp]
theorem tagsOf_reverse (xs : List Token) : tagsOf xs.reverse = (tagsOf xs).reverse :=
  List.filterMap_reverse

/-- What was passed has no tags. -/
@[simp]
theorem tagsOf_plain (passed : List Char) : tagsOf (plain passed) = [] := by
  unfold plain
  split <;> rfl

/-- A tag counts unless an odd number of backslashes makes it text. -/
@[simp]
theorem tagsOf_tagTokens (position k : Nat) (content : List Char) :
    tagsOf (tagTokens position k content) = if k % 2 = 1 then [] else [content] := by
  unfold tagTokens
  split <;> split <;> rfl

/-- Whether a text has the given tags, wherever it stands. -/
def HasTags (cs : List Char) (tags : List (List Char)) : Prop :=
  ∀ fuel position passed done, cs.length ≤ fuel →
    tagsOf (tokensFrom fuel position passed done cs) = (tagsOf done).reverse ++ tags

/-- The tags of a whole text are among its tokens. -/
theorem HasTags.tagsOf_tokens (h : HasTags cs tags) : tagsOf (tokens cs) = tags :=
  h _ _ _ _ le_rfl

/-- The empty text has no tags. -/
theorem hasTags_nil : HasTags [] [] := by
  intro fuel position passed done _
  simp [tokensFrom_nil]

/-- A character at which no tag starts. -/
theorem HasTags.cons {c : Char} (h : tag? ((c :: cs).dropWhile (· == '\\')) = none)
    (hcs : HasTags cs tags) : HasTags (c :: cs) tags := by
  intro fuel position passed done hfuel
  cases fuel with
  | zero => simp at hfuel
  | succ fuel =>
    rw [tokensFrom_cons h]
    exact hcs fuel _ _ _ (by simpa using hfuel)

/-- Backslashes and a tag: an odd number of them makes the tag text. -/
theorem HasTags.slashes_tag (hcontent : IsTag content) (hrest : HasTags rest tags) (k : Nat) :
    HasTags (List.replicate k '\\' ++ ('[' :: content ++ ']' :: rest))
      (if k % 2 = 1 then tags else content :: tags) := by
  intro fuel position passed done hfuel
  have hlength : rest.length + 2 ≤ fuel := by
    simp only [List.length_append, List.length_cons] at hfuel
    omega
  cases fuel with
  | zero => omega
  | succ fuel =>
    rw [tokensFrom_tag hcontent, hrest fuel _ _ _ (by omega)]
    -- only the tag itself counts among the new tokens, if it is one
    split <;> simp [*]

/-- Text in which no tag starts, up to something that is no backslash. -/
theorem HasTags.append (hu : FreeOfTags u) (hlast : u.getLast? ≠ some '\\')
    (hv : ∀ c ∈ v.head?, isTagStart c = false) (h : HasTags v tags) : HasTags (u ++ v) tags := by
  -- by induction on the text in front: each of its characters is passed
  induction u with
  | nil => exact h
  | cons c u ih =>
    have hu' : FreeOfTags u := hu.of_infix (List.suffix_cons c u).isInfix
    have hlast' : u.getLast? ≠ some '\\' := by
      cases u with
      | nil => simp
      | cons d u => simpa using hlast
    refine HasTags.cons ?_ (ih hu' hlast')
    -- the backslashes end before the text does
    have hne := dropWhile_slash_ne_nil hlast
    show tag? ((c :: u ++ v).dropWhile (· == '\\')) = none
    rw [List.dropWhile_append, List.isEmpty_eq_false_iff.mpr hne]
    exact tag?_append_of_freeOfTags (hu.of_infix (List.dropWhile_suffix _).isInfix) hne hv

/-- Text in which no tag starts, and a tag that is not behind a backslash. -/
theorem HasTags.append_tag (hu : FreeOfTags u) (hlast : u.getLast? ≠ some '\\')
    (hcontent : IsTag content) (hrest : HasTags rest tags) :
    HasTags (u ++ ('[' :: content ++ ']' :: rest)) (content :: tags) := by
  have hbracket : isTagStart '[' = false := rfl
  exact HasTags.append hu hlast (by simp [hbracket]) (HasTags.slashes_tag hcontent hrest 0)

/-- Text in which no tag starts, and a tag that may be behind a backslash. -/
theorem HasTags.append_tag_or (hu : FreeOfTags u) (hcontent : IsTag content)
    (hrest : HasTags rest tags) :
    HasTags (u ++ ('[' :: content ++ ']' :: rest)) (content :: tags) ∨
      HasTags (u ++ ('[' :: content ++ ']' :: rest)) tags := by
  -- the backslashes at the end go with the tag
  have hslashes : u.rtakeWhile (· == '\\') =
      List.replicate (u.rtakeWhile (· == '\\')).length '\\' := by
    refine List.eq_replicate_of_mem fun c hc => ?_
    simpa using List.mem_rtakeWhile_imp hc
  have hlast : (u.rdropWhile (· == '\\')).getLast? ≠ some '\\' := by
    intro h
    have hne : u.rdropWhile (· == '\\') ≠ [] := by
      rintro hnil
      simp [hnil] at h
    have hend : (u.rdropWhile (· == '\\')).getLast hne = '\\' :=
      Option.some.inj ((List.getLast?_eq_some_getLast hne).symm.trans h)
    exact List.rdropWhile_last_not _ _ hne (by simp [hend])
  -- what follows the rest of the name is a backslash or a bracket, and neither starts a tag
  have hhead : ∀ k, ∀ c ∈ (List.replicate k '\\' ++ ('[' :: content ++ ']' :: rest)).head?,
      isTagStart c = false := by
    intro k
    cases k with
    | zero => simp [show isTagStart '[' = false from rfl]
    | succ k => simp [List.replicate_succ, show isTagStart '\\' = false from rfl]
  have htags := HasTags.slashes_tag hcontent hrest (u.rtakeWhile (· == '\\')).length
  have hwhole := HasTags.append (hu.of_infix (List.rdropWhile_prefix _ _).isInfix) hlast
    (hhead _) htags
  rw [← hslashes, ← List.append_assoc, List.rdropWhile_append_rtakeWhile] at hwhole
  -- the number of backslashes decides whether the tag is one
  split at hwhole
  · exact .inr hwhole
  · exact .inl hwhole

/-- A text in which no tag starts has none. -/
theorem hasTags_of_freeOfTags (hu : FreeOfTags u) : HasTags u [] := by
  -- by induction on the text: at each character there is no tag, or only backslashes are left
  induction u with
  | nil => exact hasTags_nil
  | cons c u ih =>
    refine HasTags.cons ?_ (ih (hu.of_infix (List.suffix_cons c u).isInfix))
    by_cases hne : (c :: u).dropWhile (· == '\\') = []
    · rw [hne]
      rfl
    · have htag := tag?_append_of_freeOfTags (v := [])
        (hu.of_infix (List.dropWhile_suffix _).isInfix) hne (by simp)
      rwa [List.append_nil] at htag

/-! ## Reading tags -/

/-- A style whose name is in its fixed form and holds nothing that has a meaning of its own in a
    tag. -/
structure IsStyle (name : List Char) : Prop where
  /-- There is no argument. -/
  noArgument : '=' ∉ name
  /-- The name does not make a closing tag or an event. -/
  head : name.head? ≠ some '/' ∧ name.head? ≠ some '@'
  /-- The name is not blank. -/
  notBlank : Text.trim name ≠ []
  /-- The name is in its fixed form. -/
  normalize_eq : Style.normalize name = .ok name
  /-- The numbers in the name are numbers. -/
  check_eq : Style.check name = .ok ()

/-- Whether tags open styles and close styles that are open: `names` are open before them, and
    `left` behind them. -/
inductive PairUp : (names tags left : List (List Char)) → Prop where
  /-- Styles may stay open. -/
  | stop (names : List (List Char)) : PairUp names [] names
  /-- A style is opened. -/
  | opening {name : List Char} {names tags left : List (List Char)} :
    IsStyle name → PairUp (name :: names) tags left → PairUp names (name :: tags) left
  /-- A style is closed. -/
  | closing {name : List Char} {names tags left : List (List Char)} :
    name ∈ names → PairUp (names.erase name) tags left → PairUp names (('/' :: name) :: tags) left

namespace Reading

variable {r : Reading} {names left : List (List Char)} {name : List Char}

/-- What has been read: the names of the open styles, and styles that can be shown. -/
structure Opens (r : Reading) (names : List (List Char)) : Prop where
  /-- The names of the open styles. -/
  names_eq : r.opened.map (·.name) = names
  /-- The open tags are styles without arguments. -/
  opened_isStyle : ∀ t ∈ r.opened, t.argument = none ∧ IsStyle t.name
  /-- The styles of the spans can be shown. -/
  spans_check : ∀ s ∈ r.spans, ∃ name, s.style = some name ∧ Style.check name = .ok ()

/-- Nothing is open at the start. -/
theorem opens_start : Opens {} [] :=
  ⟨rfl, by simp, by simp⟩

/-- Text opens and closes nothing. -/
theorem Opens.addText (h : r.Opens names) (cs : List Char) : (r.addText cs).Opens names :=
  ⟨h.names_eq, h.opened_isStyle, h.spans_check⟩

/-- An opening tag puts its style on top of those that are open. -/
private theorem Opens.addTag_opening (h : r.Opens names) (hname : IsStyle name) (position : Nat) :
    ∃ r', r.addTag position name = .ok r' ∧ r'.Opens (name :: names) := by
  refine ⟨{ r with opened := ⟨r.length, name, none⟩ :: r.opened }, ?_, ?_⟩
  · have hcut : Text.cut? ['='] name = none := Text.cut?_singleton_eq_none_iff.mpr hname.noArgument
    have hhead := hname.head.1
    simp only [addTag, hcut]
    -- the name is no closing tag
    split
    · simp at hhead
    · simp only [normalizeName, hname.normalize_eq, Except.mapError]
      rfl
  · refine ⟨by simp [h.names_eq], ?_, h.spans_check⟩
    simpa [hname] using h.opened_isStyle

/-- A closing tag takes the last style of its name away, and leaves a span that can be shown. -/
private theorem Opens.addTag_closing (h : r.Opens names) (hname : name ∈ names) (position : Nat) :
    ∃ r', r.addTag position ('/' :: name) = .ok r' ∧ r'.Opens (names.erase name) := by
  -- the tag that is closed is the last one of its name
  obtain ⟨tag, hfind⟩ : ∃ tag, r.opened.find? (·.name == name) = some tag := by
    rw [← Option.isSome_iff_exists, List.find?_isSome]
    rw [← h.names_eq, List.mem_map] at hname
    obtain ⟨tag, hmem, htag⟩ := hname
    exact ⟨tag, hmem, by simp [htag]⟩
  have htag : tag.name = name := by simpa using List.find?_some hfind
  obtain ⟨hargument, hstyle⟩ := h.opened_isStyle tag (List.mem_of_find?_eq_some hfind)
  have hshown : tag.style = name := by rw [OpenTag.style, hargument, htag]
  rw [htag] at hstyle
  -- the span of an event would be shown as an action
  have hevent : ¬name.head? = some '@' := hstyle.head.2
  have hcut : Text.cut? ['='] ('/' :: name) = none :=
    Text.cut?_singleton_eq_none_iff.mpr (by simp [hstyle.noArgument])
  refine ⟨{ r with opened := r.opened.eraseP (·.name == name),
                   spans := ⟨tag.start, r.length, some name⟩ :: r.spans }, ?_, ?_, ?_, ?_⟩
  · simp only [addTag, hcut, List.isEmpty_eq_false_iff.mpr hstyle.notBlank, Bool.false_eq_true,
      if_false, normalizeName, hstyle.normalize_eq, Except.mapError, bind, Except.bind, hfind,
      close, htag, hshown, hevent]
    rfl
  · rw [← h.names_eq, List.erase_eq_eraseP, List.eraseP_map]
    simp [Function.comp_def, BEq.comm]
  · intro t ht
    exact h.opened_isStyle t (List.mem_of_mem_eraseP ht)
  · intro s hs
    rcases List.mem_cons.mp hs with rfl | hs
    · exact ⟨name, rfl, hstyle.check_eq⟩
    · exact h.spans_check s hs

/-- A closing tag of a style that is not open cannot be read. -/
private theorem Opens.addTag_unmatched (h : r.Opens names) (hname : IsStyle name)
    (hnames : name ∉ names) (position : Nat) : r.addTag position ('/' :: name) =
      .error (.unmatched (String.ofList ('[' :: '/' :: name ++ [']'])) position) := by
  have hfind : r.opened.find? (·.name == name) = none := by
    rw [← h.names_eq, List.mem_map] at hnames
    simpa using hnames
  have hcut : Text.cut? ['='] ('/' :: name) = none :=
    Text.cut?_singleton_eq_none_iff.mpr (by simp [hname.noArgument])
  simp only [addTag, hcut, List.isEmpty_eq_false_iff.mpr hname.notBlank, Bool.false_eq_true,
    if_false, normalizeName, hname.normalize_eq, Except.mapError, bind, Except.bind, hfind]
  rfl

/-- Tags that pair up can be read. -/
theorem addTokens_of_pairUp {ts : List Token} (h : r.Opens names)
    (hts : PairUp names (tagsOf ts) left) : ∃ r', r.addTokens ts = .ok r' ∧ r'.Opens left := by
  -- by induction on the tokens, with what is open before them
  induction ts generalizing r names with
  | nil =>
    cases hts
    exact ⟨r, rfl, h⟩
  | cons t ts ih =>
    cases t with
    | text cs => exact ih (h.addText cs) hts
    | tag position content =>
      rw [tagsOf_tag_cons] at hts
      cases hts with
      | opening hname hts =>
        obtain ⟨r', hr', h'⟩ := h.addTag_opening hname position
        obtain ⟨r'', hr'', h''⟩ := ih h' hts
        exact ⟨r'', by rw [addTokens, hr']; exact hr'', h''⟩
      | closing hname hts =>
        obtain ⟨r', hr', h'⟩ := h.addTag_closing hname position
        obtain ⟨r'', hr'', h''⟩ := ih h' hts
        exact ⟨r'', by rw [addTokens, hr']; exact hr'', h''⟩

/-- Tokens are read one after the other. -/
theorem addTokens_append {r' : Reading} {ts : List Token} (h : r.addTokens ts = .ok r')
    (rest : List Token) : r.addTokens (ts ++ rest) = r'.addTokens rest := by
  -- by induction on the tokens in front; none of them is an error
  induction ts generalizing r with
  | nil =>
    cases h
    rfl
  | cons t ts ih =>
    cases t with
    | text cs => exact ih h
    | tag position content =>
      rw [addTokens] at h
      rw [List.cons_append, addTokens]
      cases htag : r.addTag position content with
      | error e =>
        rw [htag] at h
        cases h
      | ok next =>
        rw [htag] at h
        exact ih h

end Reading

/-- The styles that are left at the end can be shown. -/
private theorem Reading.Opens.check_finish {r : Reading} {names : List (List Char)}
    (h : r.Opens names) :
    r.finish.check = .ok () := by
  -- the spans are those of closed styles, and those still open run to the end
  have hspans : ∀ s ∈ r.finish.spans, ∃ name, s.style = some name ∧ Style.check name = .ok () := by
    intro s hs
    rw [Reading.finish, List.mem_append, List.mem_reverse, List.mem_map] at hs
    rcases hs with hs | ⟨t, ht, rfl⟩
    · exact h.spans_check s hs
    · obtain ⟨hargument, hstyle⟩ := h.opened_isStyle t ht
      exact ⟨t.name, by rw [OpenTag.style, hargument], hstyle.check_eq⟩
  have hforM : ∀ spans : List Span, (∀ s ∈ spans, s ∈ r.finish.spans) →
      (spans.forM fun s => ((s.style.map Style.check).getD (.ok ())).mapError MarkupError.colour) =
        .ok () := by
    intro spans
    induction spans with
    | nil => exact fun _ => rfl
    | cons s spans ih =>
      intro hmem
      obtain ⟨hs, hrest⟩ := List.forall_mem_cons.mp hmem
      obtain ⟨name, hname, hcheck⟩ := hspans s hs
      rw [List.forM, hname, Option.map_some, Option.getD_some, hcheck]
      exact ih hrest
  exact hforM _ fun s hs => (List.mem_filter.mp hs).1

variable {left : List (List Char)}

/-- A text is read if the tags among its tokens pair up, and its styles can be shown. -/
theorem exists_render (h : PairUp [] (tagsOf (tokens cs)) left) :
    ∃ marked, render cs = .ok marked ∧ marked.check = .ok () := by
  obtain ⟨r, hr, hopens⟩ := Reading.addTokens_of_pairUp Reading.opens_start h
  refine ⟨r.finish, ?_, hopens.check_finish⟩
  rw [render, hr]
  rfl

/-- A text with a closing tag of a style that is not open is not read. -/
theorem render_unmatched {before rest : List Token} {position : Nat} {name : List Char}
    (htokens : tokens cs = before ++ .tag position ('/' :: name) :: rest)
    (h : PairUp [] (tagsOf before) left) (hname : IsStyle name) (hleft : name ∉ left) :
    render cs = .error (.unmatched (String.ofList ('[' :: '/' :: name ++ [']'])) position) := by
  obtain ⟨r, hr, hopens⟩ := Reading.addTokens_of_pairUp Reading.opens_start h
  -- the tokens before the tag are read, and it is the first that is not
  rw [render, htokens, Reading.addTokens_append hr, Reading.addTokens,
    hopens.addTag_unmatched hname hleft]
  rfl

end Markup

end SheetAudit.Console
