import SheetAudit.Proofs.Tags

/-!
# What is shown of a text with markup

A text with markup is cut into tokens with fuel, and with what was passed held back.  Here the
tokens are given by what stands at the front of the text: nothing, a character at which no tag
starts, or backslashes and a tag.  Every fact about them follows these three cases
(`markupInduction`).

What is shown is never more than what was written.  A backslash before an opening bracket always
gets lost, and each tag takes an opening bracket along.  So a text comes out as it is only if it has
neither.

## Key results

- `tokensFrom_eq`: the tokens of a text, without fuel
- `tokensAt_append_tag`: a tag parts the tokens before it from those behind it
- `rawText_sublist`: what is shown was written
- `count_rawText_lt`: a shielded bracket costs a backslash
- `count_rawText_add_length_tagsOf`: each tag costs a bracket
- `rawText_tokensAt_eq_iff`: when a text comes out as it is
- `text_of_render`: the text that is shown
-/

namespace SheetAudit.Console

/-! ## Emoji codes -/

namespace Emoji

variable {cs : List Char}

/-- A code that is opened and not closed is text. -/
private theorem replaceFrom_some_of_not_mem (h : ':' ∉ cs) (out name : List Char) :
    replaceFrom out (some name) cs = out.reverse ++ ':' :: name.reverse ++ cs := by
  -- by induction on the text: the name grows until a character that no name has
  induction cs generalizing name with
  | nil => simp [replaceFrom]
  | cons c cs ih =>
    obtain ⟨hc, hcs⟩ := not_or.mp (mt List.mem_cons.mpr h)
    rw [replaceFrom, if_neg (Ne.symm hc)]
    split
    · rw [replaceFrom_of_not_mem hcs]
      simp
    · rw [ih hcs]
      simp

/-- No code starts before the first colon. -/
private theorem replaceFrom_none_append {u : List Char} (h : ':' ∉ u) (out cs : List Char) :
    replaceFrom out none (u ++ cs) = replaceFrom (u.reverse ++ out) none cs := by
  -- by induction on the text before the colon, which goes to the output
  induction u generalizing out with
  | nil => rfl
  | cons c u ih =>
    obtain ⟨hc, hu⟩ := not_or.mp (mt List.mem_cons.mpr h)
    rw [List.cons_append, replaceFrom, if_neg (Ne.symm hc), ih hu]
    simp

/-- A text with at most one colon has no codes. -/
theorem replace_of_count_le_one (h : cs.count ':' ≤ 1) : replace cs = cs := by
  by_cases hmem : ':' ∈ cs
  -- the only colon opens a code, and nothing behind it closes one
  · obtain ⟨u, v, rfl⟩ := List.append_of_mem hmem
    rw [List.count_append, List.count_cons_self] at h
    have hu : ':' ∉ u := List.count_eq_zero.mp (by omega)
    have hv : ':' ∉ v := List.count_eq_zero.mp (by omega)
    rw [replace, replaceFrom_none_append hu, replaceFrom, if_pos rfl,
      replaceFrom_some_of_not_mem hv]
    simp
  · exact replace_of_not_mem hmem

end Emoji

namespace Markup

variable {cs u v content rest passed : List Char} {position : Nat}

/-! ## The front of a text -/

/-- A tag that is found is a tag, and stands in brackets at the front of the text. -/
theorem tag?_eq_some (h : tag? cs = some (content, rest)) :
    IsTag content ∧ cs = '[' :: content ++ ']' :: rest := by
  unfold tag? at h
  split at h
  · next c cs =>
    split at h
    · next hc =>
      dsimp only at h
      split at h
      · next hrest =>
        obtain ⟨rfl, rfl⟩ := Prod.mk.inj (Option.some.inj h)
        refine ⟨⟨c, _, rfl, hc, ?_⟩, ?_⟩
        -- what was taken has neither bracket
        · intro d hd
          simpa using List.all_eq_true.mp List.all_takeWhile d hd
        · rw [List.cons_append, List.cons_append, ← hrest, List.takeWhile_append_dropWhile]
      · cases h
    · cases h
  · cases h

/-- There is no opening bracket inside a tag. -/
private theorem bracket_not_mem_of_isTag (h : IsTag content) : '[' ∉ content := by
  obtain ⟨c, inside, rfl, hc, hinside⟩ := h
  rw [List.mem_cons, not_or]
  refine ⟨?_, fun hmem => (hinside _ hmem).1 rfl⟩
  rintro rfl
  exact absurd hc (by decide)

/-- Whatever holds of the empty text, and is kept when a character at which no tag starts, or a tag
    with backslashes in front of it, is put before a text, holds of every text. -/
@[elab_as_elim]
theorem markupInduction {motive : List Char → Prop} (nil : motive [])
    (char : ∀ c cs, tag? ((c :: cs).dropWhile (· == '\\')) = none → motive cs → motive (c :: cs))
    (tag : ∀ k content rest, IsTag content → motive rest →
      motive (List.replicate k '\\' ++ ('[' :: content ++ ']' :: rest)))
    (cs : List Char) : motive cs := by
  -- by induction on the length, as a tag takes several characters off at once
  induction hlength : cs.length using Nat.strongRecOn generalizing cs with
  | ind n ih =>
    cases cs with
    | nil => exact nil
    | cons c cs =>
      cases htag : tag? ((c :: cs).dropWhile (· == '\\')) with
      | none => exact char c cs htag (ih cs.length (by simp [← hlength]) cs rfl)
      | some found =>
        obtain ⟨content, rest⟩ := found
        obtain ⟨hcontent, hdrop⟩ := tag?_eq_some htag
        -- the backslashes at the front go with the tag
        have hslashes : (c :: cs).takeWhile (· == '\\') =
            List.replicate ((c :: cs).takeWhile (· == '\\')).length '\\' := by
          refine List.eq_replicate_of_mem fun d hd => ?_
          simpa using List.all_eq_true.mp List.all_takeWhile d hd
        have hwhole := List.takeWhile_append_dropWhile (p := (· == '\\')) (l := c :: cs)
        rw [hdrop, hslashes] at hwhole
        rw [← hwhole] at hlength ⊢
        refine tag _ content rest hcontent (ih rest.length ?_ rest rfl)
        simp only [List.length_append, List.length_cons] at hlength
        omega

/-! ## Tokens without fuel -/

/-- The tokens of a text at a position, behind plain text that was passed. -/
def tokensAt (position : Nat) (passed cs : List Char) : List Token :=
  tokensFrom cs.length position passed [] cs

/-- The tokens of a text do not depend on the fuel, and come behind those before it. -/
theorem tokensFrom_eq_append (fuel fuel' position : Nat) (passed : List Char) (done : List Token)
    (cs : List Char) (h : cs.length ≤ fuel) (h' : cs.length ≤ fuel') :
    tokensFrom fuel position passed done cs =
      done.reverse ++ tokensFrom fuel' position passed [] cs := by
  -- each case takes one step of fuel on both sides
  induction cs using markupInduction generalizing fuel fuel' position passed done with
  | nil => simp [tokensFrom_nil]
  | char c cs hnone ih =>
    obtain ⟨fuel, rfl⟩ := Nat.exists_eq_add_of_le' (Nat.one_le_of_lt h)
    obtain ⟨fuel', rfl⟩ := Nat.exists_eq_add_of_le' (Nat.one_le_of_lt h')
    rw [tokensFrom_cons hnone, tokensFrom_cons hnone]
    exact ih _ _ _ _ _ (by simpa using h) (by simpa using h')
  | tag k content rest hcontent ih =>
    simp only [List.length_append, List.length_replicate, List.length_cons] at h h'
    obtain ⟨fuel, rfl⟩ : ∃ n, fuel = n + 1 := ⟨fuel - 1, by omega⟩
    obtain ⟨fuel', rfl⟩ : ∃ n, fuel' = n + 1 := ⟨fuel' - 1, by omega⟩
    -- the rest is cut behind the tokens of the tag: on the right behind those alone
    rw [tokensFrom_tag hcontent, tokensFrom_tag hcontent, ih fuel fuel' _ _ _ (by omega) (by omega),
      ih fuel' fuel' _ _ (_ ++ []) (by omega) (by omega)]
    simp

/-- With enough fuel the tokens of a text come behind those before it. -/
theorem tokensFrom_eq {fuel : Nat} (h : cs.length ≤ fuel) (done : List Token) :
    tokensFrom fuel position passed done cs = done.reverse ++ tokensAt position passed cs :=
  tokensFrom_eq_append _ _ _ _ _ _ h le_rfl

/-- The tokens of a whole text are those at its start, with nothing passed. -/
theorem tokens_eq (cs : List Char) : tokens cs = tokensAt 0 [] cs := rfl

/-- At the end of the text, what was passed is the last token. -/
theorem tokensAt_nil : tokensAt position passed [] = plain passed := by
  rw [tokensAt, tokensFrom_nil, plain]
  split <;> rfl

/-- A character at which no tag starts is passed. -/
private theorem tokensAt_cons {c : Char} (h : tag? ((c :: cs).dropWhile (· == '\\')) = none) :
    tokensAt position passed (c :: cs) = tokensAt (position + 1) (c :: passed) cs := by
  rw [tokensAt, List.length_cons, tokensFrom_cons h, tokensAt]

/-- A tag ends the plain text before it; its backslashes go with its tokens. -/
private theorem tokensAt_tag (hcontent : IsTag content) (k : Nat) :
    tokensAt position passed (List.replicate k '\\' ++ ('[' :: content ++ ']' :: rest)) =
      plain passed ++ tagTokens position k content ++
        tokensAt (position + k + content.length + 2) [] rest := by
  have hplain : (plain passed).reverse = plain passed := by
    unfold plain
    split <;> rfl
  -- a step more of fuel than needed, for the tag
  rw [← List.nil_append (tokensAt position passed _), ← List.reverse_nil,
    ← tokensFrom_eq (Nat.le_succ _), tokensFrom_tag hcontent, tokensFrom_eq (by simp; omega)]
  simp [hplain]

/-- No tag goes on over an opening bracket. -/
private theorem tag?_append_bracket (hne : u ≠ []) (h : tag? u = none) :
    tag? (u ++ '[' :: v) = none := by
  by_contra hsome
  obtain ⟨⟨content, rest⟩, htag⟩ := Option.ne_none_iff_exists'.mp hsome
  obtain ⟨hcontent, heq⟩ := tag?_eq_some htag
  obtain ⟨c, u, rfl⟩ := List.exists_cons_of_ne_nil hne
  obtain rfl : c = '[' := (List.cons.inj heq).1
  have htail : u ++ '[' :: v = content ++ ']' :: rest := (List.cons.inj heq).2
  rcases List.append_eq_append_iff.mp htail with ⟨w, hw, hrest⟩ | ⟨w, hw, hrest⟩
  · -- the bracket would be in the tag
    cases w with
    | nil => cases hrest
    | cons d w =>
      obtain ⟨rfl, -⟩ := List.cons.inj hrest
      exact bracket_not_mem_of_isTag hcontent (by simp [hw])
  · -- the tag is over before the bracket
    cases w with
    | nil => cases hrest
    | cons d w =>
      obtain ⟨rfl, -⟩ := List.cons.inj hrest
      rw [hw, ← List.cons_append, tag?_of_isTag hcontent] at h
      cases h

/-- A tag that is not behind a backslash parts the tokens before it from those behind it. -/
theorem tokensAt_append_tag (hlast : u.getLast? ≠ some '\\') (hcontent : IsTag content) :
    tokensAt position passed (u ++ ('[' :: content ++ ']' :: rest)) =
      tokensAt position passed u ++ .tag (position + u.length) content ::
        tokensAt (position + u.length + content.length + 2) [] rest := by
  -- by the tokens of the text in front: the tag is reached behind the last of them
  induction u using markupInduction generalizing position passed with
  | nil =>
    have htag : tokensAt position passed
        (List.replicate 0 '\\' ++ ('[' :: content ++ ']' :: rest)) = _ := tokensAt_tag hcontent 0
    simpa [tokensAt_nil, tagTokens] using htag
  | char c u hnone ih =>
    -- behind the backslashes there is still a character, so that the tag is no part of theirs
    have hne := dropWhile_slash_ne_nil hlast
    have hnone' : tag? ((c :: (u ++ ('[' :: content ++ ']' :: rest))).dropWhile (· == '\\')) =
        none := by
      rw [← List.cons_append, List.dropWhile_append, List.isEmpty_eq_false_iff.mpr hne]
      exact tag?_append_bracket hne hnone
    rw [List.cons_append, tokensAt_cons hnone', tokensAt_cons hnone,
      ih (Text.getLast?_ne_of_append (u := [c]) hlast), List.length_cons]
    simp only [Nat.add_right_comm position 1, Nat.add_assoc]
  | tag k content' u hcontent' ih =>
    have hlast' : u.getLast? ≠ some '\\' := by
      refine Text.getLast?_ne_of_append
        (u := List.replicate k '\\' ++ ('[' :: content' ++ [']'])) ?_
      simpa using hlast
    -- the two tags are not nested: the first ends before the second starts
    have htext : List.replicate k '\\' ++ ('[' :: content' ++ ']' :: u) ++
        ('[' :: content ++ ']' :: rest) = List.replicate k '\\' ++
          ('[' :: content' ++ ']' :: (u ++ ('[' :: content ++ ']' :: rest))) := by simp
    rw [htext, tokensAt_tag hcontent', tokensAt_tag hcontent', ih hlast']
    have hlength : position + (List.replicate k '\\' ++ ('[' :: content' ++ ']' :: u)).length =
        position + k + content'.length + 2 + u.length := by
      simp only [List.length_append, List.length_replicate, List.length_cons]
      omega
    rw [hlength]
    simp only [List.append_assoc]

/-- A text in which there is no tag. -/
def NoTag (cs : List Char) : Prop :=
  ∀ content, IsTag content → ¬ '[' :: content ++ [']'] <:+: cs

/-- A text without opening brackets has no tag. -/
theorem noTag_of_not_mem (h : '[' ∉ cs) : NoTag cs :=
  fun _ _ hin => h (hin.subset (by simp))

/-- A part of a text without tags has none. -/
theorem NoTag.of_infix (h : NoTag cs) (hu : u <:+: cs) : NoTag u :=
  fun content hcontent hmem => h content hcontent (hmem.trans hu)

/-- A text without tags is one token. -/
theorem tokensAt_of_noTag (h : NoTag cs) :
    tokensAt position passed cs = plain (cs.reverse ++ passed) := by
  -- every character is passed, and the end turns them into one token
  induction cs using markupInduction generalizing position passed with
  | nil => exact tokensAt_nil
  | char c cs hnone ih =>
    rw [tokensAt_cons hnone, ih (h.of_infix (List.suffix_cons c cs).isInfix)]
    simp
  | tag k content rest hcontent ih =>
    -- a tag with backslashes before it is a tag in the text as well
    exact absurd ⟨List.replicate k '\\', rest, by simp⟩ (h content hcontent)

/-! ## Shielded brackets -/

/-- What was unshielded so far stands before the rest. -/
private theorem unshield_go_eq (out cs : List Char) :
    unshield.go out cs = out.reverse ++ unshield cs := by
  have h : ∀ out', unshield.go out' cs = out'.reverse ++ unshield.go [] cs := by
    -- the output is generalized first, as each step puts a character on it
    fun_induction unshield.go out cs with
    | case1 out => simp [unshield.go]
    | case2 out cs ih =>
      intro out'
      rw [unshield.go, unshield.go, ih ('[' :: out'), ih ['[']]
      simp
    | case3 out c cs hshield ih =>
      intro out'
      rw [unshield.go, unshield.go, ih (c :: out'), ih [c]]
      · simp
      · exact hshield
      · exact hshield
  exact h out

/-- A shielded bracket loses its backslash. -/
theorem unshield_shielded (cs : List Char) : unshield ('\\' :: '[' :: cs) = '[' :: unshield cs := by
  rw [unshield, unshield.go, unshield_go_eq]
  rfl

/-- Any other character stays. -/
private theorem unshield_cons {c : Char} (h : ¬(c = '\\' ∧ cs.head? = some '[')) :
    unshield (c :: cs) = c :: unshield cs := by
  rw [unshield, unshield.go, unshield_go_eq]
  · rfl
  · rintro rest rfl rfl
    exact h ⟨rfl, rfl⟩

/-- Whatever holds of the empty text, and is kept when a shielded bracket or any other character is
    put before a text, holds of every text. -/
@[elab_as_elim]
theorem shieldInduction {motive : List Char → Prop} (nil : motive [])
    (shielded : ∀ cs, motive cs → motive ('\\' :: '[' :: cs))
    (char : ∀ c cs, ¬(c = '\\' ∧ cs.head? = some '[') → motive cs → motive (c :: cs))
    (cs : List Char) : motive cs := by
  -- the cases are those of the loop that takes shields away, without what it has put out
  fun_induction unshield.go [] cs with
  | case1 => exact nil
  | case2 out cs ih => exact shielded cs ih
  | case3 out c cs hshield ih =>
    refine char c cs ?_ ih
    rintro ⟨rfl, hcs⟩
    cases cs with
    | nil => cases hcs
    | cons d cs =>
      obtain rfl : d = '[' := by simpa using hcs
      exact hshield cs rfl rfl

/-- Unshielding only takes characters out. -/
private theorem unshield_sublist (cs : List Char) : (unshield cs).Sublist cs := by
  induction cs using shieldInduction with
  | nil => exact .slnil
  | shielded cs ih =>
    rw [unshield_shielded]
    exact (ih.cons_cons '[').cons '\\'
  | char c cs hc ih =>
    rw [unshield_cons hc]
    exact ih.cons_cons c

/-- Unshielding keeps every bracket. -/
private theorem count_bracket_unshield (cs : List Char) :
    (unshield cs).count '[' = cs.count '[' := by
  induction cs using shieldInduction with
  | nil => rfl
  | shielded cs ih => simp [unshield_shielded, ih]
  | char c cs hc ih => simp [unshield_cons hc, ih, List.count_cons]

/-- A text without shielded brackets stays as it is. -/
theorem unshield_of_not_isInfix (h : ¬['\\', '['] <:+: cs) : unshield cs = cs := by
  induction cs using shieldInduction with
  | nil => rfl
  | shielded cs ih => exact absurd ⟨[], cs, rfl⟩ h
  | char c cs hc ih =>
    rw [unshield_cons hc, ih fun hin => h (hin.trans (List.suffix_cons c cs).isInfix)]

/-- A text with a shielded bracket loses a backslash. -/
theorem count_unshield_lt (h : ['\\', '['] <:+: cs) :
    (unshield cs).count '\\' < cs.count '\\' := by
  -- the first shielded bracket loses its backslash; any other character stays
  induction cs using shieldInduction with
  | nil => simp at h
  | shielded cs ih =>
    have hle := (unshield_sublist cs).count_le '\\'
    rw [unshield_shielded, List.count_cons_of_ne (by decide), List.count_cons_self,
      List.count_cons_of_ne (by decide)]
    omega
  | char c cs hc ih =>
    have hin : ['\\', '['] <:+: cs := by
      rcases List.infix_cons_iff.mp h with hprefix | hin
      · obtain ⟨t, ht⟩ := hprefix
        obtain ⟨rfl, rfl⟩ : '\\' = c ∧ '[' :: t = cs := by simpa using ht
        exact absurd ⟨rfl, rfl⟩ hc
      · exact hin
    simpa [unshield_cons hc, List.count_cons] using ih hin

/-! ## What is left of a text -/

/-- The text of tokens, as it is before emoji are put in. -/
def rawText (ts : List Token) : List Char :=
  ts.flatMap fun
    | .text cs => cs
    | .tag _ _ => []

/-- No tokens have no text. -/
@[simp]
theorem rawText_nil : rawText [] = [] := rfl

/-- Plain text is part of the text of the tokens. -/
@[simp]
theorem rawText_text_cons (cs : List Char) (ts : List Token) :
    rawText (.text cs :: ts) = cs ++ rawText ts := rfl

/-- A tag adds nothing to the text. -/
@[simp]
theorem rawText_tag_cons (position : Nat) (content : List Char) (ts : List Token) :
    rawText (.tag position content :: ts) = rawText ts := rfl

/-- The text of tokens in a row is put together. -/
@[simp]
theorem rawText_append (xs ys : List Token) : rawText (xs ++ ys) = rawText xs ++ rawText ys :=
  List.flatMap_append

/-- The text that was passed comes out unshielded. -/
@[simp]
theorem rawText_plain (passed : List Char) : rawText (plain passed) = unshield passed.reverse := by
  cases passed with
  | nil => rfl
  | cons c passed => simp [plain, rawText]

/-- Of the backslashes before a tag half are left, and if one of them shields the tag it is text
too. -/
@[simp]
theorem rawText_tagTokens (position k : Nat) (content : List Char) :
    rawText (tagTokens position k content) =
      List.replicate (k / 2) '\\' ++ if k % 2 = 1 then '[' :: content ++ [']'] else [] := by
  unfold tagTokens
  -- one backslash alone gives no text token, and half of it is none
  have hkept : rawText (if 2 ≤ k then [.text (List.replicate (k / 2) '\\')] else []) =
      List.replicate (k / 2) '\\' := by
    split
    · simp [rawText]
    · next hk => simp [rawText, Nat.div_eq_of_lt (Nat.lt_of_not_le hk)]
  rw [rawText_append, hkept]
  split <;> simp [rawText]

/-- What is left of a text was in it, in the same order. -/
theorem rawText_sublist (position : Nat) (passed cs : List Char) :
    (rawText (tokensAt position passed cs)).Sublist (passed.reverse ++ cs) := by
  -- what was passed is held back until a tag or the end, so it is part of the claim
  induction cs using markupInduction generalizing position passed with
  | nil => simpa [tokensAt_nil] using unshield_sublist passed.reverse
  | char c cs hnone ih =>
    rw [tokensAt_cons hnone]
    simpa using ih (position + 1) (c :: passed)
  | tag k content rest hcontent ih =>
    have hslashes : (List.replicate (k / 2) '\\').Sublist (List.replicate k '\\') :=
      List.replicate_sublist_replicate '\\' |>.mpr (Nat.div_le_self k 2)
    have htag : (if k % 2 = 1 then '[' :: content ++ [']'] else []).Sublist
        ('[' :: content ++ [']']) := by
      split
      · exact List.Sublist.refl _
      · exact List.nil_sublist _
    rw [tokensAt_tag hcontent]
    simpa using (unshield_sublist passed.reverse).append
      ((hslashes.append htag).append (ih (position + k + content.length + 2) []))

/-- Each tag takes an opening bracket along, and no other bracket is lost. -/
theorem count_rawText_add_length_tagsOf (position : Nat) (passed cs : List Char) :
    (rawText (tokensAt position passed cs)).count '[' +
      (tagsOf (tokensAt position passed cs)).length = (passed ++ cs).count '[' := by
  -- a shielded tag keeps its bracket, and any other is one tag of the tokens
  induction cs using markupInduction generalizing position passed with
  | nil => simp [tokensAt_nil, count_bracket_unshield]
  | char c cs hnone ih =>
    rw [tokensAt_cons hnone, ih]
    simp only [List.count_append, List.count_cons]
    omega
  | tag k content rest hcontent ih =>
    have hrest := ih (position + k + content.length + 2) []
    have hcount := List.count_eq_zero_of_not_mem (bracket_not_mem_of_isTag hcontent)
    rw [tokensAt_tag hcontent]
    simp only [rawText_append, rawText_plain, rawText_tagTokens, tagsOf_append, tagsOf_plain,
      tagsOf_tagTokens, List.nil_append, List.length_append, List.count_append,
      count_bracket_unshield, List.count_reverse] at hrest ⊢
    split <;> simp [hcount, List.count_replicate] <;> omega

/-- The only bracket that a tag opens stands in front of it. -/
private theorem shielded_infix_of_tag (hcontent : IsTag content)
    (h : ['\\', '['] <:+: '[' :: content ++ ']' :: rest) : ['\\', '['] <:+: rest := by
  have hbracket := bracket_not_mem_of_isTag hcontent
  have htag : ¬['\\', '['] <:+: '[' :: (content ++ [']']) := by
    intro hin
    rcases List.infix_cons_iff.mp hin with ⟨t, ht⟩ | hin
    · cases ht
    · have hmem : '[' ∈ content ++ [']'] := hin.subset (by simp)
      simp [hbracket] at hmem
  have hsplit : '[' :: content ++ ']' :: rest = '[' :: (content ++ [']']) ++ rest := by simp
  rw [hsplit] at h
  -- the pair lies inside the tag, behind it, or across its end
  rcases Text.pair_infix_append_iff.mp h with hin | hin | ⟨hlast, -⟩
  · exact absurd hin htag
  · exact hin
  · rw [← List.cons_append, List.getLast?_concat] at hlast
    cases hlast

/-- A backslash that shields a bracket is lost.  Behind a backslash that was passed there is no tag,
    as the backslash would have gone with it. -/
theorem count_rawText_lt (position : Nat) (passed cs : List Char)
    (hpassed : passed.head? = some '\\' → tag? (cs.dropWhile (· == '\\')) = none)
    (h : ['\\', '['] <:+: passed.reverse ++ cs) :
    (rawText (tokensAt position passed cs)).count '\\' < (passed ++ cs).count '\\' := by
  -- the loss is in the part that holds the shielded bracket, and the others do not grow
  induction cs using markupInduction generalizing position passed with
  | nil =>
    rw [List.append_nil] at h
    simpa [tokensAt_nil] using count_unshield_lt h
  | char c cs hnone ih =>
    have hlt := ih (position + 1) (c :: passed) ?_ (by simpa using h)
    · rw [tokensAt_cons hnone]
      simp only [List.count_append, List.count_cons] at hlt ⊢
      omega
    · intro hc
      obtain rfl : c = '\\' := by simpa using hc
      simpa using hnone
  | tag k content rest hcontent ih =>
    have hpassedLe := (unshield_sublist passed.reverse).count_le '\\'
    have htagLe : (rawText (tagTokens position k content)).count '\\' ≤
        k / 2 + content.count '\\' := by
      rw [rawText_tagTokens]
      split <;> simp
    have hrestLe := (rawText_sublist (position + k + content.length + 2) [] rest).count_le '\\'
    -- without backslashes before the tag, the bracket is shielded in what was passed or behind it
    have hlost : 0 < k ∨ ['\\', '['] <:+: passed.reverse ∨ ['\\', '['] <:+: rest := by
      rcases Nat.eq_zero_or_pos k with rfl | hk
      · refine .inr ?_
        rcases Text.pair_infix_append_iff.mp h with hin | hin | ⟨hlast, -⟩
        · exact .inl hin
        · exact .inr (shielded_infix_of_tag hcontent hin)
        · rw [List.getLast?_reverse] at hlast
          have hnone := hpassed hlast
          rw [List.replicate_zero, List.nil_append, List.cons_append,
            List.dropWhile_cons_of_neg (by decide), ← List.cons_append,
            tag?_of_isTag hcontent] at hnone
          cases hnone
      · exact .inl hk
    rw [tokensAt_tag hcontent]
    simp only [rawText_append, rawText_plain, List.count_append, List.count_replicate_self,
      List.count_cons, List.count_reverse, List.reverse_nil, List.nil_append] at hpassedLe hrestLe ⊢
    rcases hlost with hk | hin | hin
    · have hhalf : k / 2 < k := Nat.div_lt_self hk (by decide)
      split <;> omega
    · have hlt := count_unshield_lt hin
      rw [List.count_reverse] at hlt
      split <;> omega
    · have hlt := ih (position + k + content.length + 2) [] (by simp) (by simpa using hin)
      rw [List.nil_append] at hlt
      split <;> omega

/-- What is left of a whole text was in it, in the same order. -/
theorem rawText_tokens_sublist (cs : List Char) : (rawText (tokens cs)).Sublist cs :=
  rawText_sublist 0 [] cs

/-- A whole text with a shielded bracket loses a backslash. -/
theorem count_rawText_tokens_lt (h : ['\\', '['] <:+: cs) :
    (rawText (tokens cs)).count '\\' < cs.count '\\' :=
  count_rawText_lt 0 [] cs (by simp) h

/-- A text comes out as it is exactly if there is no tag in it and no shielded bracket. -/
theorem rawText_tokensAt_eq_iff :
    rawText (tokensAt position [] cs) = cs ↔ NoTag cs ∧ ¬['\\', '['] <:+: cs := by
  constructor
  · intro h
    -- a shielded bracket would cost a backslash
    have hshield : ¬['\\', '['] <:+: cs := by
      intro hin
      have hlt := count_rawText_lt position [] cs (by simp) (by simpa using hin)
      rw [h, List.nil_append] at hlt
      exact lt_irrefl _ hlt
    refine ⟨?_, hshield⟩
    rintro content hcontent ⟨u, rest, rfl⟩
    have hlast : u.getLast? ≠ some '\\' := by
      intro hlast
      rw [List.append_assoc] at hshield
      exact hshield (Text.pair_infix_append_iff.mpr (.inr (.inr ⟨hlast, rfl⟩)))
    -- the tag is not shielded, so it is among the tokens and its bracket is missing
    have htext : u ++ ('[' :: content ++ [']']) ++ rest =
        u ++ ('[' :: content ++ ']' :: rest) := by simp
    have hcount := count_rawText_add_length_tagsOf position []
      (u ++ ('[' :: content ++ [']']) ++ rest)
    rw [h, List.nil_append, htext, tokensAt_append_tag hlast hcontent] at hcount
    simp at hcount
  · rintro ⟨htag, hshield⟩
    rw [tokensAt_of_noTag htag, rawText_plain, List.append_nil, List.reverse_reverse,
      unshield_of_not_isInfix hshield]

/-! ## What is shown -/

/-- What is shown of a text between tags. -/
def shownText (cs : List Char) : List Char :=
  (Emoji.replace cs).filter (!movesCursor ·)

/-- What is shown of tokens. -/
def shownTokens (ts : List Token) : List Char :=
  ts.flatMap fun
    | .text cs => shownText cs
    | .tag _ _ => []

/-- Tokens in a row are shown one after the other. -/
@[simp]
theorem shownTokens_append (xs ys : List Token) :
    shownTokens (xs ++ ys) = shownTokens xs ++ shownTokens ys :=
  List.flatMap_append

/-- No tokens show nothing. -/
@[simp]
theorem shownTokens_nil : shownTokens [] = [] := rfl

/-- Plain text is shown with its emoji put in. -/
@[simp]
theorem shownTokens_text_cons (cs : List Char) (ts : List Token) :
    shownTokens (.text cs :: ts) = shownText cs ++ shownTokens ts := rfl

/-- A tag shows nothing. -/
@[simp]
theorem shownTokens_tag_cons (position : Nat) (content : List Char) (ts : List Token) :
    shownTokens (.tag position content :: ts) = shownTokens ts := rfl

/-- The text that was passed is shown unshielded. -/
@[simp]
theorem shownTokens_plain (passed : List Char) :
    shownTokens (plain passed) = shownText (unshield passed.reverse) := by
  cases passed with
  | nil => rfl
  | cons c passed => simp [plain, shownTokens]

/-- A text without emoji codes and without anything that moves the cursor is shown as it is. -/
theorem shownText_eq_self (hreplace : Emoji.replace cs = cs)
    (hmoves : ∀ c ∈ cs, movesCursor c = false) : shownText cs = cs := by
  rw [shownText, hreplace, List.filter_eq_self]
  simpa using hmoves

/-- What is shown of tokens is their text, if it has at most one colon and nothing that moves the
    cursor. -/
theorem shownTokens_eq_rawText {ts : List Token} (hcolon : (rawText ts).count ':' ≤ 1)
    (hmoves : ∀ c ∈ rawText ts, movesCursor c = false) : shownTokens ts = rawText ts := by
  -- by induction on the tokens; each text has at most the one colon
  induction ts with
  | nil => rfl
  | cons t ts ih =>
    cases t with
    | tag position content => exact ih hcolon hmoves
    | text cs =>
      rw [rawText_text_cons] at hcolon hmoves ⊢
      rw [List.count_append] at hcolon
      obtain ⟨hcs, hts⟩ := List.forall_mem_append.mp hmoves
      rw [shownTokens_text_cons, ih (by omega) hts,
        shownText_eq_self (Emoji.replace_of_count_le_one (by omega)) hcs]

namespace Reading

/-- Closing a tag adds no text. -/
private theorem parts_of_close {r r' : Reading} {tag : OpenTag} {others : List OpenTag}
    (h : r.close tag others = .ok r') : r'.parts = r.parts := by
  unfold close at h
  dsimp only at h
  split at h
  · split at h
    · cases h
    · cases h
      rfl
  · cases h
    rfl

/-- Reading a tag adds no text. -/
private theorem parts_of_addTag {r r' : Reading} {content : List Char}
    (h : r.addTag position content = .ok r') : r'.parts = r.parts := by
  unfold addTag at h
  -- a tag closes the last open one, closes the last one of its name, or is opened
  rcases hcut : Text.cut? ['='] content with _ | ⟨name, argument⟩
  all_goals
    simp only [hcut] at h
    split at h
    · split at h
      · split at h
        · cases h
        · exact parts_of_close h
      · cases hname : normalizeName _ with
        | error e =>
          rw [hname] at h
          cases h
        | ok style =>
          simp only [hname, bind, Except.bind] at h
          split at h
          · exact parts_of_close h
          · cases h
    · cases hname : normalizeName _ with
      | error e =>
        rw [hname] at h
        cases h
      | ok style =>
        rw [hname] at h
        cases h
        rfl

/-- Tokens add their text to what was read. -/
private theorem parts_of_addTokens {r r' : Reading} {ts : List Token}
    (h : r.addTokens ts = .ok r') :
    r'.parts.reverse.flatten = r.parts.reverse.flatten ++ shownTokens ts := by
  -- by induction on the tokens: a text is one part more, and a tag none
  induction ts generalizing r with
  | nil =>
    cases h
    simp [shownTokens]
  | cons t ts ih =>
    cases t with
    | text cs =>
      rw [ih h]
      simp [addText, shownTokens, shownText]
    | tag position content =>
      rw [addTokens] at h
      cases htag : r.addTag position content with
      | error e =>
        rw [htag] at h
        cases h
      | ok next =>
        rw [htag] at h
        rw [ih h, parts_of_addTag htag, shownTokens_tag_cons]

end Reading

/-- The text that is shown for a text with markup. -/
theorem text_of_render {marked : Marked} (h : render cs = .ok marked) :
    marked.text = shownTokens (tokens cs) := by
  unfold render at h
  cases hr : ({} : Reading).addTokens (tokens cs) with
  | error e =>
    rw [hr] at h
    cases h
  | ok r =>
    rw [hr] at h
    obtain rfl := Except.ok.inj h
    simpa [Reading.finish] using Reading.parts_of_addTokens hr

end Markup

end SheetAudit.Console
