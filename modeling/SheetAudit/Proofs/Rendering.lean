import SheetAudit.Console.Writing
import SheetAudit.Proofs.MarkupText

/-!
# Consoles that read markup

A console may read markup in any way.  What a report says on it depends on three things only: that a
text whose tags pair up can be shown, that a closing tag of a style that is not open is a fault, and
that the text between the tags is what is shown.  The console of the program has all three.

## Key results

- `readsMarkup_of_render`: consoles that read markup by `Markup.render`
- `exists_displayMarkup`: a text whose tags pair up can be shown
- `displayMarkup_unmatched`: a text that closes what is not open cannot be shown
- `eq_display_of_displayMarkup`: what is written for a text with markup
-/

namespace SheetAudit.Console

open Markup

/-- A console reads markup as it is meant. -/
structure Screen.ReadsMarkup (screen : Screen) : Prop where
  /-- A text whose tags pair up is read, and its styles can be shown. -/
  exists_marked : ∀ {cs : List Char} {left : List (List Char)},
    PairUp [] (tagsOf (tokens cs)) left →
      ∃ marked, screen.markup cs = .ok marked ∧ screen.check marked = .ok ()
  /-- A closing tag of a style that is not open is a fault, which names the tag and its place. -/
  unmatched : ∀ {cs : List Char} {before rest : List Token} {position : Nat} {name : List Char}
    {left : List (List Char)}, tokens cs = before ++ .tag position ('/' :: name) :: rest →
      PairUp [] (tagsOf before) left → IsStyle name → name ∉ left → screen.markup cs =
        .error (.unmatched (String.ofList ('[' :: '/' :: name ++ [']'])) position)
  /-- What is shown of a text is what stands between its tags. -/
  text_eq : ∀ {cs : List Char} {marked : Marked}, screen.markup cs = .ok marked →
    marked.text = shownTokens (tokens cs)

/-- A console that reads markup by `Markup.render` reads it as it is meant. -/
theorem readsMarkup_of_render {screen : Screen} (hmarkup : screen.markup = render)
    (hcheck : screen.check = Marked.check) : screen.ReadsMarkup where
  exists_marked h := by
    rw [hmarkup, hcheck]
    exact exists_render h
  unmatched htokens h hname hleft := by
    rw [hmarkup]
    exact render_unmatched htokens h hname hleft
  text_eq h := by
    rw [hmarkup] at h
    exact text_of_render h

/-- The console of the program reads markup. -/
theorem readsMarkup_wide : Screen.wide.ReadsMarkup :=
  readsMarkup_of_render rfl rfl

namespace Screen.ReadsMarkup

variable {screen : Screen} (hmarkup : screen.ReadsMarkup) {cs : List Char}
  {tags left : List (List Char)}
include hmarkup

/-- A text can be shown if the tags among its tokens pair up. -/
private theorem exists_checkedMarkup_of_tokens (h : PairUp [] (tagsOf (tokens cs)) left) :
    ∃ marked, screen.checkedMarkup cs = .ok marked := by
  obtain ⟨marked, hmarked, hcheck⟩ := hmarkup.exists_marked h
  refine ⟨marked, ?_⟩
  simp only [checkedMarkup, readMarkup, hmarked, hcheck, Except.mapError, bind, Except.bind, pure,
    Except.pure]

/-- A text whose tags pair up can be shown. -/
theorem exists_checkedMarkup (htags : HasTags cs tags) (h : PairUp [] tags left) :
    ∃ marked, screen.checkedMarkup cs = .ok marked := by
  rw [← htags.tagsOf_tokens] at h
  exact hmarkup.exists_checkedMarkup_of_tokens h

/-- A text is written if the tags among its tokens pair up. -/
theorem exists_displayMarkup_of_tokens (h : PairUp [] (tagsOf (tokens cs)) left) :
    ∃ text, screen.displayMarkup cs = .ok text := by
  obtain ⟨marked, hmarked⟩ := hmarkup.exists_checkedMarkup_of_tokens h
  exact ⟨screen.display marked.text, by rw [displayMarkup, hmarked]; rfl⟩

/-- A text whose tags pair up is written. -/
theorem exists_displayMarkup (htags : HasTags cs tags) (h : PairUp [] tags left) :
    ∃ text, screen.displayMarkup cs = .ok text := by
  rw [← htags.tagsOf_tokens] at h
  exact hmarkup.exists_displayMarkup_of_tokens h

/-- A text with a closing tag of a style that is not open is not written. -/
theorem displayMarkup_unmatched {before rest : List Token} {position : Nat} {name : List Char}
    (htokens : tokens cs = before ++ .tag position ('/' :: name) :: rest)
    (h : PairUp [] (tagsOf before) left) (hname : IsStyle name) (hleft : name ∉ left) :
    screen.displayMarkup cs =
      .error (.markup (.unmatched (String.ofList ('[' :: '/' :: name ++ [']'])) position)) := by
  simp only [displayMarkup, checkedMarkup, readMarkup, hmarkup.unmatched htokens h hname hleft,
    Except.mapError, bind, Except.bind]

/-- The text that is shown for a text with markup. -/
theorem text_of_checkedMarkup {marked : Marked} (h : screen.checkedMarkup cs = .ok marked) :
    marked.text = shownTokens (tokens cs) := by
  unfold checkedMarkup readMarkup at h
  cases hread : screen.markup cs with
  | error e =>
    rw [hread] at h
    cases h
  | ok read =>
    simp only [hread, Except.mapError, bind, Except.bind] at h
    split at h
    · cases h
    · -- checking the styles leaves the text as it is
      obtain rfl := Except.ok.inj h
      exact hmarkup.text_eq hread

/-- What is written for a text with markup is what is written for the text that is shown. -/
theorem eq_display_of_displayMarkup {text : List Char} (h : screen.displayMarkup cs = .ok text) :
    ∃ marked, screen.checkedMarkup cs = .ok marked ∧ marked.text = shownTokens (tokens cs) ∧
      text = screen.display marked.text := by
  unfold displayMarkup at h
  cases hmarked : screen.checkedMarkup cs with
  | error e =>
    rw [hmarked] at h
    cases h
  | ok marked =>
    rw [hmarked] at h
    exact ⟨marked, rfl, hmarkup.text_of_checkedMarkup hmarked, (Except.ok.inj h).symm⟩

end Screen.ReadsMarkup

end SheetAudit.Console
