import SheetAudit.Proofs.Cursor

/-!
# The states of a scan

What holds of every state of a scan, what changes from one state to the next, and how many states
there are.  The number of steps is not bounded by the text alone, since some of them read nothing.
It is bounded by the opening braces: a construct takes three steps and an opening brace, and what
follows the last opening brace takes two steps at most.

## Key results

- `trace_invariant`: the states of a scan, one by one and one after the other
- `rank_of_move` / `length_trace_le`: the number of steps
- `run_terminates`: every scan ends, at the end of the text, and never reads outside it
-/

namespace SheetAudit.Stylesheet.Scanner

variable {s s' : Scanner} {cs taken : List Char}

/-! ## From one state to the next -/

/-- What changes from one state of a scan of the text `cs` to the next. -/
structure Follows (cs : List Char) (s s' : Scanner) : Prop where
  /-- With an index and a signed depth the scan makes the same step. -/
  handled : (s.cursor cs).handle = some (s'.cursor cs)
  /-- The scan does not go back. -/
  pos_le : s.pos ≤ s'.pos
  /-- It finds one rule at most and loses none. -/
  found : s'.found = s.found ∨ ∃ r, s'.found = r :: s.found
  /-- A block that is left with open braces has been read to the end of the text. -/
  unclosed : s.phase.isBlock = true → 0 < s'.depth → s'.pos = cs.length
  /-- No prefix of a declaration block closes more braces than it opens. -/
  staysOpen : s.phase = .declarations → StaysOpen 0 s'.block
  /-- A declaration block that is closed opens as many braces as it closes, and one that is not
      opens more by those that are open at its end, less the one before it. -/
  braces_eq : s.phase = .declarations →
    Cursor.braces s'.block = if 0 < s'.depth then (s'.depth : Int) - 1 else 0

/-- A step from a reached state leads to one that follows it. -/
theorem Reached.follows (h : Reached cs s) (hs : s.phase ≠ .done) : Follows cs s s.step := by
  obtain ⟨taken, hm⟩ := exists_move_step hs
  have h' : Reached cs s.step := h.move hm
  refine ⟨handle_cursor h, by rw [hm.pos_eq]; omega, hm.found_cases, fun hb hd => ?_,
    fun hdecl => (hm.block_of_declarations hdecl).1, fun hdecl => ?_⟩
  · -- nothing is left behind the block
    have hrest := h'.rest_eq.symm.trans (hm.rest_of_unclosed hb hd)
    have hle := List.drop_eq_nil_iff.mp hrest
    have := h'.pos_le
    omega
  -- both ways of counting the open braces agree
  · have hcount := (hm.block_of_declarations hdecl).2
    rw [Cursor.braces]
    split <;> omega

/-- All states of a scan are reached, each from the one before it. -/
theorem reached_and_follows (text : List Char) (source : String) :
    (∀ e ∈ start text source :: (start text source).trace, Reached (stripComments text) e) ∧
      (start text source :: (start text source).trace).IsChain (Follows (stripComments text)) :=
  trace_induction (fun _ he hne => ⟨he.step hne, he.follows hne⟩) _ (reached_start text source)

/-- Every state of a scan has read a part of the text and counted its lines, stands behind an
    opening brace where a block comes next, and never has fewer braces open than none; from one
    state to the next the scan goes on in the text, finds one rule at most, leaves a block open only
    at the end of the text, and reads declaration blocks up to the brace that closes them. -/
theorem trace_invariant (text source : String) :
    (∀ e ∈ start text.toList source :: (start text.toList source).trace,
      Reached (stripComments text.toList) e ∧ 0 ≤ (e.cursor (stripComments text.toList)).depth) ∧
    (start text.toList source :: (start text.toList source).trace).IsChain
      (Follows (stripComments text.toList)) := by
  obtain ⟨hall, hchain⟩ := reached_and_follows text.toList source
  exact ⟨fun e he => ⟨hall e he, Int.natCast_nonneg _⟩, hchain⟩

/-! ## The number of steps -/

/-- The number of steps that a scan can still make: three for each opening brace, and those of the
    construct that it is in. -/
def budget (s : Scanner) : Nat :=
  3 * s.rest.count '{' + rank s.phase

/-- A move goes down in the order of phases, unless it passes an opening brace. -/
theorem rank_of_move (h : Move s taken s') :
    rank s'.phase < rank s.phase ∨
      0 < taken.count '{' ∧ rank s'.phase < rank s.phase + 3 := by
  -- the moves into a block are the only ones that go up, and each of them passes its brace
  cases h with
  | openAtRule hs hr => exact .inr (by simp [hs, rank])
  | openRule hs hr => exact .inr (by simp [hs, rank])
  | finish hs | startAtRule hs | startRule hs | dropAtRule hs | dropRule hs | passAtRule hs
  | passRule hs =>
    exact .inl (by simp [hs, rank])

/-- Every move takes from the budget. -/
private theorem budget_lt_of_move (h : Move s taken s') : s'.budget < s.budget := by
  have hcount : s.rest.count '{' = taken.count '{' + s'.rest.count '{' := by
    rw [h.rest_eq, List.count_append]
  have hrank := rank_of_move h
  rw [budget, budget, hcount]
  omega

/-- A scan makes no more steps than its budget allows. -/
theorem length_trace_le (s : Scanner) : s.trace.length ≤ s.budget := by
  -- each step takes at least one from the budget
  induction s using scan_induction with
  | done s hs =>
    rw [trace_of_phase_eq hs]
    exact Nat.zero_le _
  | step s hs ih =>
    obtain ⟨taken, hm⟩ := exists_move_step hs
    have hbudget := budget_lt_of_move hm
    rw [trace_of_phase_ne hs, List.length_cons]
    omega

/-! ## The end of a scan -/

/-- The last state of a scan is the one it runs to, and there it is done. -/
theorem getLast?_trace (s : Scanner) :
    (s :: s.trace).getLast? = some s.run ∧ s.run.phase = .done := by
  induction s using scan_induction with
  | done s hs =>
    rw [trace_of_phase_eq hs, run_of_phase_eq hs]
    exact ⟨rfl, hs⟩
  | step s hs ih =>
    rw [trace_of_phase_ne hs, run_of_phase_ne hs, List.getLast?_cons_cons]
    exact ih

/-- Every scan ends: it is done after three steps for each opening brace and two more at most, has
    then read the whole text, and, made with an index, takes the same steps and never reads outside
    the text. -/
theorem run_terminates (text source : String) :
    (start text.toList source).trace.length ≤ 3 * (stripComments text.toList).count '{' + 2 ∧
    (start text.toList source).trace.getLast? = some (start text.toList source).run ∧
    (start text.toList source).run.phase = .done ∧
    (start text.toList source).run.pos = (stripComments text.toList).length ∧
    ((start text.toList source).cursor (stripComments text.toList)).runFor
        (start text.toList source).trace.length =
      some ((start text.toList source).run.cursor (stripComments text.toList)) := by
  have hreached := reached_start text.toList source
  obtain ⟨hlast, hdone⟩ := getLast?_trace (start text.toList source)
  have hne : (start text.toList source).phase ≠ .done := nofun
  have hend : Reached (stripComments text.toList) (start text.toList source).run :=
    (reached_and_follows text.toList source).1 _ (List.mem_of_getLast? hlast)
  refine ⟨length_trace_le _, ?_, hdone, hend.done_pos hdone, runFor_cursor _ hreached⟩
  rw [trace_of_phase_ne hne, List.getLast?_cons_cons] at hlast
  rw [trace_of_phase_ne hne]
  exact hlast

end SheetAudit.Stylesheet.Scanner
