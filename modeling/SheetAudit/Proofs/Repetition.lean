import SheetAudit.Proofs.IssueCounts

/-!
# Repeated declarations

The uses of declarations are listed rule by rule, each with its key and its rule.  Grouping them
loses and adds nothing: the groups have the keys of the uses in the order in which these first
appear, and each group has the rules of the uses of its key, as often as they use it.  The warnings
about repeated declarations are those about the groups with at least three uses, in the same order.

## Key results

- `pairwise_idxOf_eraseDups`: first appearances are in order
- `forall₂_filter_filterMap`: what an optional function makes of the members for which it is defined
- `warnsOf_of_duplicateIssue?`: what a warning says
- `declarationGroups_duplicateIssues`: groups and warnings of a list of rules
-/

namespace SheetAudit

open Stylesheet

namespace Stylesheet

/-- The distinct keys of a list come in the order in which they first appear. -/
theorem pairwise_idxOf_eraseDups (keys : List String) :
    keys.eraseDups.Pairwise fun k k' => keys.idxOf k < keys.idxOf k' := by
  -- on the keys from the front, since a new one comes last
  induction keys using List.reverseRecOn with
  | nil => exact .nil
  | append_singleton keys key ih =>
    -- one more key at the end does not move the others
    have hkept : ∀ k ∈ keys.eraseDups, (keys ++ [key]).idxOf k = keys.idxOf k :=
      fun k hk => List.idxOf_append_of_mem (List.mem_eraseDups.mp hk)
    have hpairs : keys.eraseDups.Pairwise fun k k' =>
        (keys ++ [key]).idxOf k < (keys ++ [key]).idxOf k' := by
      refine ih.imp_of_mem fun hk hk' hlt => ?_
      rwa [hkept _ hk, hkept _ hk']
    rw [eraseDups_concat]
    split
    · exact hpairs
    · next hnew =>
      rw [List.pairwise_append]
      refine ⟨hpairs, List.pairwise_singleton _ _, fun k hk k' hk' => ?_⟩
      obtain rfl := List.mem_singleton.mp hk'
      rw [hkept k hk, List.idxOf_append_of_notMem hnew]
      have := List.idxOf_lt_length_of_mem (List.mem_eraseDups.mp hk)
      omega

/-- Each declaration with a key is a use of it by its rule. -/
theorem keyedRules_eq (rules : List Rule) :
    keyedRules rules = rules.flatMap fun r =>
      r.declarations.filterMap fun d => (declarationKey? d).map (·, r) := by
  simp only [keyedRules, List.map_filterMap]

end Stylesheet

/-- The members for which an optional function is defined, next to what it makes of them. -/
theorem forall₂_filter_filterMap {α β : Type} {p : α → Bool} {f : α → Option β} {R : α → β → Prop}
    {xs : List α} (hsome : ∀ x ∈ xs, p x = true → ∃ y, f x = some y ∧ R x y)
    (hnone : ∀ x ∈ xs, p x = false → f x = none) :
    List.Forall₂ R (xs.filter p) (xs.filterMap f) := by
  -- one member at a time: it is in both lists or in neither
  induction xs with
  | nil => exact .nil
  | cons x xs ih =>
    obtain ⟨hx, hxs⟩ := List.forall_mem_cons.mp hsome
    obtain ⟨hx', hxs'⟩ := List.forall_mem_cons.mp hnone
    cases hp : p x with
    | false =>
      rw [List.filter_cons_of_neg (by simp [hp]), List.filterMap_cons_none (hx' hp)]
      exact ih hxs hxs'
    | true =>
      obtain ⟨y, hy, hR⟩ := hx hp
      rw [List.filter_cons_of_pos hp, List.filterMap_cons_some hy]
      exact .cons hR (ih hxs hxs')

/-! ## Warnings -/

/-- What the warning about a key says, in terms of the uses of keys. -/
structure Issue.WarnsOf (uses : List (String × Rule)) (key : String) (i : Issue) : Prop where
  /-- It is about repeated declarations. -/
  kind_eq : i.kind = .duplicate
  /-- It is a warning. -/
  severity_eq : i.severity = .warning
  /-- It names the key and how often it is used. -/
  message_eq : i.message =
    s!"Declaration \"{key}\" appears {(uses.map (·.1)).count key} times"
  /-- It counts the uses of the key. -/
  occurrences_eq : i.occurrences = (uses.map (·.1)).count key
  /-- It lists the selectors of the rules that use the key. -/
  selector_eq : i.selector = ", ".intercalate ((usersOf key uses).map (·.selector))
  /-- It stands where the first of these rules stands. -/
  place_eq : ∃ first, (usersOf key uses).head? = some first ∧ i.source = first.source ∧
    i.line = first.line

/-- A group of at least three uses has a warning. -/
theorem warnsOf_of_duplicateIssue? {uses : List (String × Rule)} {g : DeclarationGroup}
    (howners : g.owners = usersOf g.key uses) (h : 3 ≤ (uses.map (·.1)).count g.key) :
    ∃ i, duplicateIssue? g = some i ∧ i.WarnsOf uses g.key := by
  have hlength : g.owners.length = (uses.map (·.1)).count g.key := by
    rw [howners, length_usersOf]
  -- a group with three uses has a first one, at which the warning stands
  unfold duplicateIssue?
  split
  · next hnil =>
    rw [hnil, List.length_nil] at hlength
    omega
  · next first others hfirst =>
    have hmany : ¬g.owners.length < minRepeats := by
      rw [hlength, minRepeats]
      omega
    dsimp only
    rw [if_neg hmany]
    refine ⟨_, rfl, rfl, rfl, ?_, ?_, ?_, first, ?_, rfl, rfl⟩
    · rw [hlength]
    · rw [hlength]
    · rw [howners]
    · rw [← howners, hfirst]
      rfl

/-- The groups of declarations of a list of rules have the keys of its uses of declarations, in the
    order in which they first appear, each with the rules that use it; together they have as many
    rules as there are uses.  The warnings about repeated declarations are one for each key with at
    least three uses, in the order of the groups. -/
theorem declarationGroups_duplicateIssues (rules : List Rule) :
    let uses := rules.flatMap fun r =>
      r.declarations.filterMap fun d => (declarationKey? d).map (·, r)
    let keys := uses.map (·.1)
    (∀ k, k ∈ (declarationGroups rules).map (·.key) ↔ k ∈ keys) ∧
    ((declarationGroups rules).map (·.key)).Pairwise (fun k k' => keys.idxOf k < keys.idxOf k') ∧
    (∀ g ∈ declarationGroups rules, g.owners = usersOf g.key uses) ∧
    ((declarationGroups rules).map (·.owners.length)).sum = uses.length ∧
    List.Forall₂ (fun k i => i.WarnsOf uses k)
      (((declarationGroups rules).map (·.key)).filter fun k => 3 ≤ keys.count k)
      (duplicateIssues rules) := by
  intro uses keys
  have huses : keyedRules rules = uses := keyedRules_eq rules
  have hkeys : (declarationGroups rules).map (·.key) = keys.eraseDups := by
    rw [declarationGroups_eq, List.map_map, huses]
    exact List.map_id _
  have howners : ∀ g ∈ declarationGroups rules, g.owners = usersOf g.key uses := by
    intro g hg
    rw [owners_of_mem_declarationGroups hg, ← usersOf_keyedRules, huses]
  refine ⟨?_, ?_, howners, ?_, ?_⟩
  · intro k
    rw [hkeys, List.mem_eraseDups]
  · rw [hkeys]
    exact pairwise_idxOf_eraseDups keys
  · rw [sum_length_owners, huses]
  -- the keys that count are those of the groups that have a warning
  · rw [List.filter_map, List.forall₂_map_left_iff]
    refine forall₂_filter_filterMap (fun g hg hmany => ?_) (fun g hg hfew => ?_)
    · exact warnsOf_of_duplicateIssue? (howners g hg) (of_decide_eq_true hmany)
    · have hlength : g.owners.length = keys.count g.key := by
        rw [howners g hg, length_usersOf]
      rw [← Option.not_isSome_iff_eq_none, isSome_duplicateIssue?, hlength]
      exact Bool.eq_false_iff.mp hfew

end SheetAudit
