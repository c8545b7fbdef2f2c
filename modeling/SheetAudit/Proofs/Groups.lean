import Mathlib.Data.List.Induction
import Mathlib.Data.List.Nodup
import SheetAudit.Stylesheet.Declaration

/-!
# Groups of equal declarations

`declarationGroups` goes through the uses of keys in order and files each of them in the group of
its key.  Here the groups are said all at once: one group for each key, in order of first
appearance, with the rules that own a declaration of that key.

## Key results

- `length_ownersOf`: the number of owners of a key
- `addOwner_of_not_mem` / `addOwner_of_mem`: filing one use, of a new key and of a known one
- `foldl_addOwner`: filing all uses
- `declarationGroups_eq`: the groups of a list of rules
-/

namespace SheetAudit.Stylesheet

/-- The rules that own a declaration with the given key, one entry for each such declaration. -/
def ownersOf (key : String) (rules : List Rule) : List Rule :=
  rules.flatMap fun r => (r.declarations.filter (declarationKey? · = some key)).map fun _ => r

/-- The rules that use a key, among uses of keys. -/
def usersOf (key : String) (uses : List (String × Rule)) : List Rule :=
  (uses.filter (·.1 = key)).map (·.2)

/-- The declarations of one rule that have the given key. -/
theorem usersOf_declarations (key : String) (r : Rule) (ds : List String) :
    usersOf key ((ds.filterMap declarationKey?).map (·, r)) =
      (ds.filter (declarationKey? · = some key)).map fun _ => r := by
  -- one declaration at a time: it has no key, this key or another one
  induction ds with
  | nil => rfl
  | cons d ds ih =>
    simp only [usersOf] at ih ⊢
    cases hd : declarationKey? d with
    | none => simpa [hd] using ih
    | some k =>
      by_cases hk : k = key
      · simpa [hd, hk] using ih
      · simpa [hd, hk] using ih

/-- The uses of a key in a list of rules are the declarations with that key. -/
theorem usersOf_keyedRules (key : String) (rules : List Rule) :
    usersOf key (keyedRules rules) = ownersOf key rules := by
  rw [usersOf, keyedRules, ownersOf, List.filter_flatMap, List.map_flatMap]
  exact congrArg (rules.flatMap ·) (funext fun r => usersOf_declarations key r r.declarations)

/-- There are as many users of a key as there are uses of it. -/
theorem length_usersOf (key : String) (uses : List (String × Rule)) :
    (usersOf key uses).length = (uses.map (·.1)).count key := by
  rw [usersOf, List.length_map, ← List.countP_eq_length_filter, List.count_eq_countP,
    List.countP_map]
  rfl

/-- A key has as many owners as it has uses. -/
theorem length_ownersOf (key : String) (rules : List Rule) :
    (ownersOf key rules).length = ((keyedRules rules).map (·.1)).count key := by
  rw [← usersOf_keyedRules, length_usersOf]

/-! ## Filing uses -/

/-- A use of a key that has no group goes into a new group at the end. -/
theorem addOwner_of_not_mem {key : String} (owner : Rule) {gs : List DeclarationGroup}
    (h : ∀ g ∈ gs, g.key ≠ key) : addOwner key owner gs = gs ++ [⟨key, [owner]⟩] := by
  induction gs with
  | nil => rfl
  | cons g gs ih =>
    rw [addOwner, if_neg (h g (by simp)), ih fun g' hg' => h g' (by simp [hg'])]
    rfl

/-- A use of a key that has a group goes in front of the uses in that group. -/
theorem addOwner_of_mem {key : String} (owner : Rule) {keys : List String} (hkeys : keys.Nodup)
    (hmem : key ∈ keys) (owners : String → List Rule) :
    addOwner key owner (keys.map fun k => ⟨k, owners k⟩) =
      keys.map fun k => ⟨k, if k = key then owner :: owners k else owners k⟩ := by
  -- on the keys, until the one that is looked for
  induction keys with
  | nil => simp at hmem
  | cons k keys ih =>
    obtain ⟨hk, hkeys⟩ := List.nodup_cons.mp hkeys
    rw [List.map_cons, List.map_cons, addOwner]
    by_cases hkey : k = key
    · -- the key comes only once, so that the other groups stay as they are
      have hrest : ∀ k' ∈ keys, k' ≠ key := by
        rintro k' hk' rfl
        exact hk (hkey ▸ hk')
      rw [if_pos hkey, if_pos hkey, hkey]
      congr 1
      exact List.map_congr_left fun k' hk' => by rw [if_neg (hrest k' hk')]
    · have hmem : key ∈ keys := (List.mem_cons.mp hmem).resolve_left (Ne.symm hkey)
      rw [if_neg hkey, if_neg hkey, ih hkeys hmem]

/-- The keys in order of first appearance are all different. -/
theorem nodup_eraseDups (keys : List String) : keys.eraseDups.Nodup := by
  match keys with
  | [] => exact List.nodup_nil
  | k :: keys =>
    rw [List.eraseDups_cons, List.nodup_cons, List.mem_eraseDups]
    exact ⟨by simp, nodup_eraseDups _⟩
termination_by keys.length
decreasing_by exact Nat.lt_succ_of_le (List.length_filter_le _ _)

/-- One more key comes last, if it is new. -/
theorem eraseDups_concat (keys : List String) (key : String) :
    (keys ++ [key]).eraseDups =
      if key ∈ keys then keys.eraseDups else keys.eraseDups ++ [key] := by
  rw [List.eraseDups_append]
  by_cases h : key ∈ keys <;> simp [List.removeAll, List.eraseDups_cons, h]

/-- One more use adds its rule to the users of its key. -/
private theorem usersOf_concat (key k : String) (uses : List (String × Rule)) (r : Rule) :
    usersOf key (uses ++ [(k, r)]) =
      if key = k then usersOf key uses ++ [r] else usersOf key uses := by
  by_cases h : key = k <;> simp [usersOf, h, Ne.symm]

/-- Filing all uses gives a group for each key, in order of first appearance, with its users, last
    one first. -/
theorem foldl_addOwner (uses : List (String × Rule)) :
    uses.foldl (fun groups (key, rule) => addOwner key rule groups) [] =
      (uses.map (·.1)).eraseDups.map fun k => ⟨k, (usersOf k uses).reverse⟩ := by
  -- on the uses from the front, as they are filed
  induction uses using List.reverseRecOn with
  | nil => rfl
  | append_singleton uses use ih =>
    obtain ⟨key, rule⟩ := use
    rw [List.foldl_append, ih, List.map_append, List.map_singleton, eraseDups_concat]
    simp only [List.foldl_cons, List.foldl_nil]
    by_cases hmem : key ∈ uses.map (·.1)
    · rw [if_pos hmem, addOwner_of_mem rule (nodup_eraseDups _) (List.mem_eraseDups.mpr hmem)]
      refine List.map_congr_left fun k _ => ?_
      rw [usersOf_concat]
      split <;> simp
    · -- the key is new: no group has it, and no rule used it before
      have hne : ∀ k ∈ (uses.map (·.1)).eraseDups, k ≠ key := by
        rintro k hk rfl
        exact hmem (List.mem_eraseDups.mp hk)
      have hnone : usersOf key uses = [] := by
        rw [usersOf, List.map_eq_nil_iff, List.filter_eq_nil_iff]
        rintro ⟨k, r⟩ huse hk
        exact hmem (List.mem_map.mpr ⟨(k, r), huse, of_decide_eq_true hk⟩)
      rw [if_neg hmem, addOwner_of_not_mem rule (List.forall_mem_map.mpr hne), List.map_append]
      refine congrArg₂ (· ++ ·) (List.map_congr_left fun k hk => ?_) ?_
      · rw [usersOf_concat, if_neg (hne k hk)]
      · simp [usersOf_concat, hnone]

/-- The groups of a list of rules: one for each key, in order of first appearance, with the rules
    that own a declaration of that key. -/
theorem declarationGroups_eq (rules : List Rule) :
    declarationGroups rules =
      ((keyedRules rules).map (·.1)).eraseDups.map fun k => ⟨k, ownersOf k rules⟩ := by
  rw [declarationGroups, foldl_addOwner, List.map_map]
  refine List.map_congr_left fun k _ => ?_
  simp [usersOf_keyedRules]

/-- A group holds all the rules that own a declaration of its key. -/
theorem owners_of_mem_declarationGroups {rules : List Rule} {g : DeclarationGroup}
    (h : g ∈ declarationGroups rules) : g.owners = ownersOf g.key rules := by
  rw [declarationGroups_eq] at h
  obtain ⟨k, -, rfl⟩ := List.mem_map.mp h
  rfl

end SheetAudit.Stylesheet
