import SheetAudit.Proofs.Cut
import SheetAudit.Proofs.Trim
import SheetAudit.Stylesheet.Declaration

/-!
# Declaration keys

A key puts the property and the value of a declaration together again, without the blanks around
them.  The property has no colon, so the first colon of the key is the one that was put there: the
key falls into the same two parts, it is its own key, and declarations with one key agree in both
parts.

## Key results

- `declarationKey?_eq`: the key of a declaration in terms of its property and value
- `parts_of_declarationKey?`: a key has the property and the value of its declaration
- `declarationKey?_canonical`: keys are a canonical form
-/

namespace SheetAudit.Stylesheet

open SheetAudit.Text

/-- What stands before the first colon of a declaration, trimmed. -/
def propertyText (declaration : String) : List Char :=
  trim (declaration.toList.takeWhile (· != ':'))

/-- What stands behind the first colon of a declaration, trimmed; nothing if there is no colon. -/
def valueText (declaration : String) : List Char :=
  trim (declaration.toList.dropWhile (· != ':')).tail

/-- The key of a declaration is its property and its value with a colon between them. -/
theorem declarationKey?_eq (d : String) :
    declarationKey? d =
      if propertyText d = [] ∨ valueText d = [] then none
      else some (String.ofList (propertyText d ++ ':' :: valueText d)) := by
  have hempty : ((propertyText d).isEmpty || (valueText d).isEmpty) = true ↔
      propertyText d = [] ∨ valueText d = [] := by
    rw [Bool.or_eq_true, List.isEmpty_iff, List.isEmpty_iff]
  simp only [declarationKey?, partition_singleton]
  exact if_congr hempty rfl rfl

/-- There is no colon in front of the first one. -/
private theorem colon_notMem_propertyText (d : String) : ':' ∉ propertyText d := by
  intro h
  have hmem := (trim_isInfix _).subset h
  have hstop := List.mem_takeWhile_imp hmem
  exact absurd hstop (by decide)

/-- A declaration without a colon has no value. -/
private theorem valueText_of_colon_notMem {d : String} (h : ':' ∉ d.toList) : valueText d = [] := by
  rw [valueText, List.dropWhile_eq_nil_iff.mpr (bne_of_notMem h), List.tail_nil, trim_nil]

/-- A key has the property and the value of its declaration. -/
theorem parts_of_declarationKey? {d k : String} (h : declarationKey? d = some k) :
    propertyText k = propertyText d ∧ valueText k = valueText d := by
  rw [declarationKey?_eq] at h
  split at h
  · cases h
  · obtain rfl := Option.some.inj h
    have hpass := bne_of_notMem (colon_notMem_propertyText d)
    -- both parts of the key are trimmed already
    have hproperty : trim (propertyText d) = propertyText d := trim_of_trimmed (trimmed_trim _)
    have hvalue : trim (valueText d) = valueText d := trim_of_trimmed (trimmed_trim _)
    generalize propertyText d = property at *
    generalize valueText d = value at *
    rw [propertyText, valueText, String.toList_ofList, List.takeWhile_append_of_pos hpass,
      List.dropWhile_append_of_pos hpass]
    simpa using ⟨hproperty, hvalue⟩

/-- The key of a declaration is that of another one exactly if property and value agree. -/
theorem declarationKey?_eq_iff {d₁ d₂ : String} (h : declarationKey? d₁ ≠ none) :
    declarationKey? d₁ = declarationKey? d₂ ↔
      propertyText d₁ = propertyText d₂ ∧ valueText d₁ = valueText d₂ := by
  constructor
  · intro heq
    obtain ⟨k, hk⟩ := Option.ne_none_iff_exists'.mp h
    obtain ⟨hproperty₁, hvalue₁⟩ := parts_of_declarationKey? hk
    obtain ⟨hproperty₂, hvalue₂⟩ := parts_of_declarationKey? (heq ▸ hk)
    exact ⟨hproperty₁.symm.trans hproperty₂, hvalue₁.symm.trans hvalue₂⟩
  · rintro ⟨hproperty, hvalue⟩
    rw [declarationKey?_eq, declarationKey?_eq, hproperty, hvalue]

/-- A declaration has no key exactly if it has no colon, or a blank property or value. -/
theorem declarationKey?_eq_none_iff (d : String) :
    declarationKey? d = none ↔ ':' ∉ d.toList ∨ propertyText d = [] ∨ valueText d = [] := by
  rw [declarationKey?_eq, ite_eq_left_iff]
  constructor
  · intro h
    exact .inr (by_contra fun hparts => Option.some_ne_none _ (h hparts))
  -- hparts) | without a colon the value is empty
  · rintro (hcolon | hparts)
    · exact fun hne => absurd (.inr (valueText_of_colon_notMem hcolon)) hne
    · exact fun hne => absurd hparts hne

/-- A key is its own key; declarations have the same key exactly if the texts before and behind
    their first colons agree but for blanks around them; and there is no key exactly if there is no
    colon or one of these texts is blank. -/
theorem declarationKey?_canonical :
    (∀ d k, declarationKey? d = some k → declarationKey? k = some k) ∧
    (∀ d₁ d₂, declarationKey? d₁ ≠ none →
      (declarationKey? d₁ = declarationKey? d₂ ↔
        propertyText d₁ = propertyText d₂ ∧ valueText d₁ = valueText d₂)) ∧
    ∀ d, declarationKey? d = none ↔
      ':' ∉ d.toList ∨ propertyText d = [] ∨ valueText d = [] := by
  refine ⟨fun d k h => ?_, fun d₁ d₂ => declarationKey?_eq_iff,
    declarationKey?_eq_none_iff⟩
  obtain ⟨hproperty, hvalue⟩ := parts_of_declarationKey? h
  rw [declarationKey?_eq, hproperty, hvalue, ← declarationKey?_eq, h]

/-- A value with colons of its own, and blanks of several kinds around both parts. -/
theorem declarationKey?_canonical_url :
    declarationKey? "\tsrc :\n url(http://a:80) " = some "src:url(http://a:80)" ∧
      declarationKey? "src:url(http://a:80)" = some "src:url(http://a:80)" ∧
      (declarationKey? "\tsrc :\n url(http://a:80) " = declarationKey? "src: url(http://a :80)" ↔
        propertyText "\tsrc :\n url(http://a:80) " = propertyText "src: url(http://a :80)" ∧
          valueText "\tsrc :\n url(http://a:80) " = valueText "src: url(http://a :80)") := by
  have hkey : declarationKey? "\tsrc :\n url(http://a:80) " = some "src:url(http://a:80)" := by
    decide +kernel
  exact ⟨hkey, declarationKey?_canonical.1 _ _ hkey,
    declarationKey?_canonical.2.1 _ _ (by decide +kernel)⟩

end SheetAudit.Stylesheet
