import Mathlib.Data.List.Forall2
import DomainRules.Proofs.MetaDomain.Coverage
import DomainRules.Proofs.MetaDomain.Lossless

/-!
# Lines of endings

The line of an ending is the ending itself if that begins with a dot, and else the ending
behind the marker.  The two kinds of lines cannot be mistaken for each other, because a
marked line does not begin with a dot; so the endings can be read back from their lines,
also those that begin with the characters of the marker.  For the same reason a second
translation marks exactly the lines that the first one has marked.
-/

namespace DomainRules.MetaDomain

/-! ## One ending -/

/-- The values can be read back from their lines. -/
theorem lineOf_injective (key : String) : Function.Injective (lineOf key) :=
  Function.LeftInverse.injective (valueOf_lineOf key)

theorem suffixLine_injective : Function.Injective suffixLine := by
  rw [funext suffixLine_eq]
  exact lineOf_injective "domain_suffix"

theorem suffixLine_of_anchored {value : String} (anchored : Anchored value) :
    suffixLine value = value := by
  rw [suffixLine, if_pos ((startsWith_dot_iff value).mpr anchored)]

theorem suffixLine_of_not_anchored {value : String} (notAnchored : ¬Anchored value) :
    suffixLine value = "+." ++ value := by
  rw [suffixLine, if_neg fun starts => notAnchored ((startsWith_dot_iff value).mp starts)]
  rfl

/-- A marked line does not begin with a dot. -/
theorem anchored_suffixLine_iff (value : String) :
    Anchored (suffixLine value) ↔ Anchored value := by
  by_cases anchored : Anchored value
  · rw [suffixLine_of_anchored anchored]
  · rw [suffixLine_of_not_anchored anchored]
    constructor
    · intro dotted
      exact absurd (marked_marker value) dotted.not_marked
    · intro dotted
      exact absurd dotted anchored

/-- An ending that is marked becomes longer. -/
theorem suffixLine_eq_self_iff (value : String) : suffixLine value = value ↔ Anchored value := by
  constructor
  · intro same
    by_contra notAnchored
    rw [suffixLine_of_not_anchored notAnchored] at same
    have lengths := congrArg String.length same
    rw [String.length_append] at lengths
    have marked : "+.".length = 2 := rfl
    omega
  · exact suffixLine_of_anchored

/-- A line holds the characters of its ending and of the marker only. -/
theorem mem_suffixLine_iff {character : Char} (foreign : character ∉ marker.toList)
    (value : String) : character ∈ (suffixLine value).toList ↔ character ∈ value.toList := by
  by_cases anchored : Anchored value
  · rw [suffixLine_of_anchored anchored]
  · rw [suffixLine_of_not_anchored anchored, String.toList_append, List.mem_append]
    exact or_iff_right foreign

/-! ## Lists of endings -/

/-- What holds of an ending and its line. -/
structure EndingLine (value line : String) : Prop where
  written : line = if Anchored value then value else "+." ++ value
  begins : Anchored line ∨ Marked line
  lineFeed : '\n' ∈ line.toList ↔ '\n' ∈ value.toList
  carriageReturn : '\r' ∈ line.toList ↔ '\r' ∈ value.toList

theorem endingLine_suffixLine (value : String) : EndingLine value (suffixLine value) where
  written := by
    by_cases anchored : Anchored value
    · rw [if_pos anchored, suffixLine_of_anchored anchored]
    · rw [if_neg anchored, suffixLine_of_not_anchored anchored]
  begins := by
    by_cases anchored : Anchored value
    · left
      exact (anchored_suffixLine_iff value).mpr anchored
    · right
      rw [suffixLine_of_not_anchored anchored]
      exact marked_marker value
  lineFeed := mem_suffixLine_iff (by decide) value
  carriageReturn := mem_suffixLine_iff (by decide) value

/-- The lines of endings stand in the order of the endings, one for each, and no two lists
of endings have the same lines.  To translate lines once more changes them unless all the
endings begin with a dot. -/
theorem translateSuffix_reversible :
    Function.Injective translateSuffix ∧
      ∀ values,
        (translateSuffix values).length = values.length ∧
          List.Forall₂ EndingLine values (translateSuffix values) ∧
          (translateSuffix (translateSuffix values) = translateSuffix values ↔
            ∀ value ∈ values, Anchored value) := by
  constructor
  · exact List.map_injective_iff.mpr suffixLine_injective
  · intro values
    refine ⟨List.length_map suffixLine, ?_, ?_⟩
    · rw [translateSuffix, List.forall₂_map_right_iff, List.forall₂_same]
      intro value _
      exact endingLine_suffixLine value
    · rw [translateSuffix, translateSuffix, List.map_map, List.map_inj_left]
      apply forall₂_congr
      intro value _
      exact (suffixLine_eq_self_iff _).trans (anchored_suffixLine_iff value)

example : translateSuffix ["", "+", "+.a", ".a", "a"] = ["+.", "+.+", "+.+.a", ".a", "+.a"] := by
  decide +kernel

end DomainRules.MetaDomain
