import Mathlib.Logic.ExistsUnique
import TableQuery.Proofs.Pattern.Matching

/-!
# Proofs/Pattern/Reading — what the characters of a pattern stand for

`Reads` gives the characters of a pattern their meaning, from left to right: `%` and `_` are
wildcards, an escape takes the meaning from the character behind it, and all else stands for itself,
an escape with nothing behind it included.  Every pattern has exactly one reading (`reads_iff`), and
a text matches the pattern if it matches that reading.
-/

namespace TableQuery.Pattern

/-- **The parts that a pattern is written for.** -/
inductive Reads : List Char → List Token → Prop where
  | nil : Reads [] []
  | any {cs : List Char} {ps : List Token} : Reads cs ps → Reads ('%' :: cs) (.any :: ps)
  | one {cs : List Char} {ps : List Token} : Reads cs ps → Reads ('_' :: cs) (.one :: ps)
  | escaped {c : Char} {cs : List Char} {ps : List Token} :
      Reads cs ps → Reads (escapeChar :: c :: cs) (.char c :: ps)
  | loneEscape : Reads [escapeChar] [.char escapeChar]
  | plain {c : Char} {cs : List Char} {ps : List Token} :
      isSpecial c = false → Reads cs ps → Reads (c :: cs) (.char c :: ps)

/-- A character without a meaning of its own is a part by itself. -/
theorem tokens_cons_of_not_isSpecial {c : Char} (h : isSpecial c = false) (cs : List Char) :
    tokens (c :: cs) = .char c :: tokens cs := by
  have hliteral : literalChar c = [c] := if_neg (by simp [h])
  rw [← tokens_literalChar_append, hliteral, List.singleton_append]

theorem reads_tokens (cs : List Char) : Reads cs (tokens cs) := by
  fun_induction tokens cs with
  | case1 => exact .nil
  | case2 cs ih => exact .any ih
  | case3 cs ih => exact .one ih
  | case4 => exact .loneEscape
  | case5 c cs ih => exact .escaped ih
  | case6 c cs hpercent hunderscore hlone hescape ih =>
    refine .plain ?_ ih
    have hbackslash : c ≠ escapeChar := by
      rintro rfl
      cases cs with
      | nil => exact hlone rfl rfl
      | cons d cs => exact hescape d cs rfl rfl
    simpa [isSpecial, hbackslash] using And.intro hpercent hunderscore

theorem Reads.eq_tokens {cs : List Char} {ps : List Token} (h : Reads cs ps) : ps = tokens cs := by
  induction h with
  | nil => rfl
  | any _ ih => rw [tokens, ih]
  | one _ ih => rw [tokens, ih]
  | escaped _ ih =>
    rw [ih]
    rfl
  | loneEscape => rfl
  | plain hc _ ih => rw [tokens_cons_of_not_isSpecial hc, ih]

/-- **A pattern has exactly one reading.** -/
theorem reads_iff {cs : List Char} {ps : List Token} : Reads cs ps ↔ ps = tokens cs := by
  refine ⟨Reads.eq_tokens, ?_⟩
  rintro rfl
  exact reads_tokens cs

/-- **Matching is what a pattern says**: its characters can be read in exactly one way, and the walk
accepts the texts that match this reading, however many wildcards it holds. -/
theorem isMatch_iff_matches_reading (text pattern : String) :
    (∃! ps, Reads pattern.toList ps) ∧
      (isMatch text pattern = true ↔
        ∃ ps, Reads pattern.toList ps ∧ Matches ps text.toList) := by
  constructor
  · exact ⟨tokens pattern.toList, reads_tokens _, fun ps h => h.eq_tokens⟩
  · simp only [isMatch_eq_true_iff, reads_iff, exists_eq_left]

end TableQuery.Pattern
