import TableQuery.Predicate
import TableQuery.Proofs.Pattern.Reading

/-!
# Proofs/Pattern/Escaping — the pattern for *contains* is read back as the text it was made from

Every character of the text with a meaning of its own is written behind an escape, the escape
included, so the pattern is read as these characters and nothing else, between two `%`
(`tokens_containing`).  So the text can be told from its pattern, and no escape is left without a
character behind it: that takes an odd run of escapes at the end (`endsInEscape_append_replicate`).
-/

namespace TableQuery.Pattern

/-- **Whether a pattern ends in an escape with nothing behind it**: its last character is an escape,
and that is read as a part of its own. -/
def EndsInEscape (pattern : List Char) : Prop :=
  ∃ front, pattern = front ++ [escapeChar] ∧ tokens pattern = tokens front ++ [.char escapeChar]

theorem getLast?_tail_ne {c : Char} {cs : List Char} (h : (c :: cs).getLast? ≠ some escapeChar) :
    cs.getLast? ≠ some escapeChar := by
  intro hcs
  rw [List.getLast?_cons, hcs] at h
  exact h rfl

/-- What stands behind a pattern is read by itself, unless the pattern ends in an escape. -/
theorem Reads.append {front rest : List Char} {ps qs : List Token} (hfront : Reads front ps)
    (hlast : front.getLast? ≠ some escapeChar) (hrest : Reads rest qs) :
    Reads (front ++ rest) (ps ++ qs) := by
  induction hfront with
  | nil => exact hrest
  | any _ ih => exact .any (ih (getLast?_tail_ne hlast))
  | one _ ih => exact .one (ih (getLast?_tail_ne hlast))
  | escaped _ ih => exact .escaped (ih (getLast?_tail_ne (getLast?_tail_ne hlast)))
  | loneEscape => exact absurd rfl hlast
  | plain hc _ ih => exact .plain hc (ih (getLast?_tail_ne hlast))

/-- In a run of escapes every second one stands for itself, and so does one left over. -/
theorem reads_replicate_escape : ∀ n : Nat,
    Reads (List.replicate n escapeChar) (List.replicate ((n + 1) / 2) (.char escapeChar))
  | 0 => .nil
  | 1 => .loneEscape
  | n + 2 => by
    rw [show (n + 2 + 1) / 2 = (n + 1) / 2 + 1 by omega]
    exact .escaped (reads_replicate_escape n)

theorem tokens_append_replicate {front : List Char} (h : front.getLast? ≠ some escapeChar)
    (n : Nat) : tokens (front ++ List.replicate n escapeChar) =
      tokens front ++ List.replicate ((n + 1) / 2) (.char escapeChar) :=
  ((reads_tokens front).append h (reads_replicate_escape n)).eq_tokens.symm

/-- **A pattern ends in an escape with nothing behind it exactly if it ends in an odd run of
escapes**: each takes the meaning from the next, and the last one of an odd run from none. -/
theorem endsInEscape_append_replicate {front : List Char}
    (h : front.getLast? ≠ some escapeChar) (n : Nat) :
    EndsInEscape (front ++ List.replicate n escapeChar) ↔ n % 2 = 1 := by
  cases n with
  | zero =>
    refine iff_of_false ?_ (by decide)
    rintro ⟨front', heq, -⟩
    rw [List.replicate_zero, List.append_nil] at heq
    rw [heq, List.getLast?_concat] at h
    exact h rfl
  | succ n =>
    have hsplit : front ++ List.replicate (n + 1) escapeChar =
        (front ++ List.replicate n escapeChar) ++ [escapeChar] := by
      rw [List.replicate_succ', List.append_assoc]
    have hends : EndsInEscape (front ++ List.replicate (n + 1) escapeChar) ↔
        tokens (front ++ List.replicate (n + 1) escapeChar) =
          tokens (front ++ List.replicate n escapeChar) ++ [.char escapeChar] := by
      constructor
      · rintro ⟨front', heq, htokens⟩
        obtain rfl := List.append_inj_left' (hsplit.symm.trans heq) rfl
        exact htokens
      · exact fun htokens => ⟨_, hsplit, htokens⟩
    rw [hends, tokens_append_replicate h, tokens_append_replicate h, List.append_assoc,
      ← List.replicate_succ', List.append_cancel_left_eq, List.replicate_inj]
    simp only [or_true, and_true]
    omega

theorem not_endsInEscape_containing (s : String) : ¬ EndsInEscape (containing s).toList := by
  have hcontaining : (containing s).toList =
      (('%' :: s.toList.flatMap literalChar) ++ ['%']) ++ List.replicate 0 escapeChar := by
    rw [containing, String.toList_ofList, List.replicate_zero, List.append_nil]
  rw [hcontaining, endsInEscape_append_replicate]
  · decide
  · rw [List.getLast?_concat]
    decide

/-- **A text can be told from its pattern.** -/
theorem containing_injective {s s' : String} (h : containing s = containing s') : s = s' := by
  have htokens : (.any :: s.toList.map .char ++ [.any] : List Token)
      = .any :: s'.toList.map .char ++ [.any] := by
    rw [← tokens_containing, ← tokens_containing, h]
  have hchars : s.toList.map Token.char = s'.toList.map .char :=
    List.append_inj_left' (List.cons.inj htokens).2 rfl
  exact String.toList_inj.mp (List.map_inj_right (fun _ _ => Token.char.inj) |>.mp hchars)

/-- **Reading undoes escaping.**  The pattern that *contains* makes of a text is read as the
characters of the text, one after the other, between two `%`; it does not end in an escape with
nothing behind it, and no other text has the same pattern. -/
theorem contains_pattern_read_back (s : String) :
    ∃ pattern : String, Predicate.ofOperator .contains (.text s) = (.like, .text pattern) ∧
      tokens pattern.toList = .any :: s.toList.map .char ++ [.any] ∧
      ¬ EndsInEscape pattern.toList ∧
      ∀ s' : String, Predicate.ofOperator .contains (.text s') = (.like, .text pattern) →
        s' = s := by
  refine ⟨containing s, rfl, tokens_containing s, not_endsInEscape_containing s, fun s' h => ?_⟩
  exact containing_injective (Literal.text.inj (Prod.mk.inj h).2)

end TableQuery.Pattern
