import Mathlib
import TableQuery.Proofs.Number.Nearest

/-!
# Proofs/Number/Denotation — the values that decimals are written for

A decimal denotes a rational number: its digits, those behind the point divided by a power of ten,
times the power of ten that stands at its end (`Denotes`).  Every text that has the form of a
decimal denotes a number (`exists_denotes_iff`), and it is read as that number, rounded
(`read_of_denotes`).
-/

namespace TableQuery.Number

open TableQuery.Text

/-! ## Values -/

/-- **The power of ten that stands at the end of a decimal.** -/
inductive Power : List Char → ℤ → Prop where
  | none : Power [] 0
  | bare {mark : Char} {ds : List Char} : mark = 'e' ∨ mark = 'E' → IsDigitRun ds →
      Power (mark :: ds) (decimalValue ds)
  | plus {mark : Char} {ds : List Char} : mark = 'e' ∨ mark = 'E' → IsDigitRun ds →
      Power (mark :: '+' :: ds) (decimalValue ds)
  | minus {mark : Char} {ds : List Char} : mark = 'e' ∨ mark = 'E' → IsDigitRun ds →
      Power (mark :: '-' :: ds) (-decimalValue ds)

/-- **The number that a decimal denotes.** -/
inductive Denotes : List Char → ℚ → Prop where
  | whole {ds power : List Char} {e : ℤ} : IsDigitRun ds → Power power e →
      Denotes (ds ++ power) (decimalValue ds * 10 ^ e)
  | pointed {ds fraction power : List Char} {e : ℤ} : IsDigits ds → IsDigits fraction →
      ds ++ fraction ≠ [] → Power power e →
      Denotes (ds ++ '.' :: (fraction ++ power))
        ((decimalValue ds + decimalValue fraction / 10 ^ fraction.length) * 10 ^ e)

theorem Power.isExponent {power : List Char} {e : ℤ} (h : Power power e) :
    power = [] ∨ IsExponent power := by
  cases h with
  | none => exact .inl rfl
  | bare hmark hds => exact .inr ((Binary64.isExponent_cons_iff _ _).mpr ⟨hmark, .bare hds⟩)
  | plus hmark hds => exact .inr ((Binary64.isExponent_cons_iff _ _).mpr ⟨hmark, .plus hds⟩)
  | minus hmark hds => exact .inr ((Binary64.isExponent_cons_iff _ _).mpr ⟨hmark, .minus hds⟩)

theorem exists_power {power : List Char} (h : power = [] ∨ IsExponent power) :
    ∃ e, Power power e := by
  have hsigned {mark : Char} {cs : List Char} (hmark : mark = 'e' ∨ mark = 'E')
      (hcs : Signed IsDigitRun cs) : ∃ e, Power (mark :: cs) e := by
    cases hcs with
    | bare hds => exact ⟨_, .bare hmark hds⟩
    | plus hds => exact ⟨_, .plus hmark hds⟩
    | minus hds => exact ⟨_, .minus hmark hds⟩
  rcases h with rfl | h
  · exact ⟨0, .none⟩
  · cases h with
    | small hcs => exact hsigned (.inl rfl) hcs
    | capital hcs => exact hsigned (.inr rfl) hcs

/-- **What has the form of a decimal denotes a number**, and nothing else does. -/
theorem exists_denotes_iff {cs : List Char} : (∃ v, Denotes cs v) ↔ IsDecimal cs := by
  constructor
  · rintro ⟨v, h⟩
    cases h with
    | whole hds hpower => exact .whole hds hpower.isExponent
    | pointed hds hfraction hne hpower => exact .pointed hds hfraction hne hpower.isExponent
  · intro h
    cases h with
    | whole hds hexponent =>
      obtain ⟨e, hpower⟩ := exists_power hexponent
      exact ⟨_, .whole hds hpower⟩
    | pointed hds hfraction hne hexponent =>
      obtain ⟨e, hpower⟩ := exists_power hexponent
      exact ⟨_, .pointed hds hfraction hne hpower⟩

/-! ## Digits -/

theorem foldl_digits (cs : List Char) (n : ℕ) :
    cs.foldl (fun n c => 10 * n + (c.toNat - '0'.toNat)) n =
      n * 10 ^ cs.length + decimalValue cs := by
  induction cs generalizing n with
  | nil => simp [decimalValue]
  | cons c cs ih =>
    rw [decimalValue, List.foldl_cons, List.foldl_cons, ih, ih, List.length_cons]
    ring

theorem decimalValue_append (ds fraction : List Char) :
    decimalValue (ds ++ fraction) =
      decimalValue ds * 10 ^ fraction.length + decimalValue fraction := by
  rw [decimalValue, List.foldl_append, foldl_digits]
  rfl

/-! ## Reading -/

namespace Binary64

theorem readExponent_unsigned {ds : List Char} (h : IsDigitRun ds) :
    readExponent.unsigned ds = some (decimalValue ds : ℤ) := by
  have hall : ds.all Char.isDigit = true := List.all_eq_true.mpr h.2
  simp [readExponent.unsigned, h.1, hall]

theorem readExponent_of_power {mark : Char} {cs : List Char} {e : ℤ} (h : Power (mark :: cs) e) :
    (mark = 'e' ∨ mark = 'E') ∧ readExponent cs = some e := by
  cases h with
  | bare hmark hds =>
    refine ⟨hmark, ?_⟩
    obtain ⟨d, ds, rfl⟩ := List.exists_cons_of_ne_nil hds.1
    have hdigit : d.isDigit = true := hds.2 d List.mem_cons_self
    rw [← readExponent_unsigned hds]
    unfold readExponent
    split
    · simp_all
    · simp_all
    · rfl
  | plus hmark hds => exact ⟨hmark, readExponent_unsigned hds⟩
  | minus hmark hds =>
    refine ⟨hmark, ?_⟩
    rw [readExponent, readExponent_unsigned hds]
    rfl

/-- Digits without a point, read. -/
theorem readUnsignedDecimal_whole (negative : Bool) {ds power : List Char} {e : ℤ}
    (hds : IsDigitRun ds) (hpower : Power power e) :
    readUnsignedDecimal negative (ds ++ power) = some (ofDecimal negative (decimalValue ds) e) := by
  have hhead := head_exponent hpower.isExponent
  unfold readUnsignedDecimal
  rw [spanDigits_append hds.2 fun c hc => (hhead c hc).1]
  cases power with
  | nil =>
    cases hpower
    simp [hds.1]
  | cons c rest =>
    obtain ⟨hmark, hread⟩ := readExponent_of_power hpower
    have hpoint : c ≠ '.' := (hhead c rfl).2
    simp [hds.1, hpoint, hmark, hread]

/-- Digits with a point among them, read. -/
theorem readUnsignedDecimal_pointed (negative : Bool) {ds fraction power : List Char} {e : ℤ}
    (hds : IsDigits ds) (hfraction : IsDigits fraction) (hne : ds ++ fraction ≠ [])
    (hpower : Power power e) :
    readUnsignedDecimal negative (ds ++ '.' :: (fraction ++ power)) =
      some (ofDecimal negative (decimalValue (ds ++ fraction)) (-fraction.length + e)) := by
  have hhead := head_exponent hpower.isExponent
  unfold readUnsignedDecimal
  rw [spanDigits_append hds (by simp)]
  simp only [spanDigits_append hfraction fun c hc => (hhead c hc).1]
  cases power with
  | nil =>
    cases hpower
    simp [hne]
  | cons c rest =>
    obtain ⟨hmark, hread⟩ := readExponent_of_power hpower
    simp [hne, hmark, hread]

/-- Digits, point and power together make up the number that is rounded. -/
theorem readUnsignedDecimal_of_denotes (negative : Bool) {cs : List Char} {v : ℚ}
    (h : Denotes cs v) :
    ∃ x, readUnsignedDecimal negative cs = some x ∧ Rounds negative v x := by
  cases h with
  | whole hds hpower =>
    exact ⟨_, readUnsignedDecimal_whole negative hds hpower, rounds_ofDecimal negative _ _⟩
  | @pointed ds fraction power e hds hfraction hne hpower =>
    refine ⟨_, readUnsignedDecimal_pointed negative hds hfraction hne hpower, ?_⟩
    have hvalue : ((decimalValue ds : ℚ) + decimalValue fraction / 10 ^ fraction.length) * 10 ^ e =
        (decimalValue (ds ++ fraction) : ℕ) * 10 ^ (-fraction.length + e : ℤ) := by
      rw [decimalValue_append, zpow_add₀ (by norm_num), zpow_neg, zpow_natCast]
      push_cast
      field_simp
    rw [hvalue]
    exact rounds_ofDecimal negative _ _

/-- **A decimal without a sign is read as the number that it denotes**, rounded. -/
theorem read_of_denotes {s : String} {v : ℚ} (h : Denotes s.toList v) :
    ∃ x, read s = some x ∧ Rounds false v x := by
  obtain ⟨x, hread, hrounds⟩ := readUnsignedDecimal_of_denotes false h
  obtain ⟨c, hc, hform⟩ := head_decimal (exists_denotes_iff.mp ⟨v, h⟩)
  obtain ⟨cs, hs⟩ := List.head?_eq_some_iff.mp hc
  have hminus : c ≠ '-' := by
    rintro rfl
    simp at hform
  have hplus : c ≠ '+' := by
    rintro rfl
    simp at hform
  rw [hs] at hread
  refine ⟨x, ?_, hrounds⟩
  unfold read
  simp [hs, hminus, hplus, hread]

end Binary64

end TableQuery.Number
