import Mathlib
import TableQuery.Proofs.Number.Reading
import TableQuery.Proofs.Number.Rounding

/-!
# Proofs/Number/Nearest — how far a number lies from its decimal

A quotient is scaled until 53 bits stand in front of the point, and what stands behind the point is
rounded.  So a finite number lies within half a unit of its last bit of the quotient
(`rounds_ofRatio`).  Beyond the largest finite number, `(2 ^ 53 - 1) * 2 ^ 971`, the next one
would be `2 ^ 1024`, which is infinite: what lies below the middle of the two becomes a finite
number, and the middle and all above it infinity (`nearest_lt_infinite_iff`).  Decimals inherit both
(`rounds_ofDecimal`).
-/

namespace TableQuery.Number.Binary64

open TableQuery.Text

/-- **The smallest quotient that is rounded to infinity.** -/
def overflow : ℚ := (2 ^ 54 - 1) * 2 ^ 970

/-! ## Quotients and powers -/

theorem zpow_eq_div (b : ℚ) (q : ℤ) : b ^ q = b ^ q.toNat / b ^ (-q).toNat := by
  rcases Int.le_total 0 q with hq | hq
  · obtain ⟨n, rfl⟩ := Int.eq_ofNat_of_zero_le hq
    simp
  · obtain ⟨n, hn⟩ := Int.eq_ofNat_of_zero_le (Int.neg_nonneg_of_nonpos hq)
    obtain rfl : q = -(n : ℤ) := by omega
    simp

/-- Scaled whole numbers have the scaled quotient. -/
theorem scaled_div (num den : ℕ) (q : ℤ) :
    ((num * Nat.pow 2 (-q).toNat : ℕ) : ℚ) / (den * Nat.pow 2 q.toNat : ℕ) =
      (num : ℚ) / den / 2 ^ q := by
  rw [zpow_eq_div, Nat.pow_eq, Nat.pow_eq]
  push_cast
  field_simp

/-- Scaled whole numbers compare as the quotients that they stand for. -/
theorem scaled_le_iff {num den : ℕ} (hden : 0 < den) (c : ℕ) (q : ℤ) :
    c * (den * Nat.pow 2 q.toNat) ≤ num * Nat.pow 2 (-q).toNat ↔
      (c : ℚ) * 2 ^ q ≤ (num : ℚ) / den := by
  have hscaled : (0 : ℚ) < (den * Nat.pow 2 q.toNat : ℕ) := by
    exact_mod_cast Nat.mul_pos hden (Nat.pow_pos two_pos)
  rw [← le_div_iff₀ (zpow_pos two_pos q), ← scaled_div, le_div_iff₀ hscaled]
  exact_mod_cast Iff.rfl

/-! ## Exponents -/

/-- The highest bits of two whole numbers give that of their quotient, but for one place. -/
theorem log_div_bounds {num den : ℕ} (hnum : num ≠ 0) (hden : 0 < den) :
    (num.log2 : ℤ) - den.log2 - 1 ≤ Int.log 2 ((num : ℚ) / den) ∧
      Int.log 2 ((num : ℚ) / den) < num.log2 - den.log2 + 1 := by
  have hdenq : (0 : ℚ) < den := by exact_mod_cast hden
  have hx : (0 : ℚ) < num / den := by positivity
  have hnumlow : (2 : ℚ) ^ num.log2 ≤ num := by exact_mod_cast Nat.log2_self_le hnum
  have hnumhigh : (num : ℚ) < 2 ^ (num.log2 + 1) := by exact_mod_cast Nat.lt_log2_self
  have hdenlow : (2 : ℚ) ^ den.log2 ≤ den := by exact_mod_cast Nat.log2_self_le hden.ne'
  have hdenhigh : (den : ℚ) < 2 ^ (den.log2 + 1) := by exact_mod_cast Nat.lt_log2_self
  rw [← Int.zpow_le_iff_le_log one_lt_two hx, ← Int.lt_zpow_iff_log_lt one_lt_two hx,
    Nat.cast_ofNat, le_div_iff₀ hdenq, div_lt_iff₀ hdenq]
  constructor
  · calc (2 : ℚ) ^ ((num.log2 : ℤ) - den.log2 - 1) * den
        ≤ 2 ^ ((num.log2 : ℤ) - den.log2 - 1) * 2 ^ (den.log2 + 1) := by gcongr
      _ = 2 ^ num.log2 := by
        rw [← zpow_natCast, ← zpow_add₀ two_ne_zero, ← zpow_natCast]
        congr 1
        push_cast
        ring
      _ ≤ num := hnumlow
  · calc (num : ℚ) < 2 ^ (num.log2 + 1) := hnumhigh
      _ = 2 ^ ((num.log2 : ℤ) - den.log2 + 1) * 2 ^ den.log2 := by
        rw [← zpow_natCast, ← zpow_natCast, ← zpow_add₀ two_ne_zero]
        congr 1
        push_cast
        ring
      _ ≤ 2 ^ ((num.log2 : ℤ) - den.log2 + 1) * den := by gcongr

/-- **The exponent of a quotient is that of its highest bit**, or the lowest one. -/
theorem exponentOf_eq {num den : ℕ} (hnum : num ≠ 0) (hden : 0 < den) :
    exponentOf num den = max (-1074) (Int.log 2 ((num : ℚ) / den) - 52) := by
  have hdenq : (0 : ℚ) < den := by exact_mod_cast hden
  have hx : (0 : ℚ) < num / den := by positivity
  obtain ⟨hlow, hhigh⟩ := log_div_bounds hnum hden
  have hguess : (num.log2 : ℤ) - den.log2 - 53 + 53 = num.log2 - den.log2 := by ring
  have hreaches : den * Nat.pow 2 ((num.log2 : ℤ) - den.log2).toNat ≤
      num * Nat.pow 2 (-((num.log2 : ℤ) - den.log2)).toNat ↔
        (num.log2 : ℤ) - den.log2 ≤ Int.log 2 ((num : ℚ) / den) := by
    rw [← Int.zpow_le_iff_le_log one_lt_two hx, Nat.cast_ofNat]
    simpa using scaled_le_iff hden 1 ((num.log2 : ℤ) - den.log2)
  unfold exponentOf
  simp only [hguess, hreaches]
  split <;> congr 1 <;> omega

/-! ## Rounding -/

/-- Below an even number is rounded what lies below the middle in front of it. -/
theorem roundHalfEven_lt_iff {a d m : ℕ} (hd : 0 < d) (hm : m % 2 = 0) :
    roundHalfEven a d < m ↔ 2 * a + d < 2 * m * d := by
  have hdiv := Nat.div_add_mod a d
  have hmod := Nat.mod_lt a hd
  rw [roundHalfEven_eq]
  generalize a / d = q at *
  generalize a % d = r at *
  rcases Nat.lt_trichotomy (q + 1) m with hlt | rfl | hgt
  · have hscaled : (q + 2) * d ≤ m * d := Nat.mul_le_mul_right d hlt
    refine iff_of_true (by split <;> omega) ?_
    nlinarith
  · have hodd : q % 2 = 1 := by omega
    have hscaled : 2 * (q + 1) * d = 2 * (d * q) + 2 * d := by ring
    rw [hscaled]
    split <;> omega
  · have hscaled : m * d ≤ q * d := Nat.mul_le_mul_right d (by omega)
    refine iff_of_false (by split <;> omega) ?_
    nlinarith

/-- Rounding moves a quotient by one half at most. -/
theorem roundHalfEven_near {a d : ℕ} (hd : 0 < d) :
    |(roundHalfEven a d : ℚ) - (a : ℚ) / d| ≤ 1 / 2 := by
  have hdq : (0 : ℚ) < d := by exact_mod_cast hd
  have hbounds : 2 * (d * roundHalfEven a d) ≤ 2 * a + d ∧
      2 * a ≤ 2 * (d * roundHalfEven a d) + d := by
    have hdiv := Nat.div_add_mod a d
    have hmod := Nat.mod_lt a hd
    rw [roundHalfEven_eq]
    generalize a / d = q at *
    generalize a % d = r at *
    split <;> rw [Nat.mul_add] <;> omega
  have hlow : (2 * (d * roundHalfEven a d) : ℚ) ≤ 2 * a + d := by exact_mod_cast hbounds.1
  have hhigh : (2 * a : ℚ) ≤ 2 * (d * roundHalfEven a d) + d := by exact_mod_cast hbounds.2
  rw [abs_sub_le_iff, sub_le_iff_le_add, sub_le_iff_le_add]
  constructor
  · rw [← sub_le_iff_le_add', le_div_iff₀ hdq]
    linarith
  · rw [div_le_iff₀ hdq]
    linarith

/-- The significand of a quotient, before it is rounded, has 53 bits at most. -/
theorem div_lt_exponentOf {num den : ℕ} (hnum : num ≠ 0) (hden : 0 < den) :
    (num : ℚ) / den < (2 ^ 53 : ℕ) * 2 ^ exponentOf num den := by
  have hlog : Int.log 2 ((num : ℚ) / den) + 1 ≤ 53 + exponentOf num den := by
    rw [exponentOf_eq hnum hden]
    omega
  calc (num : ℚ) / den < 2 ^ (Int.log 2 ((num : ℚ) / den) + 1) := by
        exact_mod_cast Int.lt_zpow_succ_log_self one_lt_two ((num : ℚ) / den)
    _ ≤ 2 ^ (53 + exponentOf num den) := zpow_le_zpow_right₀ one_le_two hlog
    _ = (2 ^ 53 : ℕ) * 2 ^ exponentOf num den := by
        rw [zpow_add₀ two_ne_zero]
        norm_cast

/-- It has 53 bits, unless the exponent is the lowest one. -/
theorem exponentOf_le_div {num den : ℕ} (hnum : num ≠ 0) (hden : 0 < den)
    (h : -1074 < exponentOf num den) :
    (2 ^ 52 : ℕ) * 2 ^ exponentOf num den ≤ (num : ℚ) / den := by
  have hdenq : (0 : ℚ) < den := by exact_mod_cast hden
  have hx : (0 : ℚ) < num / den := by positivity
  have hlog : 52 + exponentOf num den = Int.log 2 ((num : ℚ) / den) := by
    rw [exponentOf_eq hnum hden] at h ⊢
    omega
  calc (2 ^ 52 : ℕ) * (2 : ℚ) ^ exponentOf num den = 2 ^ (52 + exponentOf num den) := by
        rw [zpow_add₀ two_ne_zero]
        norm_cast
    _ ≤ (num : ℚ) / den := by
        rw [hlog]
        exact_mod_cast Int.zpow_log_le_self one_lt_two hx

/-- The rounded significand of a quotient. -/
def significandOf (num den : ℕ) : ℕ :=
  roundHalfEven (num * Nat.pow 2 (-exponentOf num den).toNat)
    (den * Nat.pow 2 (exponentOf num den).toNat)

theorem nearest_eq {num : ℕ} (hnum : num ≠ 0) (den : ℕ) :
    nearest num den = (exponentOf num den + 1074).toNat * 2 ^ 52 + significandOf num den :=
  if_neg hnum

theorem significandOf_le {num den : ℕ} (hnum : num ≠ 0) (hden : 0 < den) :
    significandOf num den ≤ 2 ^ 53 := by
  have hpos : 0 < den * Nat.pow 2 (exponentOf num den).toNat :=
    Nat.mul_pos hden (Nat.pow_pos two_pos)
  have hscaled := mt (scaled_le_iff hden (2 ^ 53) (exponentOf num den)).mp
    (not_le.mpr (div_lt_exponentOf hnum hden))
  have hquotient := (Nat.div_lt_iff_lt_mul hpos).mpr (not_le.mp hscaled)
  exact (roundHalfEven_le _ _).trans hquotient

theorem le_significandOf {num den : ℕ} (hnum : num ≠ 0) (hden : 0 < den)
    (h : -1074 < exponentOf num den) : 2 ^ 52 ≤ significandOf num den := by
  have hpos : 0 < den * Nat.pow 2 (exponentOf num den).toNat :=
    Nat.mul_pos hden (Nat.pow_pos two_pos)
  have hscaled := (scaled_le_iff hden (2 ^ 52) (exponentOf num den)).mpr
    (exponentOf_le_div hnum hden h)
  exact ((Nat.le_div_iff_mul_le hpos).mpr hscaled).trans (div_le_roundHalfEven _ _)

/-- A significand is rounded to less than an even number exactly if the quotient lies below the
middle in front of that number. -/
theorem significandOf_lt_iff {num den m : ℕ} (hden : 0 < den) (hm : m % 2 = 0) :
    significandOf num den < m ↔
      (num : ℚ) / den < (2 * m - 1) * 2 ^ (exponentOf num den - 1) := by
  unfold significandOf
  generalize exponentOf num den = q
  have hpos : 0 < den * Nat.pow 2 q.toNat := Nat.mul_pos hden (Nat.pow_pos two_pos)
  have hposq : (0 : ℚ) < (den * Nat.pow 2 q.toNat : ℕ) := by exact_mod_cast hpos
  have hhalf : (2 * (m : ℚ) - 1) * 2 ^ (q - 1) = (m - 1 / 2) * 2 ^ q := by
    rw [zpow_sub_one₀ two_ne_zero]
    ring
  rw [roundHalfEven_lt_iff hpos hm, hhalf, ← div_lt_iff₀ (zpow_pos two_pos q), ← scaled_div,
    div_lt_iff₀ hposq]
  generalize num * Nat.pow 2 (-q).toNat = a
  generalize den * Nat.pow 2 q.toNat = d
  have hcast : 2 * a + d < 2 * m * d ↔ (2 * a + d : ℚ) < 2 * m * d := by
    exact_mod_cast Iff.rfl
  rw [hcast]
  constructor <;> intro h <;> linarith

/-- A rounded significand stands within half a unit of its quotient. -/
theorem significandOf_near {num den : ℕ} (hden : 0 < den) :
    |(significandOf num den : ℚ) * 2 ^ exponentOf num den - (num : ℚ) / den| ≤
      2 ^ exponentOf num den / 2 := by
  have hpos : 0 < den * Nat.pow 2 (exponentOf num den).toNat :=
    Nat.mul_pos hden (Nat.pow_pos two_pos)
  have hunit : (0 : ℚ) < 2 ^ exponentOf num den := zpow_pos two_pos _
  have hnear :
      |(significandOf num den : ℚ) - (num : ℚ) / den / 2 ^ exponentOf num den| ≤ 1 / 2 := by
    rw [← scaled_div]
    exact roundHalfEven_near hpos
  calc |(significandOf num den : ℚ) * 2 ^ exponentOf num den - (num : ℚ) / den|
      = |(significandOf num den : ℚ) - (num : ℚ) / den / 2 ^ exponentOf num den| *
          2 ^ exponentOf num den := by
        rw [← abs_of_pos hunit, ← abs_mul, abs_of_pos hunit, sub_mul, div_mul_cancel₀ _ hunit.ne']
    _ ≤ 1 / 2 * 2 ^ exponentOf num den := by gcongr
    _ = 2 ^ exponentOf num den / 2 := by ring

/-! ## Absolute values -/

/-- The absolute value of a finite number. -/
def absolute (x : Binary64) : ℚ := x.numerator / x.denominator

theorem absolute_eq (x : Binary64) : x.absolute = x.significand * 2 ^ x.exponent := by
  rw [absolute, numerator, denominator, zpow_eq_div, Nat.pow_eq, Nat.pow_eq]
  push_cast
  ring

/-- **The magnitude of a significand and an exponent stands for their product.**  A significand of
54 bits carries into the exponent. -/
theorem absolute_of_magnitude {x : Binary64} {c : ℕ} {q : ℤ} (hq : -1074 ≤ q) (hc : c ≤ 2 ^ 53)
    (hlow : -1074 < q → 2 ^ 52 ≤ c) (hx : x.magnitude = (q + 1074).toNat * 2 ^ 52 + c) :
    x.absolute = c * 2 ^ q := by
  have hpow : Nat.pow 2 52 = 2 ^ 52 := rfl
  rw [absolute_eq, significand, exponent, hx, hpow]
  by_cases hsmall : c < 2 ^ 52
  · obtain rfl : q = -1074 := by
      by_contra hne
      have hbits := hlow (by omega)
      omega
    have hmagnitude : (-1074 + 1074 : ℤ).toNat * 2 ^ 52 + c = c := by omega
    rw [hmagnitude, if_pos hsmall, if_pos hsmall]
  have hlarge : ¬ (q + 1074).toNat * 2 ^ 52 + c < 2 ^ 52 := by omega
  rw [if_neg hlarge, if_neg hlarge]
  by_cases hcarry : c = 2 ^ 53
  · subst hcarry
    have hmod : ((q + 1074).toNat * 2 ^ 52 + 2 ^ 53) % 2 ^ 52 = 0 := by omega
    have hdiv : ((((q + 1074).toNat * 2 ^ 52 + 2 ^ 53) / 2 ^ 52 : ℕ) : ℤ) - 1075 = q + 1 := by
      omega
    rw [hmod, hdiv, zpow_add_one₀ two_ne_zero]
    push_cast
    ring
  · have hmod : 2 ^ 52 + ((q + 1074).toNat * 2 ^ 52 + c) % 2 ^ 52 = c := by omega
    have hdiv : ((((q + 1074).toNat * 2 ^ 52 + c) / 2 ^ 52 : ℕ) : ℤ) - 1075 = q := by omega
    rw [hmod, hdiv]

/-! ## The edge of overflow -/

theorem overflow_eq : overflow = (2 * (2 ^ 53 : ℕ) - 1) * 2 ^ ((971 : ℤ) - 1) := by
  have hpow : (2 : ℚ) ^ ((971 : ℤ) - 1) = 2 ^ 970 := zpow_natCast 2 970
  have hodd : (2 : ℚ) * (2 ^ 53 : ℕ) - 1 = 2 ^ 54 - 1 := by norm_num
  rw [hpow, hodd, overflow]

theorem scaled_zpow_le {c : ℕ} {p q : ℤ} (h : p ≤ q) : (c : ℚ) * 2 ^ p ≤ c * 2 ^ q :=
  mul_le_mul_of_nonneg_left (zpow_le_zpow_right₀ one_le_two h) c.cast_nonneg

/-- The edge lies between the exponents on either side of that of the largest finite number. -/
theorem overflow_bounds : (2 ^ 53 : ℕ) * 2 ^ (970 : ℤ) ≤ overflow ∧
    overflow ≤ (2 ^ 52 : ℕ) * 2 ^ (972 : ℤ) := by
  have hpow : (0 : ℚ) ≤ 2 ^ (970 : ℤ) := (zpow_pos two_pos 970).le
  have hsplit : (2 : ℚ) ^ (972 : ℤ) = 2 ^ (970 : ℤ) * 4 := by
    rw [show (972 : ℤ) = 970 + 2 from rfl, zpow_add₀ two_ne_zero]
    norm_num only
  rw [overflow_eq, hsplit, show (971 : ℤ) - 1 = 970 from rfl]
  generalize (2 : ℚ) ^ (970 : ℤ) = p at *
  constructor <;> norm_num <;> linarith only [hpow]

/-- **A quotient is rounded to a finite magnitude exactly if it lies below the edge.** -/
theorem nearest_lt_infinite_iff {num den : ℕ} (hden : 0 < den) :
    nearest num den < infinite ↔ (num : ℚ) / den < overflow := by
  have hinfinite : infinite = 2047 * 2 ^ 52 := rfl
  obtain ⟨hlow, hhigh⟩ := overflow_bounds
  by_cases hnum : num = 0
  · subst hnum
    have hpow : (0 : ℚ) < (2 ^ 53 : ℕ) * 2 ^ (970 : ℤ) :=
      mul_pos (by norm_num) (zpow_pos two_pos 970)
    refine iff_of_true (by rw [nearest, if_pos rfl]; decide) ?_
    rw [Nat.cast_zero, zero_div]
    exact hpow.trans_le hlow
  rw [nearest_eq hnum, hinfinite]
  have hle := significandOf_le hnum hden
  -- Only the exponent of the largest finite number leaves it to the significand.
  rcases lt_trichotomy (exponentOf num den) 971 with hlt | heq | hgt
  · refine iff_of_true (by omega) ?_
    calc (num : ℚ) / den < (2 ^ 53 : ℕ) * 2 ^ exponentOf num den := div_lt_exponentOf hnum hden
      _ ≤ (2 ^ 53 : ℕ) * 2 ^ (970 : ℤ) := scaled_zpow_le (by omega)
      _ ≤ overflow := hlow
  · have hedge := @significandOf_lt_iff num den (2 ^ 53) hden rfl
    rw [heq, ← overflow_eq] at hedge
    rw [← hedge, heq]
    omega
  · have hge := le_significandOf hnum hden (by omega)
    refine iff_of_false (by omega) (not_lt.mpr ?_)
    calc overflow ≤ (2 ^ 52 : ℕ) * 2 ^ (972 : ℤ) := hhigh
      _ ≤ (2 ^ 52 : ℕ) * 2 ^ exponentOf num den := scaled_zpow_le (by omega)
      _ ≤ (num : ℚ) / den := exponentOf_le_div hnum hden (by omega)

/-! ## Rounded numbers -/

/-- Half a unit of the last of 53 bits, or of the last bit there is. -/
def roundingError (v : ℚ) : ℚ := max (v / 2 ^ 53) (2 ^ (-1075 : ℤ))

/-- **The numbers that a value may be rounded to.**  Below the edge it is a finite number as near to
the value as 53 bits allow, and from the edge on it is infinity. -/
structure Rounds (negative : Bool) (v : ℚ) (x : Binary64) : Prop where
  sign : x.negative = negative
  finite : v < overflow → x.isFinite = true ∧ |x.absolute - v| ≤ roundingError v
  infinite : overflow ≤ v → x = infinity negative

theorem Rounds.isFinite_iff {negative : Bool} {v : ℚ} {x : Binary64} (h : Rounds negative v x) :
    x.isFinite = true ↔ v < overflow := by
  refine ⟨fun hfinite => ?_, fun hlt => (h.finite hlt).1⟩
  by_contra hle
  rw [h.infinite (not_lt.mp hle)] at hfinite
  cases negative <;> cases hfinite

theorem Rounds.isNaN_eq_false {negative : Bool} {v : ℚ} {x : Binary64} (h : Rounds negative v x) :
    x.isNaN = false := by
  rcases lt_or_ge v overflow with hlt | hle
  · have hfinite : x.magnitude < Binary64.infinite := of_decide_eq_true (h.finite hlt).1
    exact decide_eq_false hfinite.not_gt
  · rw [h.infinite hle]
    cases negative <;> rfl

theorem one_le_overflow : 1 ≤ overflow := by
  calc (1 : ℚ) ≤ (2 ^ 53 : ℕ) * 2 ^ (0 : ℤ) := by norm_num
    _ ≤ (2 ^ 53 : ℕ) * 2 ^ (970 : ℤ) := scaled_zpow_le (by decide)
    _ ≤ overflow := overflow_bounds.1

/-- A value below the smallest unit is rounded to zero. -/
theorem rounds_zero (negative : Bool) {v : ℚ} (hpos : 0 ≤ v) (hle : v ≤ 2 ^ (-1075 : ℤ)) :
    Rounds negative v (zero negative) := by
  have habsolute : (zero negative).absolute = (0 : ℕ) * 2 ^ (-1074 : ℤ) :=
    absolute_of_magnitude le_rfl (Nat.zero_le _) (absurd · (lt_irrefl _)) rfl
  have hone : v < 1 := hle.trans_lt (zpow_lt_one_of_neg₀ one_lt_two (by decide))
  refine ⟨rfl, fun _ => ⟨by cases negative <;> decide, ?_⟩, fun h => ?_⟩
  · rw [habsolute, Nat.cast_zero, zero_mul, zero_sub, abs_neg, abs_of_nonneg hpos]
    exact hle.trans (le_max_right _ _)
  · exact absurd (one_le_overflow.trans h) (not_le.mpr hone)

theorem half_unit_le {num den : ℕ} (hnum : num ≠ 0) (hden : 0 < den) :
    2 ^ exponentOf num den / 2 ≤ roundingError ((num : ℚ) / den) := by
  by_cases hlowest : -1074 < exponentOf num den
  · have hbits := exponentOf_le_div hnum hden hlowest
    push_cast at hbits
    exact le_max_of_le_left (by linarith)
  · have hexponent : exponentOf num den = -1075 + 1 := by
      have hle : -1074 ≤ exponentOf num den := le_max_left _ _
      omega
    rw [hexponent, zpow_add_one₀ two_ne_zero, mul_div_cancel_right₀ _ two_ne_zero]
    exact le_max_right _ _

/-- **A quotient is rounded to the number nearest to it.** -/
theorem rounds_ofRatio (negative : Bool) (num : ℕ) {den : ℕ} (hden : 0 < den) :
    Rounds negative ((num : ℚ) / den) (ofRatio negative num den) := by
  by_cases hnum : num = 0
  · rw [hnum, Nat.cast_zero, zero_div]
    exact rounds_zero negative le_rfl (zpow_pos two_pos _).le
  refine ⟨rfl, fun h => ?_, fun h => ?_⟩
  · have hlt := (nearest_lt_infinite_iff hden).mpr h
    have hmagnitude : (ofRatio negative num den).magnitude = nearest num den :=
      Nat.min_eq_left hlt.le
    refine ⟨decide_eq_true (hmagnitude ▸ hlt), ?_⟩
    rw [nearest_eq hnum] at hmagnitude
    rw [absolute_of_magnitude (le_max_left _ _) (significandOf_le hnum hden)
      (le_significandOf hnum hden) hmagnitude]
    exact (significandOf_near hden).trans (half_unit_le hnum hden)
  · have hle := not_lt.mp (mt (nearest_lt_infinite_iff hden).mp (not_lt.mpr h))
    simp only [ofRatio, infinity, ofMagnitude, Nat.min_eq_right hle, Nat.min_self]

/-! ## Decimals -/

theorem decimal_length_bounds {n : ℕ} (h : n ≠ 0) :
    10 ^ ((decimal n).length - 1) ≤ n ∧ n < 10 ^ (decimal n).length := by
  have hiff {k : ℕ} (hk : 0 < k) : (decimal n).length ≤ k ↔ n < 10 ^ k :=
    Nat.length_toDigits_le_iff (by decide) hk
  have hpos : 0 < (decimal n).length := Nat.length_toDigits_pos
  refine ⟨?_, (hiff hpos).mp le_rfl⟩
  by_cases hone : (decimal n).length = 1
  · rw [hone]
    exact Nat.pos_of_ne_zero h
  · have hnot := mt (hiff (k := (decimal n).length - 1) (by omega)).mpr (by omega)
    omega

/-- A decimal stands between the powers of ten that its digits and its exponent give. -/
theorem decimal_bounds {digits : ℕ} (h : digits ≠ 0) (exponent : ℤ) :
    (10 : ℚ) ^ ((decimal digits).length + exponent - 1) ≤ digits * 10 ^ exponent ∧
      (digits : ℚ) * 10 ^ exponent < 10 ^ ((decimal digits).length + exponent) := by
  obtain ⟨hlow, hhigh⟩ := decimal_length_bounds h
  have hlength : 0 < (decimal digits).length := Nat.length_toDigits_pos
  have hpow : (0 : ℚ) < 10 ^ exponent := zpow_pos (by norm_num) _
  constructor
  · calc (10 : ℚ) ^ ((decimal digits).length + exponent - 1)
        = (10 ^ ((decimal digits).length - 1) : ℕ) * 10 ^ exponent := by
          rw [Nat.cast_pow, ← zpow_natCast, Nat.cast_ofNat, ← zpow_add₀ (by norm_num)]
          congr 1
          omega
      _ ≤ digits * 10 ^ exponent := by gcongr
  · calc (digits : ℚ) * 10 ^ exponent < (10 ^ (decimal digits).length : ℕ) * 10 ^ exponent := by
          gcongr
      _ = 10 ^ ((decimal digits).length + exponent) := by
          rw [Nat.cast_pow, ← zpow_natCast, Nat.cast_ofNat, ← zpow_add₀ (by norm_num)]

theorem two_zpow_le_ten_zpow (n : ℕ) : (2 : ℚ) ^ (3 * n : ℤ) ≤ 10 ^ (n : ℤ) := by
  rw [zpow_mul, zpow_natCast, zpow_natCast]
  exact pow_le_pow_left₀ (by norm_num) (by norm_num) n

/-- The powers of ten at which decimals are answered at once lie far outside the range. -/
theorem ten_zpow_bounds : (10 : ℚ) ^ (-400 : ℤ) ≤ 2 ^ (-1075 : ℤ) ∧ overflow ≤ 10 ^ (400 : ℤ) := by
  have hpow := two_zpow_le_ten_zpow 400
  constructor
  · calc (10 : ℚ) ^ (-400 : ℤ) = (10 ^ ((400 : ℕ) : ℤ))⁻¹ := zpow_neg _ _
      _ ≤ (2 ^ (3 * (400 : ℕ) : ℤ))⁻¹ := inv_anti₀ (zpow_pos two_pos _) hpow
      _ = 2 ^ (-(3 * (400 : ℕ)) : ℤ) := (zpow_neg _ _).symm
      _ ≤ 2 ^ (-1075 : ℤ) := zpow_le_zpow_right₀ one_le_two (by decide)
  · calc overflow ≤ (2 ^ 52 : ℕ) * 2 ^ (972 : ℤ) := overflow_bounds.2
      _ = 2 ^ (52 + 972 : ℤ) := by
        rw [zpow_add₀ two_ne_zero, Nat.cast_pow]
        rfl
      _ ≤ 2 ^ (3 * (400 : ℕ) : ℤ) := zpow_le_zpow_right₀ one_le_two (by decide)
      _ ≤ 10 ^ (400 : ℤ) := hpow

/-- **A decimal is rounded to the number that it is read as.** -/
theorem rounds_ofDecimal (negative : Bool) (digits : ℕ) (exponent : ℤ) :
    Rounds negative (digits * 10 ^ exponent) (ofDecimal negative digits exponent) := by
  have hmono {p q : ℤ} (h : p ≤ q) : (10 : ℚ) ^ p ≤ 10 ^ q := zpow_le_zpow_right₀ (by norm_num) h
  unfold ofDecimal
  dsimp only
  split
  · rename_i hsmall
    refine rounds_zero negative (mul_nonneg digits.cast_nonneg (zpow_pos (by norm_num) _).le) ?_
    by_cases hzero : digits = 0
    · rw [hzero, Nat.cast_zero, zero_mul]
      exact (zpow_pos two_pos _).le
    · have htop := hsmall.resolve_left hzero
      exact ((decimal_bounds hzero exponent).2.le.trans (hmono htop.le)).trans ten_zpow_bounds.1
  rename_i hsmall
  obtain ⟨hzero, -⟩ := not_or.mp hsmall
  split
  · rename_i hlarge
    have hover : overflow ≤ digits * 10 ^ exponent :=
      (ten_zpow_bounds.2.trans (hmono (by omega))).trans (decimal_bounds hzero exponent).1
    exact ⟨rfl, fun h => absurd h (not_lt.mpr hover), fun _ => rfl⟩
  · have hquotient : (digits : ℚ) * 10 ^ exponent =
        (digits * Nat.pow 10 exponent.toNat : ℕ) / (Nat.pow 10 (-exponent).toNat : ℕ) := by
      rw [zpow_eq_div, Nat.pow_eq, Nat.pow_eq]
      push_cast
      ring
    rw [hquotient]
    exact rounds_ofRatio negative _ (Nat.pow_pos (by decide))

end TableQuery.Number.Binary64
