import TableQuery.Number.Binary64

/-!
# Proofs/Number/Rounding — rounding keeps the order of whole numbers

A positive whole number is rounded to 53 bits.  Those whose highest bit is the same share an
exponent, and among them rounding to the nearest significand keeps the order; a significand that is
rounded up to the next power of two is the lowest one of the next exponent, so the order is kept
between exponents as well (`nearest_mono`).  Two numbers may become one, but they never change
places (`key_ofInt_mono`).
-/

namespace TableQuery.Number.Binary64

/-! ## Significands -/

/-- A quotient is rounded up past a half, and at a half if it is odd. -/
theorem roundHalfEven_eq (a d : Nat) : roundHalfEven a d
    = a / d + if d < 2 * (a % d) ∨ 2 * (a % d) = d ∧ a / d % 2 = 1 then 1 else 0 := by
  unfold roundHalfEven
  dsimp only
  split
  · rw [if_neg (by omega), Nat.add_zero]
  split
  · rw [if_pos (by omega)]
  split
  · rw [if_neg (by omega), Nat.add_zero]
  · rw [if_pos (by omega)]

theorem div_le_roundHalfEven (a d : Nat) : a / d ≤ roundHalfEven a d := by
  rw [roundHalfEven_eq]
  exact Nat.le_add_right _ _

theorem roundHalfEven_le (a d : Nat) : roundHalfEven a d ≤ a / d + 1 := by
  rw [roundHalfEven_eq]
  split <;> omega

/-- **Rounding quotients keeps their order.** -/
theorem roundHalfEven_mono {a b : Nat} (h : a ≤ b) (d : Nat) :
    roundHalfEven a d ≤ roundHalfEven b d := by
  rcases Nat.lt_or_eq_of_le (Nat.div_le_div_right (c := d) h) with hlt | heq
  · calc roundHalfEven a d ≤ a / d + 1 := roundHalfEven_le a d
      _ ≤ b / d := hlt
      _ ≤ roundHalfEven b d := div_le_roundHalfEven b d
  · -- One quotient: the larger number has the larger remainder.
    have hmod : a % d ≤ b % d := by
      have ha := Nat.div_add_mod a d
      have hb := Nat.div_add_mod b d
      rw [heq] at ha
      omega
    rw [roundHalfEven_eq, roundHalfEven_eq, heq]
    split
    · exact Nat.le_of_eq (by rw [if_pos (by omega)])
    · exact Nat.le_add_right _ _

/-! ## Exponents -/

/-- A whole number has the exponent of its highest bit. -/
theorem exponentOf_one {n : Nat} (h : n ≠ 0) : exponentOf n 1 = (n.log2 : Int) - 52 := by
  have hlog : Nat.log2 1 = 0 := by decide
  have hguess : (n.log2 : Int) - (0 : Nat) - 53 + 53 = n.log2 := by omega
  have hreaches : 1 * Nat.pow 2 n.log2 ≤ n * Nat.pow 2 (-(n.log2 : Int)).toNat := by
    have hself : Nat.pow 2 n.log2 ≤ n := Nat.log2_self_le h
    have hzero : (-(n.log2 : Int)).toNat = 0 := by omega
    rw [hzero, Nat.one_mul]
    exact Nat.le_trans hself (Nat.le_mul_of_pos_right n Nat.one_pos)
  unfold exponentOf
  simp only [hlog, hguess, Int.toNat_natCast, hreaches, if_true]
  omega

/-- The magnitude of a positive whole number: its exponent and its significand. -/
theorem nearest_one {n : Nat} (h : n ≠ 0) :
    nearest n 1 = (n.log2 + 1022) * Nat.pow 2 52 +
      roundHalfEven (n * Nat.pow 2 (52 - n.log2)) (Nat.pow 2 (n.log2 - 52)) := by
  have hexponent : ((n.log2 : Int) - 52 + 1074).toNat = n.log2 + 1022 := by omega
  have hscale : (-((n.log2 : Int) - 52)).toNat = 52 - n.log2 := by omega
  have hshrink : ((n.log2 : Int) - 52).toNat = n.log2 - 52 := by omega
  unfold nearest
  dsimp only
  rw [if_neg h, exponentOf_one h, hexponent, hscale, hshrink, Nat.one_mul]

/-- The significand of a whole number, before it is rounded, has 53 bits. -/
theorem significand_bounds {n : Nat} (h : n ≠ 0) :
    Nat.pow 2 52 ≤ n * Nat.pow 2 (52 - n.log2) / Nat.pow 2 (n.log2 - 52) ∧
      n * Nat.pow 2 (52 - n.log2) / Nat.pow 2 (n.log2 - 52) < 2 * Nat.pow 2 52 := by
  have hlow : 2 ^ n.log2 ≤ n := Nat.log2_self_le h
  have hhigh : n < 2 * 2 ^ n.log2 := by
    rw [Nat.mul_comm, ← Nat.pow_succ]
    exact Nat.lt_log2_self
  have hpos : 0 < Nat.pow 2 (n.log2 - 52) := Nat.pow_pos (by decide)
  rw [Nat.le_div_iff_mul_le hpos, Nat.div_lt_iff_lt_mul hpos]
  simp only [Nat.pow_eq]
  rcases Nat.le_total n.log2 52 with hle | hle
  · have hscale : 2 ^ n.log2 * 2 ^ (52 - n.log2) = 2 ^ 52 := by
      rw [← Nat.pow_add, Nat.add_sub_cancel' hle]
    have hone : n.log2 - 52 = 0 := by omega
    rw [hone, Nat.pow_zero, Nat.mul_one, Nat.mul_one, ← hscale, ← Nat.mul_assoc]
    exact ⟨Nat.mul_le_mul_right _ hlow, Nat.mul_lt_mul_of_pos_right hhigh (Nat.pow_pos (by decide))⟩
  · have hscale : 2 ^ 52 * 2 ^ (n.log2 - 52) = 2 ^ n.log2 := by
      rw [← Nat.pow_add, Nat.add_sub_cancel' hle]
    have hone : 52 - n.log2 = 0 := by omega
    rw [hone, Nat.pow_zero, Nat.mul_one, Nat.mul_assoc, hscale]
    exact ⟨hlow, hhigh⟩

/-- **Rounding positive whole numbers keeps their order.** -/
theorem nearest_mono {m n : Nat} (h : m ≤ n) : nearest m 1 ≤ nearest n 1 := by
  by_cases hm : m = 0
  · rw [hm]
    exact Nat.zero_le _
  have hn : n ≠ 0 := by omega
  rw [nearest_one hm, nearest_one hn]
  have hlog : m.log2 ≤ n.log2 := by
    rw [Nat.le_log2 hn]
    exact Nat.le_trans (Nat.log2_self_le hm) h
  rcases Nat.lt_or_eq_of_le hlog with hlt | heq
  · -- The highest significand of one exponent is the lowest one of the next.
    have hbelow := Nat.le_trans (roundHalfEven_le _ _) (significand_bounds hm).2
    have habove := Nat.le_trans (significand_bounds hn).1 (div_le_roundHalfEven _ _)
    have hstep : (m.log2 + 1 + 1022) * Nat.pow 2 52 ≤ (n.log2 + 1022) * Nat.pow 2 52 :=
      Nat.mul_le_mul_right _ (by omega)
    rw [Nat.add_right_comm, Nat.add_one_mul] at hstep
    omega
  · rw [heq]
    exact Nat.add_le_add_left (roundHalfEven_mono (Nat.mul_le_mul_right _ h) _) _

/-! ## Keys -/

theorem isNaN_ofInt (n : Int) : (ofInt n).isNaN = false := by
  have hmin : min (nearest n.natAbs 1) infinite ≤ infinite := Nat.min_le_right _ _
  exact decide_eq_false (Nat.not_lt.mpr hmin)

/-- **Rounding never makes two whole numbers change places.** -/
theorem key_ofInt_mono {m n : Int} (h : m ≤ n) : (ofInt m).key ≤ (ofInt n).key := by
  have hmagnitude {a b : Nat} (hab : a ≤ b) :
      min (nearest a 1) infinite ≤ min (nearest b 1) infinite := by
    have hnearest := nearest_mono hab
    omega
  simp only [key, ofInt, ofRatio, ofMagnitude, decide_eq_true_eq]
  split <;> split
  · have hle := @hmagnitude n.natAbs m.natAbs (by omega)
    omega
  · omega
  · omega
  · have hle := @hmagnitude m.natAbs n.natAbs (by omega)
    omega

end TableQuery.Number.Binary64
