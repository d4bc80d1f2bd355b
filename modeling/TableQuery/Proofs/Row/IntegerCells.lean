import TableQuery.Proofs.Row.Ranking
import TableQuery.Row.Cell

/-!
# Proofs/Row/IntegerCells — whole numbers compared with whole numbers

A cell may hold a whole number of 64 bits without a sign.  Those from the **edge** on, 2^63, do not
fit with a sign and compare as floating point numbers, which are 2048 apart there and 1024 apart
just below the edge.  Whole numbers that are rounded to one floating point number are **merged**:
they are taken for equal.  All others compare exactly, since rounding keeps the order.
-/

namespace TableQuery.Number

/-- The first whole number that does not fit into 64 bits with a sign. -/
def edge : Nat := 9223372036854775808

theorem le_maxSigned_iff {n : Int} : n ≤ maxSigned ↔ n < edge := by
  have hedge : edge = maxSigned + 1 := by decide
  omega

namespace Binary64

/-! ## Rounding around the edge

Rounding is monotone, so the numbers that are rounded to the edge are found by rounding on either
side of the first and of the last of them. -/

/-- From 512 below the edge to 1024 above, the multiple of 2048 is the edge itself. -/
theorem roundHalfEven_eq_edge_iff {n : Nat} (h : edge - 512 ≤ n) :
    roundHalfEven n 2048 = Nat.pow 2 52 ↔ n ≤ edge + 1024 := by
  constructor
  · intro heq
    refine Nat.le_of_not_lt fun hn => ?_
    have hbeyond : Nat.pow 2 52 + 1 ≤ roundHalfEven n 2048 :=
      calc Nat.pow 2 52 + 1 = roundHalfEven (edge + 1025) 2048 := by decide +kernel
        _ ≤ roundHalfEven n 2048 := roundHalfEven_mono hn 2048
    omega
  · intro hn
    refine Nat.le_antisymm ?_ ?_
    · calc roundHalfEven n 2048 ≤ roundHalfEven (edge + 1024) 2048 := roundHalfEven_mono hn 2048
        _ = Nat.pow 2 52 := by decide +kernel
    · calc Nat.pow 2 52 = roundHalfEven (edge - 512) 2048 := by decide +kernel
        _ ≤ roundHalfEven n 2048 := roundHalfEven_mono h 2048

/-- **From 512 below the edge on, whole numbers are rounded to multiples of 2048.** -/
theorem nearest_around_edge {n : Nat} (h : edge - 512 ≤ n) (hmax : n ≤ maxUnsigned) :
    nearest n 1 = 1085 * Nat.pow 2 52 + roundHalfEven n 2048 := by
  rcases Nat.lt_or_ge n edge with hlt | hge
  · rw [(roundHalfEven_eq_edge_iff h).mpr (Nat.le_add_right_of_le (Nat.le_of_lt hlt))]
    refine Nat.le_antisymm ?_ ?_
    · calc nearest n 1 ≤ nearest edge 1 := nearest_mono (Nat.le_of_lt hlt)
        _ = 1085 * Nat.pow 2 52 + Nat.pow 2 52 := by decide +kernel
    · calc 1085 * Nat.pow 2 52 + Nat.pow 2 52 = nearest (edge - 512) 1 := by decide +kernel
        _ ≤ nearest n 1 := nearest_mono h
  · have hne : n ≠ 0 := Nat.ne_of_gt (Nat.lt_of_lt_of_le (by decide) hge)
    have hlog : n.log2 = 63 := (Nat.log2_eq_iff hne).mpr ⟨hge, Nat.lt_succ_of_le hmax⟩
    rw [nearest_one hne, hlog]
    change _ + roundHalfEven (n * 1) 2048 = _
    rw [Nat.mul_one]

/-- The key of a whole number that is not negative is its magnitude. -/
theorem key_ofInt_of_nonneg {n : Int} (h : 0 ≤ n) (hmax : n ≤ maxUnsigned) :
    (ofInt n).key = nearest n.toNat 1 := by
  have hfinite : nearest n.toNat 1 ≤ infinite := by
    have hmono : nearest n.toNat 1 ≤ nearest maxUnsigned 1 := nearest_mono (by omega)
    exact Nat.le_trans hmono (by decide +kernel)
  have hnegative : ¬ n < 0 := by omega
  have habs : n.natAbs = n.toNat := by omega
  simp [key, ofInt, ofRatio, ofMagnitude, hnegative, habs, Nat.min_eq_left hfinite]

/-- **Two whole numbers are merged**: one of them does not fit into 64 bits with a sign, and both
are rounded to one multiple of 2048.  Below the edge only the last 512 numbers are rounded up to
it. -/
def Merged (c d : Int) : Prop :=
  ((edge : Int) ≤ c ∨ (edge : Int) ≤ d) ∧ (edge : Int) - 512 ≤ c ∧ (edge : Int) - 512 ≤ d ∧
    roundHalfEven c.toNat 2048 = roundHalfEven d.toNat 2048

instance (c d : Int) : Decidable (Merged c d) :=
  inferInstanceAs (Decidable (((edge : Int) ≤ c ∨ (edge : Int) ≤ d) ∧ (edge : Int) - 512 ≤ c ∧
    (edge : Int) - 512 ≤ d ∧ roundHalfEven c.toNat 2048 = roundHalfEven d.toNat 2048))

variable {c d : Int}

theorem key_ofInt_lt_of_lt_edge (hc : (edge : Int) ≤ c) (hd : d < (edge : Int) - 512) :
    (ofInt d).key < (ofInt c).key := by
  calc (ofInt d).key ≤ (ofInt ((edge : Int) - 513)).key := key_ofInt_mono (by omega)
    _ < (ofInt edge).key := by decide +kernel
    _ ≤ (ofInt c).key := key_ofInt_mono hc

/-- **Merged are the whole numbers that share a key**, if one of them does not fit with a sign. -/
theorem key_ofInt_eq_iff_merged (h : (edge : Int) ≤ c ∨ (edge : Int) ≤ d) (hc : c ≤ maxUnsigned)
    (hd : d ≤ maxUnsigned) : (ofInt c).key = (ofInt d).key ↔ Merged c d := by
  by_cases hclose : (edge : Int) - 512 ≤ c ∧ (edge : Int) - 512 ≤ d
  · obtain ⟨hc', hd'⟩ := hclose
    have hpos : 512 ≤ edge := by decide
    have hkey {n : Int} (hn : (edge : Int) - 512 ≤ n) (hmax : n ≤ maxUnsigned) :
        (ofInt n).key = (1085 * Nat.pow 2 52 + roundHalfEven n.toNat 2048 : Nat) := by
      rw [key_ofInt_of_nonneg (by omega) hmax,
        nearest_around_edge (n := n.toNat) (by omega) (by omega)]
    rw [hkey hc' hc, hkey hd' hd, Int.ofNat_inj, Nat.add_left_cancel_iff]
    exact ⟨fun heq => ⟨h, hc', hd', heq⟩, fun hmerged => hmerged.2.2.2⟩
  · refine iff_of_false (fun heq => ?_) fun hmerged => hclose ⟨hmerged.2.1, hmerged.2.2.1⟩
    rcases h with h | h
    · have hlt := key_ofInt_lt_of_lt_edge h (d := d) (by omega)
      omega
    · have hlt := key_ofInt_lt_of_lt_edge h (d := c) (by omega)
      omega

/-- **Keys compare as the whole numbers do, unless these are merged.** -/
theorem compare_key_ofInt (h : (edge : Int) ≤ c ∨ (edge : Int) ≤ d) (hc : c ≤ maxUnsigned)
    (hd : d ≤ maxUnsigned) :
    compare (ofInt c).key (ofInt d).key = if Merged c d then .eq else compare c d := by
  split <;> rename_i hmerged
  · exact Int.compare_eq_eq.mpr ((key_ofInt_eq_iff_merged h hc hd).mpr hmerged)
  have hne : (ofInt c).key ≠ (ofInt d).key := mt (key_ofInt_eq_iff_merged h hc hd).mp hmerged
  rcases Int.lt_trichotomy c d with hlt | rfl | hgt
  · have hle := key_ofInt_mono (Int.le_of_lt hlt)
    rw [Int.compare_eq_lt.mpr hlt, Int.compare_eq_lt]
    omega
  · exact absurd rfl hne
  · have hle := key_ofInt_mono (Int.le_of_lt hgt)
    rw [Int.compare_eq_gt.mpr hgt, Int.compare_eq_gt]
    omega

/-- A number that fits with a sign is merged with the numbers that are rounded down to the edge, if
it is rounded up to the edge itself. -/
theorem merged_iff_of_lt_edge {n : Int} (hn : n < edge) : Merged c n ↔
    (edge : Int) ≤ c ∧ c ≤ (edge : Int) + 1024 ∧ (edge : Int) - 512 ≤ n := by
  have hbelow (hclose : (edge : Int) - 512 ≤ n) : roundHalfEven n.toNat 2048 = Nat.pow 2 52 :=
    (roundHalfEven_eq_edge_iff (by omega)).mpr (by omega)
  constructor
  · rintro ⟨hedge, hc, hclose, hround⟩
    rw [hbelow hclose, roundHalfEven_eq_edge_iff (by omega)] at hround
    omega
  · rintro ⟨hedge, hc, hclose⟩
    refine ⟨Or.inl hedge, by omega, hclose, ?_⟩
    rw [hbelow hclose, roundHalfEven_eq_edge_iff (by omega)]
    omega

end Binary64

end TableQuery.Number

namespace TableQuery.Row

open TableQuery.Number TableQuery.Number.Binary64

/-! ## Cells -/

variable {c d n : Int}

theorem signed?_of_lt_edge (h : c < edge) : signed? (.integer c) = some c :=
  if_pos (le_maxSigned_iff.mpr h)

theorem signed?_of_edge_le (h : (edge : Int) ≤ c) : signed? (.integer c) = none :=
  if_neg (mt le_maxSigned_iff.mp (by omega))

theorem key?_integer (c : Int) : key? (.integer c) = some (ofInt c).key := by
  simp [key?, float?, isNaN_ofInt]

theorem not_merged_of_lt_edge (hc : c < edge) (hd : d < edge) : ¬ Merged c d := by
  rintro ⟨hedge, -⟩
  omega

/-- **Cells with whole numbers compare exactly, unless these are merged.** -/
theorem compareCells_integer (hc : c ≤ maxUnsigned) (hd : d ≤ maxUnsigned) :
    compareCells (.integer c) (.integer d) = if Merged c d then .eq else compare c d := by
  change compareNumbers _ _ = _
  by_cases h : c < edge ∧ d < edge
  · rw [compareNumbers_of_signed (signed?_of_lt_edge h.1) (signed?_of_lt_edge h.2),
      if_neg (not_merged_of_lt_edge h.1 h.2)]
  · have hedge : (edge : Int) ≤ c ∨ (edge : Int) ≤ d := by omega
    rw [compareNumbers_eq_keys (hedge.imp signed?_of_edge_le signed?_of_edge_le), key?_integer,
      key?_integer]
    exact compare_key_ofInt hedge hc hd

/-- **A cell with a whole number compares exactly with one, unless the two are merged.** -/
theorem compareLiteral?_integer (hc : c ≤ maxUnsigned) (hn : n < edge) :
    compareLiteral? (.integer c) (.integer n)
      = some (if Merged c n then .eq else compare c n) := by
  have hmax : n ≤ maxUnsigned := Int.le_trans (Int.le_of_lt hn) (by decide)
  unfold compareLiteral?
  rcases Int.lt_or_le c edge with hlt | hle
  · simp only [signed?_of_lt_edge hlt, if_neg (not_merged_of_lt_edge hlt hn)]
  · rw [← compare_key_ofInt (Or.inl hle) hc hmax]
    simp [signed?_of_edge_le hle, float?, compare?, isNaN_ofInt]

end TableQuery.Row

namespace TableQuery.Predicate

/-! ## Comparisons -/

/-- **How a comparator relates two whole numbers**; a pattern relates none. -/
def Comparator.Relates : Comparator → Int → Int → Prop
  | .equal, x, y => x = y
  | .notEqual, x, y => x ≠ y
  | .less, x, y => x < y
  | .lessEqual, x, y => x ≤ y
  | .greater, x, y => y < x
  | .greaterEqual, x, y => y ≤ x
  | .like, _, _ => False

theorem accepts_compare_iff (op : Comparator) (x y : Int) :
    op.accepts (Ord.compare x y) = true ↔ op.Relates x y := by
  cases op with
  | equal => simp [Comparator.accepts, Comparator.Relates]
  | notEqual => simp [Comparator.accepts, Comparator.Relates]
  | less => simp [Comparator.accepts, Comparator.Relates, Int.compare_eq_lt]
  | lessEqual => simp [Comparator.accepts, Comparator.Relates, Int.compare_ne_gt]
  | greater => simp [Comparator.accepts, Comparator.Relates, Int.compare_eq_gt]
  | greaterEqual => simp [Comparator.accepts, Comparator.Relates, Int.compare_ne_lt]
  | like => simp [Comparator.accepts, Comparator.Relates]

theorem holds_integer (op : Comparator) {column : String} {row : Json} {n : Int} {o : Ordering}
    (h : Row.compareLiteral? (Row.cell row column) (.integer n) = some o) :
    Comparison.holds ⟨column, op, .integer n⟩ row = op.accepts o := by
  cases op with
  | like => rfl
  | equal | notEqual | less | lessEqual | greater | greaterEqual =>
    simp only [Comparison.holds, h, Option.any_some]

end TableQuery.Predicate

namespace TableQuery.Row

open TableQuery.Number TableQuery.Number.Binary64

/-- **Whole numbers compare exactly, except around the edge.**  A comparison of a cell with a
literal is decided by the two numbers, unless the cell is one of the 1025 numbers from the edge on
and the literal one of the 512 below it: then it is decided as if they were equal.  Two cells sort
by their numbers, unless these are merged: then they are taken for equal. -/
theorem integers_compare_exactly_unless_merged (row : Json) (column : String) (c d n : Int)
    (hcell : cell row column = .integer c) (hc : c ≤ maxUnsigned) (hd : d ≤ maxUnsigned)
    (hn : n ≤ maxSigned) :
    (¬ ((edge : Int) ≤ c ∧ c ≤ (edge : Int) + 1024 ∧ (edge : Int) - 512 ≤ n) →
        ∀ op, Predicate.Comparison.holds ⟨column, op, .integer n⟩ row = true ↔ op.Relates c n) ∧
      ((edge : Int) ≤ c ∧ c ≤ (edge : Int) + 1024 ∧ (edge : Int) - 512 ≤ n →
        ∀ op, Predicate.Comparison.holds ⟨column, op, .integer n⟩ row = true ↔ op.Relates n n) ∧
      compareCells (.integer c) (.integer d) = if Merged c d then .eq else compare c d := by
  have hn := le_maxSigned_iff.mp hn
  have hcompare := compareLiteral?_integer hc hn
  rw [← hcell] at hcompare
  rw [← merged_iff_of_lt_edge hn]
  refine ⟨fun hmerged op => ?_, fun hmerged op => ?_, compareCells_integer hc hd⟩
  · rw [Predicate.holds_integer op hcompare, if_neg hmerged, Predicate.accepts_compare_iff]
  · have heq : compare n n = .eq := Int.compare_eq_eq.mpr rfl
    rw [Predicate.holds_integer op hcompare, if_pos hmerged, ← heq, Predicate.accepts_compare_iff]

/-- The last cell that is taken for the last number with a sign, and the first one that is not; and
two cells, one more than the other, that are told apart because they are nearest to different
multiples of 2048. -/
theorem last_merged_and_first_apart :
    Predicate.Comparison.holds ⟨"a", .equal, .integer 9223372036854775807⟩
        (.object [("a", .integer 9223372036854776832)]) = true ∧
      Predicate.Comparison.holds ⟨"a", .greater, .integer 9223372036854775807⟩
        (.object [("a", .integer 9223372036854776833)]) = true ∧
      compareCells (.integer 9223372036854776832) (.integer 9223372036854776833) = .lt := by
  have hmerged := integers_compare_exactly_unless_merged
    (.object [("a", .integer 9223372036854776832)]) "a" 9223372036854776832 9223372036854776833
    9223372036854775807 rfl (by decide) (by decide) (by decide)
  have hapart := integers_compare_exactly_unless_merged
    (.object [("a", .integer 9223372036854776833)]) "a" 9223372036854776833 0
    9223372036854775807 rfl (by decide) (by decide) (by decide)
  refine ⟨(hmerged.2.1 (by decide) .equal).mpr rfl, (hapart.1 (by decide) .greater).mpr ?_, ?_⟩
  · exact Int.lt_of_sub_pos (by decide)
  · rw [hmerged.2.2]
    decide +kernel

/-- **Whole numbers do not always compare exactly**: the edge is taken for equal to the number below
it, and so are the edge and the number above it. -/
theorem edge_not_told_from_neighbours :
    (Predicate.Comparison.holds ⟨"a", .equal, .integer 9223372036854775807⟩
        (.object [("a", .integer 9223372036854775808)]) = true ∧
      compareCells (.integer 9223372036854775808) (.integer 9223372036854775809) = .eq) ∧
      (¬ ∀ (row : Json) (column : String) (c n : Int) (op : Predicate.Comparator),
        cell row column = .integer c → c ≤ maxUnsigned → n ≤ maxSigned →
          (Predicate.Comparison.holds ⟨column, op, .integer n⟩ row = true ↔ op.Relates c n)) ∧
      ¬ ∀ c d : Int, c ≤ maxUnsigned → d ≤ maxUnsigned →
        compareCells (.integer c) (.integer d) = compare c d := by
  have hequal : Predicate.Comparison.holds ⟨"a", .equal, .integer 9223372036854775807⟩
      (.object [("a", .integer 9223372036854775808)]) = true := by decide +kernel
  have hcells : compareCells (.integer 9223372036854775808) (.integer 9223372036854775809)
      = .eq := by decide +kernel
  refine ⟨⟨hequal, hcells⟩, fun hexact => ?_, fun hexact => ?_⟩
  · have heq : (9223372036854775808 : Int) = 9223372036854775807 :=
      (hexact _ "a" _ _ .equal rfl (by decide) (by decide)).mp hequal
    exact absurd heq (by decide)
  · have hcompare := hexact 9223372036854775808 9223372036854775809 (by decide) (by decide)
    rw [hcells] at hcompare
    exact absurd hcompare (by decide)

end TableQuery.Row
