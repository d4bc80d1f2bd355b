import TableQuery.Proofs.Number.Nearest
import TableQuery.Proofs.Row.Ranking
import TableQuery.Row.Cell

/-!
# Proofs/Row/Comparing — how a cell stands to a literal

A cell stands to a literal as their values do: whole numbers of 64 bits with a sign as they are, all
other numbers as the rational numbers or infinities that floating point numbers stand for, texts by
the code points of their characters, identifiers by their 128 bits and points of time by seconds and
nanoseconds (`Row.Stands`).  What is not a number stands in no relation to one, and neither does a
text to a number, or null to anything.  The comparison finds exactly that relation
(`compareLiteral?_eq_some_iff`), so a comparator is met by the cells that stand to the literal as it
asks (`any_accepts_iff_meets`).

It compares floating point numbers by their encodings.  A larger magnitude is a larger absolute
value, since the next magnitude adds one to the significand or carries into the exponent
(`absolute_lt_of_magnitude_succ`).
-/

namespace TableQuery.Number.Binary64

/-! ## Numbers by their values -/

/-- The rational number that a finite number stands for. -/
def rational (x : Binary64) : ℚ := if x.negative then -x.absolute else x.absolute

/-- **What a number stands for**: a rational number, or an infinity. -/
def value (x : Binary64) : WithBot (WithTop ℚ) :=
  if x.isFinite then ((x.rational : WithTop ℚ) : WithBot (WithTop ℚ))
  else if x.negative then ⊥ else ⊤

variable {x y : Binary64}

theorem absolute_lt_of_magnitude_succ (h : y.magnitude = x.magnitude + 1) :
    x.absolute < y.absolute := by
  -- Both have one exponent `q`, and the significand of `y` is larger by one.
  obtain ⟨c, q, hq, hc, hlow, hx⟩ : ∃ (c : ℕ) (q : ℤ), -1074 ≤ q ∧ c + 1 ≤ 2 ^ 53 ∧
      (-1074 < q → 2 ^ 52 ≤ c) ∧ x.magnitude = (q + 1074).toNat * 2 ^ 52 + c := by
    by_cases hsmall : x.magnitude < 2 ^ 52
    · exact ⟨x.magnitude, -1074, le_rfl, by omega, by omega, by omega⟩
    · refine ⟨2 ^ 52 + x.magnitude % 2 ^ 52, (x.magnitude / 2 ^ 52 : ℕ) - 1075, ?_, ?_, ?_, ?_⟩ <;>
        omega
  have hxvalue : x.absolute = c * 2 ^ q := absolute_of_magnitude hq (by omega) hlow hx
  have hyvalue : y.absolute = (c + 1 : ℕ) * 2 ^ q :=
    absolute_of_magnitude hq hc (fun hlt => (hlow hlt).trans (by omega)) (by omega)
  rw [hxvalue, hyvalue]
  have hpow : (0 : ℚ) < 2 ^ q := zpow_pos two_pos q
  exact mul_lt_mul_of_pos_right (by exact_mod_cast Nat.lt_succ_self c) hpow

/-- **A larger magnitude is a larger absolute value.** -/
theorem absolute_lt_of_magnitude_lt (h : x.magnitude < y.magnitude) : x.absolute < y.absolute := by
  obtain ⟨n, hn⟩ := Nat.exists_eq_add_of_lt h
  induction n generalizing y with
  | zero => exact absolute_lt_of_magnitude_succ hn
  | succ n ih =>
    have hlt := y.magnitude_lt
    let z : Binary64 := ⟨false, y.magnitude - 1, by omega⟩
    have hz : z.magnitude = y.magnitude - 1 := rfl
    exact (ih (y := z) (by omega) (by omega)).trans (absolute_lt_of_magnitude_succ (by omega))

theorem absolute_congr (h : x.magnitude = y.magnitude) : x.absolute = y.absolute := by
  simp only [absolute, numerator, denominator, significand, exponent, h]

theorem absolute_nonneg (x : Binary64) : 0 ≤ x.absolute := by
  unfold absolute
  positivity

theorem absolute_eq_zero (h : x.magnitude = 0) : x.absolute = 0 := by
  simp [absolute, numerator, significand, h]

theorem absolute_pos (h : 0 < x.magnitude) : 0 < x.absolute := by
  rw [← absolute_eq_zero (x := zero false) rfl]
  exact absolute_lt_of_magnitude_lt h

/-- A smaller key is a smaller rational number. -/
theorem rational_lt_of_key_lt (h : x.key < y.key) : x.rational < y.rational := by
  unfold key at h
  unfold rational
  have hx := absolute_nonneg x
  have hy := absolute_nonneg y
  by_cases hnegx : x.negative = true <;> by_cases hnegy : y.negative = true <;>
    simp only [hnegx, hnegy, if_true, if_false, Bool.false_eq_true] at h ⊢
  · exact neg_lt_neg (absolute_lt_of_magnitude_lt (by omega))
  · rcases Nat.eq_zero_or_pos x.magnitude with hzero | hpos
    · have hypos := absolute_pos (x := y) (by omega)
      linarith
    · have hxpos := absolute_pos hpos
      linarith
  · omega
  · exact absolute_lt_of_magnitude_lt (by omega)

theorem magnitude_eq_of_key_eq (h : x.key = y.key) : x.magnitude = y.magnitude := by
  unfold key at h
  split at h <;> split at h <;> omega

/-- Only zeros of different signs share a key. -/
theorem negative_eq_of_key_eq (h : x.key = y.key) (hpos : 0 < x.magnitude) :
    x.negative = y.negative := by
  unfold key at h
  cases hx : x.negative <;> cases hy : y.negative <;> simp [hx, hy] at h ⊢ <;> omega

theorem rational_eq_of_key_eq (h : x.key = y.key) : x.rational = y.rational := by
  have hmagnitude := magnitude_eq_of_key_eq h
  unfold rational
  rcases Nat.eq_zero_or_pos x.magnitude with hzero | hpos
  · simp [absolute_eq_zero hzero, absolute_eq_zero (hmagnitude.symm.trans hzero)]
  · rw [absolute_congr hmagnitude, negative_eq_of_key_eq h hpos]

/-- **What a number stands for, and where its key lies**: the first key is that of one infinity, the
last one that of the other, and between them lie those of the rational numbers. -/
theorem value_cases (h : x.isNaN = false) :
    x.key = -infinite ∧ x.value = ⊥ ∨ x.key = infinite ∧ x.value = ⊤ ∨
      -infinite < x.key ∧ x.key < infinite ∧ x.value = (x.rational : WithTop ℚ) := by
  have hle : x.magnitude ≤ infinite := not_lt.mp (of_decide_eq_false h)
  unfold key value
  by_cases hfinite : x.isFinite = true
  · have hlt : x.magnitude < infinite := of_decide_eq_true hfinite
    refine Or.inr (Or.inr ⟨?_, ?_, if_pos hfinite⟩) <;> split <;> omega
  · have hge : infinite ≤ x.magnitude := not_lt.mp fun hlt => hfinite (decide_eq_true hlt)
    rw [if_neg hfinite, le_antisymm hle hge]
    by_cases hnegative : x.negative = true
    · exact Or.inl ⟨if_pos hnegative, if_pos hnegative⟩
    · exact Or.inr (Or.inl ⟨if_neg hnegative, if_neg hnegative⟩)

theorem value_lt_of_key_lt (hx : x.isNaN = false) (hy : y.isNaN = false) (h : x.key < y.key) :
    x.value < y.value := by
  rcases value_cases hx with ⟨hxkey, hxvalue⟩ | ⟨hxkey, -⟩ | ⟨hxkey, -, hxvalue⟩
  · rcases value_cases hy with ⟨hykey, -⟩ | ⟨-, hyvalue⟩ | ⟨-, -, hyvalue⟩
    · omega
    · rw [hxvalue, hyvalue]
      exact bot_lt_top
    · rw [hxvalue, hyvalue]
      exact WithBot.bot_lt_coe _
  · rcases value_cases hy with ⟨hykey, -⟩ | ⟨hykey, -⟩ | ⟨-, hykey, -⟩ <;> omega
  · rcases value_cases hy with ⟨hykey, -⟩ | ⟨-, hyvalue⟩ | ⟨-, -, hyvalue⟩
    · omega
    · rw [hxvalue, hyvalue]
      exact WithBot.coe_lt_coe.mpr (WithTop.coe_lt_top x.rational)
    · rw [hxvalue, hyvalue]
      exact WithBot.coe_lt_coe.mpr (WithTop.coe_lt_coe.mpr (rational_lt_of_key_lt h))

theorem value_eq_of_key_eq (h : x.key = y.key) : x.value = y.value := by
  have hmagnitude := magnitude_eq_of_key_eq h
  have hfinite : x.isFinite = y.isFinite := by rw [isFinite, isFinite, hmagnitude]
  unfold value
  rw [hfinite, rational_eq_of_key_eq h]
  by_cases hfy : y.isFinite = true
  · rw [if_pos hfy, if_pos hfy]
  · have hpos : 0 < x.magnitude := by
      rw [hmagnitude]
      exact Nat.lt_of_lt_of_le (by decide) (not_lt.mp fun hlt => hfy (decide_eq_true hlt))
    rw [negative_eq_of_key_eq h hpos]

/-- **Keys compare as the values do.** -/
theorem compares_key_iff (hx : x.isNaN = false) (hy : y.isNaN = false) (o : Ordering) :
    o.Compares x.key y.key ↔ o.Compares x.value y.value := by
  refine Ordering.compares_iff_of_compares_impl (fun {o} h => ?_) o
  cases o with
  | lt => exact value_lt_of_key_lt hx hy h
  | eq => exact value_eq_of_key_eq h
  | gt => exact value_lt_of_key_lt hy hx h

theorem compare?_eq_some_iff {o : Ordering} : x.compare? y = some o ↔
    x.isNaN = false ∧ y.isNaN = false ∧ o.Compares x.value y.value := by
  unfold compare?
  by_cases hx : x.isNaN = true
  · simp [hx]
  by_cases hy : y.isNaN = true
  · simp [hy]
  rw [Bool.not_eq_true] at hx hy
  simp [hx, hy, compare_iff, compares_key_iff]

end TableQuery.Number.Binary64

namespace TableQuery

open TableQuery.Number TableQuery.Time

/-! ## Texts, identifiers and points of time -/

theorem compare_text_iff {s t : String} {o : Ordering} :
    compare s t = o ↔ o.Compares s.toList t.toList := by
  rw [compare_iff]
  cases o with
  | lt => exact String.lt_iff
  | eq => exact String.toList_inj.symm
  | gt => exact String.lt_iff

theorem Guid.order_eq_iff {g h : Guid} {o : Ordering} :
    g.order h = o ↔ o.Compares g.value.toNat h.value.toNat := compare_iff _ _

/-- A point of time by its seconds, and within a second by its nanoseconds. -/
def Time.Timestamp.instant (t : Timestamp) : ℤ ×ₗ ℕ := toLex (t.seconds, t.nanos)

theorem Time.Timestamp.order_eq_iff {t u : Timestamp} {o : Ordering} :
    t.order u = o ↔ o.Compares t.instant u.instant := by
  have hlex : t.order u = compare t.instant u.instant := rfl
  rw [hlex]
  exact compare_iff _ _

namespace Row

/-! ## Cells and literals -/

/-- **How a cell stands to a literal.**  A whole number that fits into 64 bits with a sign stands to
a whole number as the two do; all other numbers stand to each other as the floating point numbers
nearest to them.  A text stands to a text by the code points of the characters, and to an identifier
or a point of time as the one that it denotes. -/
inductive Stands (o : Ordering) : Json → Literal → Prop where
  | integers {m n : Int} : m ≤ maxSigned → o.Compares m n → Stands o (.integer m) (.integer n)
  | beyond {m n : Int} : maxSigned < m →
      o.Compares (Binary64.ofInt m).value (Binary64.ofInt n).value →
      Stands o (.integer m) (.integer n)
  | floatCell {x : Binary64} {n : Int} : x.isNaN = false →
      o.Compares x.value (Binary64.ofInt n).value → Stands o (.float x) (.integer n)
  | floatLiteral {m : Int} {y : Binary64} : y.isNaN = false →
      o.Compares (Binary64.ofInt m).value y.value → Stands o (.integer m) (.float y)
  | floats {x y : Binary64} : x.isNaN = false → y.isNaN = false → o.Compares x.value y.value →
      Stands o (.float x) (.float y)
  | texts {s t : String} : o.Compares s.toList t.toList → Stands o (.string s) (.text t)
  | identifiers {s : String} {g h : Guid} : Guid.readStored s = some g →
      o.Compares g.value.toNat h.value.toNat → Stands o (.string s) (.guid h)
  | times {s : String} {t u : Timestamp} : Timestamp.read s = some t →
      o.Compares t.instant u.instant → Stands o (.string s) (.time u)

variable {cell : Json} {v : Literal} {o : Ordering}

theorem stands_of_compareLiteral? (h : compareLiteral? cell v = some o) : Stands o cell v := by
  cases v with
  | integer n =>
    cases cell with
    | integer m =>
      by_cases hm : m ≤ maxSigned
      · have h : some (compare m n) = some o := by simpa [compareLiteral?, signed?, hm] using h
        exact .integers hm ((compare_iff m n).mp (Option.some.inj h))
      · have h : (Binary64.ofInt m).compare? (.ofInt n) = some o := by
          simpa [compareLiteral?, signed?, float?, hm] using h
        exact .beyond (not_le.mp hm) (Binary64.compare?_eq_some_iff.mp h).2.2
    | float x =>
      obtain ⟨hx, -, hcompares⟩ := Binary64.compare?_eq_some_iff.mp h
      exact .floatCell hx hcompares
    | null | bool | string | array | object => cases h
  | float y =>
    cases cell with
    | integer m =>
      obtain ⟨-, hy, hcompares⟩ := Binary64.compare?_eq_some_iff.mp h
      exact .floatLiteral hy hcompares
    | float x =>
      obtain ⟨hx, hy, hcompares⟩ := Binary64.compare?_eq_some_iff.mp h
      exact .floats hx hy hcompares
    | null | bool | string | array | object => cases h
  | text t =>
    cases cell with
    | string s => exact .texts (compare_text_iff.mp (Option.some.inj h))
    | null | bool | integer | float | array | object => cases h
  | guid g =>
    cases cell with
    | string s =>
      obtain ⟨c, hc, h⟩ := Option.bind_eq_some_iff.mp h
      exact .identifiers hc (Guid.order_eq_iff.mp (Option.some.inj h))
    | null | bool | integer | float | array | object => cases h
  | time u =>
    cases cell with
    | string s =>
      obtain ⟨t, ht, h⟩ := Option.bind_eq_some_iff.mp h
      exact .times ht (Timestamp.order_eq_iff.mp (Option.some.inj h))
    | null | bool | integer | float | array | object => cases h

theorem compareLiteral?_of_stands (h : Stands o cell v) : compareLiteral? cell v = some o := by
  cases h with
  | integers hm hcompares =>
    simp [compareLiteral?, signed?, hm, (compare_iff _ _).mpr hcompares]
  | beyond hm hcompares =>
    simp [compareLiteral?, signed?, float?, not_le.mpr hm, Binary64.compare?_eq_some_iff,
      Binary64.isNaN_ofInt, hcompares]
  | floatCell hx hcompares =>
    exact Binary64.compare?_eq_some_iff.mpr ⟨hx, Binary64.isNaN_ofInt _, hcompares⟩
  | floatLiteral hy hcompares =>
    exact Binary64.compare?_eq_some_iff.mpr ⟨Binary64.isNaN_ofInt _, hy, hcompares⟩
  | floats hx hy hcompares => exact Binary64.compare?_eq_some_iff.mpr ⟨hx, hy, hcompares⟩
  | texts hcompares => exact congrArg some (compare_text_iff.mpr hcompares)
  | identifiers hs hcompares =>
    simp [compareLiteral?, string?, hs, Guid.order_eq_iff.mpr hcompares]
  | times hs hcompares =>
    simp [compareLiteral?, string?, hs, Timestamp.order_eq_iff.mpr hcompares]

/-- **The comparison finds how a cell stands to a literal.** -/
theorem compareLiteral?_eq_some_iff : compareLiteral? cell v = some o ↔ Stands o cell v :=
  ⟨stands_of_compareLiteral?, compareLiteral?_of_stands⟩

/-- **The cells that can be compared with a literal**: numbers with numbers, texts with texts, and
texts that denote an identifier or a point of time with such a literal. -/
def Comparable (cell : Json) : Literal → Prop
  | .integer _ => (key? cell).isSome
  | .float x => (key? cell).isSome ∧ x.isNaN = false
  | .text _ => ∃ s, cell = .string s
  | .guid _ => ∃ s g, cell = .string s ∧ Guid.readStored s = some g
  | .time _ => ∃ s t, cell = .string s ∧ Timestamp.read s = some t

theorem isSome_compare?_iff (cell : Json) (y : Binary64) :
    ((float? cell).bind fun x => x.compare? y).isSome ↔
      (key? cell).isSome ∧ y.isNaN = false := by
  unfold key? Binary64.compare?
  rcases float? cell with _ | x
  · simp
  · by_cases hx : x.isNaN = true <;> by_cases hy : y.isNaN = true <;> simp [hx, hy]

theorem isSome_compareLiteral?_iff (cell : Json) (v : Literal) :
    (compareLiteral? cell v).isSome ↔ Comparable cell v := by
  cases v with
  | integer n =>
    rcases hsigned : signed? cell with _ | m
    · have hfloat : compareLiteral? cell (.integer n)
          = (float? cell).bind fun x => x.compare? (.ofInt n) := by
        simp [compareLiteral?, hsigned]
      rw [hfloat, isSome_compare?_iff, Binary64.isNaN_ofInt]
      simp [Comparable]
    · simp [compareLiteral?, Comparable, hsigned, key?_of_signed hsigned]
  | float x => exact isSome_compare?_iff cell x
  | text s => rcases cell <;> simp [compareLiteral?, Comparable, string?]
  | guid g =>
    cases cell with
    | string s =>
      rcases hread : Guid.readStored s <;> simp [compareLiteral?, Comparable, string?, hread]
    | null | bool | integer | float | array | object =>
      simp [compareLiteral?, Comparable, string?]
  | time t =>
    cases cell with
    | string s =>
      rcases hread : Timestamp.read s <;> simp [compareLiteral?, Comparable, string?, hread]
    | null | bool | integer | float | array | object =>
      simp [compareLiteral?, Comparable, string?]

end Row

/-! ## Comparators -/

namespace Predicate

/-- The orders of a cell and a literal that a comparator asks for; a pattern asks for none. -/
def Comparator.Asks : Comparator → Ordering → Prop
  | .equal, o => o = .eq
  | .notEqual, o => o = .lt ∨ o = .gt
  | .less, o => o = .lt
  | .lessEqual, o => o = .lt ∨ o = .eq
  | .greater, o => o = .gt
  | .greaterEqual, o => o = .gt ∨ o = .eq
  | .like, _ => False

/-- **Whether a cell stands to a literal as a comparator asks.** -/
def Comparator.Meets (op : Comparator) (cell : Json) (v : Literal) : Prop :=
  ∃ o, Row.Stands o cell v ∧ op.Asks o

theorem accepts_iff_asks (op : Comparator) (o : Ordering) :
    op.accepts o = true ↔ op.Asks o := by
  rcases op <;> rcases o <;> simp [Comparator.accepts, Comparator.Asks]

theorem any_accepts_iff_meets (op : Comparator) (cell : Json) (v : Literal) :
    (Row.compareLiteral? cell v).any op.accepts = true ↔ op.Meets cell v := by
  simp only [Option.any_eq_true, Row.compareLiteral?_eq_some_iff, accepts_iff_asks,
    Comparator.Meets]

instance (op : Comparator) (cell : Json) (v : Literal) : Decidable (op.Meets cell v) :=
  decidable_of_iff _ (any_accepts_iff_meets op cell v)

end Predicate

end TableQuery
