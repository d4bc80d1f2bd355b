import TableQuery.Proofs.Number.Rounding
import TableQuery.Proofs.Row.Sorting

/-!
# Proofs/Row/Ranking — where the order of cells is an order, and where it is not

Cells compare backwards as they compare forwards, and each is equal to itself.  They are ranked by
that comparison unless a cell **blurs** two others: it is taken for equal to both of them, though
one of the two comes before the other.  There are two ways to do that.  Cells of different kinds are
not told apart, and a number that does not fit into 64 bits with a sign compares by its key as a
floating point number, which it may share with several whole numbers.  Nothing else breaks the order
(`compareCells_astray_iff`), since rounding keeps the order of whole numbers.
-/

namespace TableQuery.Row

open TableQuery.Number

/-! ## Numbers -/

/-- The key by which a cell compares as a floating point number, if it is a number. -/
def key? (a : Json) : Option Int :=
  (float? a).bind fun x => if x.isNaN then none else some x.key

variable {a b c : Json}

/-- Unless both numbers fit into 64 bits with a sign, their keys compare. -/
theorem compareNumbers_eq_keys (h : signed? a = none ∨ signed? b = none) :
    compareNumbers a b = ((key? a).bind fun k => (key? b).map (compare k)).getD .eq := by
  rw [compareNumbers_of_none h]
  unfold key? Binary64.compare?
  cases float? a with
  | none => rfl
  | some x =>
    cases float? b with
    | none => cases hx : x.isNaN <;> simp [hx]
    | some y => cases hx : x.isNaN <;> cases hy : y.isNaN <;> simp [hx, hy]

theorem key?_of_signed {n : Int} (h : signed? a = some n) :
    key? a = some (Binary64.ofInt n).key := by
  cases a with
  | integer m =>
    obtain rfl : m = n := by
      simp only [signed?] at h
      split at h <;> simp_all
    simp [key?, float?, Binary64.isNaN_ofInt]
  | null | bool | float | string | array | object => cases h

theorem compareNumbers_of_signed {m n : Int} (ha : signed? a = some m) (hb : signed? b = some n) :
    compareNumbers a b = compare m n := by
  rw [compareNumbers, ha, hb]

/-- **Numbers that do not come behind one another have keys that do not.** -/
theorem key_le_of_compareNumbers {k l : Int} (ha : key? a = some k) (hb : key? b = some l)
    (h : compareNumbers a b ≠ .gt) : k ≤ l := by
  by_cases hnone : signed? a = none ∨ signed? b = none
  · rw [compareNumbers_eq_keys hnone, ha, hb] at h
    exact Int.compare_ne_gt.mp h
  · rw [not_or] at hnone
    obtain ⟨m, hm⟩ := Option.ne_none_iff_exists'.mp hnone.1
    obtain ⟨n, hn⟩ := Option.ne_none_iff_exists'.mp hnone.2
    rw [compareNumbers_of_signed hm hn] at h
    rw [key?_of_signed hm, Option.some.injEq] at ha
    rw [key?_of_signed hn, Option.some.injEq] at hb
    rw [← ha, ← hb]
    exact Binary64.key_ofInt_mono (Int.compare_ne_gt.mp h)

/-- A number that comes behind another is the larger whole number, or has the larger key. -/
theorem compareNumbers_eq_gt (h : compareNumbers a c = .gt) :
    (∃ m n, signed? a = some m ∧ signed? c = some n ∧ n < m) ∨
      ∃ k l, key? a = some k ∧ key? c = some l ∧ l < k := by
  by_cases hnone : signed? a = none ∨ signed? c = none
  · rw [compareNumbers_eq_keys hnone] at h
    cases hk : key? a with
    | none => simp [hk] at h
    | some k =>
      cases hl : key? c with
      | none => simp [hk, hl] at h
      | some l =>
        refine Or.inr ⟨k, l, rfl, rfl, ?_⟩
        simpa [hk, hl, Int.compare_eq_gt] using h
  · rw [not_or] at hnone
    obtain ⟨m, hm⟩ := Option.ne_none_iff_exists'.mp hnone.1
    obtain ⟨n, hn⟩ := Option.ne_none_iff_exists'.mp hnone.2
    rw [compareNumbers_of_signed hm hn, Int.compare_eq_gt] at h
    exact Or.inl ⟨m, n, hm, hn, h⟩

/-- **A number merges two whole numbers** if it does not fit into 64 bits with a sign itself, and as
floating point numbers all three are one.  (What is not a number merges all numbers.) -/
def Merges (b a c : Json) : Prop :=
  signed? b = none ∧ ∀ k ∈ key? b, ∃ m n, signed? a = some m ∧ signed? c = some n ∧
    (Binary64.ofInt m).key = k ∧ (Binary64.ofInt n).key = k

/-- **The order of numbers goes astray exactly at a number that merges two others.** -/
theorem compareNumbers_astray_iff (h : compareNumbers a c = .gt) :
    (compareNumbers a b ≠ .gt ∧ compareNumbers b c ≠ .gt) ↔ Merges b a c := by
  constructor
  · rintro ⟨hab, hbc⟩
    have hkeys (k : Int) (hk : key? b = some k) : ∃ m n, signed? a = some m ∧
        signed? c = some n ∧ n < m ∧ (Binary64.ofInt m).key = k ∧ (Binary64.ofInt n).key = k := by
      rcases compareNumbers_eq_gt h with ⟨m, n, hm, hn, hlt⟩ | ⟨k', l', hk', hl', hlt⟩
      · have hle := key_le_of_compareNumbers (key?_of_signed hm) hk hab
        have hge := key_le_of_compareNumbers hk (key?_of_signed hn) hbc
        have hmono := Binary64.key_ofInt_mono (Int.le_of_lt hlt)
        exact ⟨m, n, hm, hn, hlt, by omega, by omega⟩
      · have hle := key_le_of_compareNumbers hk' hk hab
        have hge := key_le_of_compareNumbers hk hl' hbc
        omega
    refine ⟨?_, fun k hk => ?_⟩
    · -- Three whole numbers compare exactly.
      cases hb : signed? b with
      | none => rfl
      | some y =>
        obtain ⟨m, n, hm, hn, hlt, -⟩ := hkeys _ (key?_of_signed hb)
        rw [compareNumbers_of_signed hm hb, Int.compare_ne_gt] at hab
        rw [compareNumbers_of_signed hb hn, Int.compare_ne_gt] at hbc
        omega
    · obtain ⟨m, n, hm, hn, -, hkm, hkn⟩ := hkeys k hk
      exact ⟨m, n, hm, hn, hkm, hkn⟩
  · rintro ⟨hb, hkeys⟩
    rw [compareNumbers_eq_keys (Or.inr hb), compareNumbers_eq_keys (Or.inl hb)]
    cases hk : key? b with
    | none => cases key? a <;> simp
    | some k =>
      obtain ⟨m, n, hm, hn, rfl, hkn⟩ := hkeys k hk
      rw [key?_of_signed hm, key?_of_signed hn]
      simp [hkn]

/-! ## Kinds -/

/-- The kinds of cells. -/
inductive Kind where
  | null
  | truth
  | number
  | text
  | compound
  deriving DecidableEq

/-- The kind of a cell. -/
def kind : Json → Kind
  | .null => .null
  | .bool _ => .truth
  | .integer _ | .float _ => .number
  | .string _ => .text
  | .array _ | .object _ => .compound

/-- What is no number compares with nothing as a number. -/
theorem compareNumbers_of_kind_ne (h : kind a ≠ .number ∨ kind b ≠ .number) :
    compareNumbers a b = .eq := by
  have hfloat {x : Json} (hx : kind x ≠ .number) : signed? x = none ∧ float? x = none := by
    cases x with
    | integer | float => exact absurd rfl hx
    | null | bool | string | array | object => exact ⟨rfl, rfl⟩
  rcases h with h | h
  · rw [compareNumbers_of_none (Or.inl (hfloat h).1), (hfloat h).2]
    rfl
  · rw [compareNumbers_of_none (Or.inr (hfloat h).1), (hfloat h).2]
    cases float? a <;> rfl

theorem compareCells_of_number (ha : kind a = .number) (hb : kind b = .number) :
    compareCells a b = compareNumbers a b := by
  cases a with
  | integer | float =>
    cases b with
    | integer | float => rfl
    | null | bool | string | array | object => cases hb
  | null | bool | string | array | object => cases ha

/-- **Cells of different kinds are not told apart**, null aside. -/
theorem compareCells_of_kind_ne (ha : a ≠ .null) (hb : b ≠ .null) (h : kind a ≠ kind b) :
    compareCells a b = .eq := by
  have hnumbers : compareNumbers a b = .eq := by
    by_cases hnumber : kind a = .number
    · exact compareNumbers_of_kind_ne (Or.inr fun hb => h (hnumber.trans hb.symm))
    · exact compareNumbers_of_kind_ne (Or.inl hnumber)
  cases a <;> cases b <;>
    first | exact hnumbers | exact absurd rfl ha | exact absurd rfl hb | exact absurd rfl h

/-- Null comes behind nothing. -/
theorem ne_null_of_gt (h : compareCells a c = .gt) : a ≠ .null := by
  rintro rfl
  cases c <;> cases h

/-- Only null does not come behind null. -/
theorem ne_null_of_le (h : compareCells a b ≠ .gt) (ha : a ≠ .null) : b ≠ .null := by
  rintro rfl
  cases a with
  | null => exact ha rfl
  | bool | integer | float | string | array | object => exact h rfl

/-- A cell that comes behind another is of its kind, unless the other is null. -/
theorem kind_eq_of_gt (h : compareCells a c = .gt) (hc : c ≠ .null) : kind a = kind c := by
  by_cases hkind : kind a = kind c
  · exact hkind
  · rw [compareCells_of_kind_ne (ne_null_of_gt h) hc hkind] at h
    cases h

theorem compare_trans {α : Type} [Ord α] [Std.TransOrd α] {x y z : α} (h : compare x y ≠ .gt)
    (h' : compare y z ≠ .gt) : compare x z ≠ .gt :=
  Ordering.isLE_iff_ne_gt.mp (Std.TransCmp.isLE_trans (Ordering.ne_gt_iff_isLE.mp h)
    (Ordering.ne_gt_iff_isLE.mp h'))

/-- **Texts are ranked, and so are truth values.** -/
theorem compareCells_trans_of_kind (hab : kind a = kind b) (hbc : kind b = kind c)
    (hnumber : kind b ≠ .number) (h : compareCells a b ≠ .gt) (h' : compareCells b c ≠ .gt) :
    compareCells a c ≠ .gt := by
  have hnumbers : compareNumbers a c = .eq :=
    compareNumbers_of_kind_ne (Or.inl (hab ▸ hnumber))
  cases b with
  | null =>
    cases a <;> cases hab
    exact h'
  | bool y =>
    cases a <;> cases hab
    cases c <;> cases hbc
    exact compare_trans (α := Bool) h h'
  | string y =>
    cases a <;> cases hab
    cases c <;> cases hbc
    exact compare_trans (α := String) h h'
  | integer | float => exact absurd rfl hnumber
  | array | object =>
    cases a <;> cases hab <;> cases c <;> cases hbc <;>
      exact fun hgt => by cases hnumbers.symm.trans hgt

/-! ## Cells that blur others -/

/-- **A cell blurs two others**: none of them is null, and it is of another kind, or a number that
merges them. -/
def Blurs (b a c : Json) : Prop :=
  b ≠ .null ∧ c ≠ .null ∧ (kind b ≠ kind a ∨ kind b = .number ∧ Merges b a c)

/-- **The order of cells goes astray exactly where a cell blurs two others**: the first is not
behind the second, nor that behind the third, and yet the first comes behind the third. -/
theorem compareCells_astray_iff :
    (compareCells a b ≠ .gt ∧ compareCells b c ≠ .gt ∧ compareCells a c = .gt) ↔
      compareCells a c = .gt ∧ Blurs b a c := by
  constructor
  · rintro ⟨hab, hbc, hac⟩
    have hb := ne_null_of_le hab (ne_null_of_gt hac)
    have hc := ne_null_of_le hbc hb
    have hkind := kind_eq_of_gt hac hc
    refine ⟨hac, hb, hc, ?_⟩
    by_cases hba : kind b = kind a
    · by_cases hnumber : kind b = .number
      · have ha : kind a = .number := hba.symm.trans hnumber
        have hc : kind c = .number := hkind.symm.trans ha
        rw [compareCells_of_number ha hnumber] at hab
        rw [compareCells_of_number hnumber hc] at hbc
        rw [compareCells_of_number ha hc] at hac
        exact Or.inr ⟨hnumber, (compareNumbers_astray_iff hac).mp ⟨hab, hbc⟩⟩
      · exact absurd hac (compareCells_trans_of_kind hba.symm (hba.trans hkind) hnumber hab hbc)
    · exact Or.inl hba
  · rintro ⟨hac, hb, hc, hblurs⟩
    have ha := ne_null_of_gt hac
    have hkind := kind_eq_of_gt hac hc
    by_cases hba : kind b = kind a
    · obtain ⟨hnumber, hmerges⟩ := hblurs.resolve_left (not_not_intro hba)
      have ha : kind a = .number := hba.symm.trans hnumber
      have hc : kind c = .number := hkind.symm.trans ha
      refine ⟨?_, ?_, hac⟩
      all_goals rw [compareCells_of_number ha hc] at hac
      · rw [compareCells_of_number ha hnumber]
        exact ((compareNumbers_astray_iff hac).mpr hmerges).1
      · rw [compareCells_of_number hnumber hc]
        exact ((compareNumbers_astray_iff hac).mpr hmerges).2
    · rw [compareCells_of_kind_ne ha hb (Ne.symm hba),
        compareCells_of_kind_ne hb hc fun h => hba (h.trans hkind.symm)]
      exact ⟨by decide, by decide, hac⟩

/-- **The order of cells**: each is equal to itself, and two compare backwards as they compare
forwards.  It is transitive except across a cell that blurs the two others: there, and only there, a
cell that is not behind a second one, which is not behind a third, comes behind the third. -/
theorem compareCells_ranks_unless_blurred (a b c : Json) :
    compareCells a a = .eq ∧ compareCells a b = (compareCells b a).swap ∧
      ((compareCells a b ≠ .gt ∧ compareCells b c ≠ .gt ∧ compareCells a c = .gt) ↔
        compareCells a c = .gt ∧ Blurs b a c) := by
  refine ⟨?_, compareCells_swap a b, compareCells_astray_iff⟩
  have hswap := compareCells_swap a a
  cases h : compareCells a a with
  | eq => rfl
  | lt | gt =>
    rw [h] at hswap
    cases hswap

/-- A number between two texts, and a floating point number between two whole numbers that it is the
nearest to: each is equal to both, and these are not equal. -/
theorem compareCells_not_transitive :
    (compareCells (.string "b") (.integer 1) = .eq ∧ compareCells (.integer 1) (.string "a") = .eq ∧
        compareCells (.string "b") (.string "a") = .gt) ∧
      (compareCells (.integer 9007199254740993) (.float (.ofInt 9007199254740992)) = .eq ∧
        compareCells (.float (.ofInt 9007199254740992)) (.integer 9007199254740992) = .eq ∧
        compareCells (.integer 9007199254740993) (.integer 9007199254740992) = .gt) ∧
      ¬ ∀ a b c, compareCells a b ≠ .gt → compareCells b c ≠ .gt → compareCells a c ≠ .gt := by
  refine ⟨by decide +kernel, by decide +kernel, fun h => ?_⟩
  exact h (.string "b") (.integer 1) (.string "a") (by decide +kernel) (by decide +kernel)
    (by decide +kernel)

end TableQuery.Row
