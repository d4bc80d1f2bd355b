import TableQuery.Proofs.Sorting.Runs
import TableQuery.Row.Selection

/-!
# Proofs/Row/Sorting — rows in the order of their keys

Sorted rows are the rows that were there.  Where the keys **rank** the rows, they can be sorted, no
row of the result stands behind one that it comes before, and rows that no key tells apart stand as
they stood (`sorts_of_sortRows`, `exists_sortRows`).  Cells of different kinds are not told apart,
so keys need not rank rows that mix kinds in a column; then more than a few rows may not be sorted
at all.
-/

namespace TableQuery.Row

open TableQuery.Number

/-! ## Comparing backwards -/

theorem compare?_swap (x y : Binary64) : x.compare? y = (y.compare? x).map Ordering.swap := by
  unfold Binary64.compare?
  rw [Bool.or_comm, @Std.OrientedCmp.eq_swap _ compare _ x.key y.key]
  split <;> rfl

/-- Unless both numbers fit into 64 bits with a sign, they compare as floating point numbers. -/
theorem compareNumbers_of_none {a b : Json} (h : signed? a = none ∨ signed? b = none) :
    compareNumbers a b
      = ((float? a).bind fun x => (float? b).bind fun y => x.compare? y).getD .eq := by
  unfold compareNumbers
  rcases h with h | h
  · rw [h]
    cases float? a <;> cases float? b <;> rfl
  · rw [h]
    cases signed? a <;> cases float? a <;> cases float? b <;> rfl

theorem compareNumbers_swap (a b : Json) : compareNumbers a b = (compareNumbers b a).swap := by
  by_cases h : signed? a = none ∨ signed? b = none
  · rw [compareNumbers_of_none h, compareNumbers_of_none h.symm]
    cases float? a with
    | none => cases float? b <;> rfl
    | some x =>
      cases float? b with
      | none => rfl
      | some y =>
        change (x.compare? y).getD .eq = ((y.compare? x).getD .eq).swap
        rw [compare?_swap x y]
        cases y.compare? x <;> rfl
  · rw [not_or] at h
    obtain ⟨x, hx⟩ := Option.ne_none_iff_exists'.mp h.1
    obtain ⟨y, hy⟩ := Option.ne_none_iff_exists'.mp h.2
    rw [compareNumbers, compareNumbers, hx, hy]
    exact @Std.OrientedCmp.eq_swap _ compare _ x y

theorem compareCells_swap (a b : Json) : compareCells a b = (compareCells b a).swap := by
  have hnumbers := compareNumbers_swap a b
  cases a with
  | null => cases b <;> rfl
  | bool x =>
    cases b with
    | null => rfl
    | bool y => exact @Std.OrientedCmp.eq_swap _ compare _ x y
    | integer | float | string | array | object => exact hnumbers
  | string x =>
    cases b with
    | null => rfl
    | string y => exact @Std.OrientedCmp.eq_swap _ compare _ x y
    | bool | integer | float | array | object => exact hnumbers
  | integer | float | array | object =>
    cases b with
    | null => rfl
    | bool | integer | float | string | array | object => exact hnumbers

end TableQuery.Row

namespace TableQuery.Selection

theorem directed_swap (direction : Direction) (o : Ordering) :
    directed direction o.swap = (directed direction o).swap := by
  cases direction <;> rfl

/-- **Two rows compare backwards as they compare forwards, turned round.** -/
theorem compareRows_swap (order : List (String × Direction)) (a b : Json) :
    compareRows order a b = (compareRows order b a).swap := by
  induction order with
  | nil => rfl
  | cons key rest ih =>
    obtain ⟨column, direction⟩ := key
    simp only [compareRows]
    rw [Row.compareCells_swap, directed_swap, ih, Ordering.swap_then]

/-! ## Sorted rows -/

variable {order : List (String × Direction)}

/-- Whether a row may stand in front of another. -/
def Precedes (order : List (String × Direction)) (a b : Json) : Prop := compareRows order a b ≠ .gt

/-- **Keys rank rows** if what may stand in front of a row may also stand in front of all that the
row may stand in front of. -/
def Ranks (order : List (String × Direction)) (rows : List Json) : Prop :=
  ∀ a ∈ rows, ∀ b ∈ rows, ∀ c ∈ rows, Precedes order a b → Precedes order b c → Precedes order a c

instance (a b : Json) : Decidable (Precedes order a b) :=
  inferInstanceAs (Decidable (compareRows order a b ≠ .gt))

instance (rows : List Json) : Decidable (Ranks order rows) :=
  inferInstanceAs (Decidable (∀ a ∈ rows, ∀ b ∈ rows, ∀ c ∈ rows,
    Precedes order a b → Precedes order b c → Precedes order a c))

/-- Whether no key tells a row from another. -/
def ties (order : List (String × Direction)) (row : Json) : Json → Bool :=
  fun r => compareRows order row r == .eq

theorem compareRows_eq_gt_iff {a b : Json} :
    compareRows order a b = .gt ↔ compareRows order b a = .lt := by
  rw [compareRows_swap, Ordering.swap_eq_gt]

theorem precedes_of_not_lt {a b : Json} (h : compareRows order a b ≠ .lt) : Precedes order b a :=
  fun hgt => h (compareRows_eq_gt_iff.mp hgt)

theorem orders_of_ranks {rows : List Json} (h : Ranks order rows) :
    Sorting.Orders (fun a b => compareRows order a b == .lt) rows where
  asymm a _ b _ hab := by
    rw [compareRows_swap order b a, beq_iff_eq.mp hab]
    rfl
  trans a ha b hb c hc hba hcb := by
    have hprecedes := h a ha b hb c hc (precedes_of_not_lt (beq_eq_false_iff_ne.mp hba))
      (precedes_of_not_lt (beq_eq_false_iff_ne.mp hcb))
    exact beq_eq_false_iff_ne.mpr fun hca => hprecedes (compareRows_eq_gt_iff.mpr hca)

/-- **What it is to sort rows by keys.**  No row is lost and none is made.  If the keys rank the
rows, no row stands behind one that it comes before, and rows that tie stand as they stood. -/
structure Sorts (order : List (String × Direction)) (rows sorted : List Json) : Prop where
  perm : sorted.Perm rows
  ordered : Ranks order rows → sorted.Pairwise (Precedes order)
  stable : Ranks order rows → ∀ x ∈ rows,
    sorted.filter (ties order x) = rows.filter (ties order x)

/-- Rows that tie with one row tie with each other. -/
theorem picksTies_ties {rows : List Json} (h : Ranks order rows) {x : Json} (hx : x ∈ rows) :
    Sorting.PicksTies (fun a b => compareRows order a b == .lt) (ties order x) rows := by
  intro a ha b hb hxa hxb
  simp only [ties, beq_iff_eq] at hxa hxb
  have hbx : Precedes order b x := precedes_of_not_lt (by simp [hxb])
  have hba := h b hb x hx a ha hbx (by simp [Precedes, hxa])
  exact beq_eq_false_iff_ne.mpr fun hab => hba (compareRows_eq_gt_iff.mpr hab)

/-- **Whatever the sort makes of rows, it sorts them.** -/
theorem sorts_of_sortRows {rows sorted : List Json} (h : sortRows order rows = some sorted) :
    Sorts order rows sorted := by
  have hsorts := (Sorting.yields_sort rows).sound sorted h
  refine ⟨hsorts.perm, fun hranks => ?_, fun hranks x hx => ?_⟩
  · refine (hsorts.ordered (orders_of_ranks hranks)).imp fun hba => ?_
    exact precedes_of_not_lt (beq_eq_false_iff_ne.mp hba)
  · exact hsorts.stable (orders_of_ranks hranks) _ (picksTies_ties hranks hx)

/-- **Rows can be sorted** if the keys rank them, and if they are few. -/
theorem exists_sortRows {rows : List Json} (h : Ranks order rows ∨ rows.length ≤ 20) :
    ∃ sorted, sortRows order rows = some sorted := by
  rcases h with hranks | hfew
  · exact (Sorting.yields_sort rows).returns (orders_of_ranks hranks)
  · exact ⟨_, if_pos hfew⟩

end TableQuery.Selection
