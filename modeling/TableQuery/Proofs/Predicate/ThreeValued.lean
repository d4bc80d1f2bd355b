import TableQuery.Proofs.Pattern.Matching
import TableQuery.Proofs.Row.Comparing

/-!
# Proofs/Predicate/ThreeValued — predicates on rows with unknown cells

A database gives a condition one of three values: a comparison with a cell that is null, or that
cannot be compared, is **unknown**, and *and* and *or* follow Kleene's tables.  Here a row either
meets a predicate or does not, and an unknown comparison is simply not met, whatever its comparator.
The tables make *true* out of operands that are *true* and nothing else, so the two readings select
the same rows (`holds_iff_kleene_eq_true`).

The tables are monotone as well: a value can only become unknown when cells of the row are
**withheld** (`kleene_withhold`).  So no row meets a predicate for the lack of a cell.
-/

namespace TableQuery

/-! ## Three values -/

/-- The value of a condition on a row whose cells need not all be known. -/
inductive Truth where
  | false
  | unknown
  | true
  deriving DecidableEq, Repr

namespace Truth

/-- The value of a condition that is known to hold or known to fail. -/
def ofProp (p : Prop) [Decidable p] : Truth := if p then .true else .false

/-- *And*: false if an operand is false, true if both are true. -/
def and : Truth → Truth → Truth
  | .false, _ | _, .false => .false
  | .true, .true => .true
  | .unknown, _ | _, .unknown => .unknown

/-- *Or*: true if an operand is true, false if both are false. -/
def or : Truth → Truth → Truth
  | .true, _ | _, .true => .true
  | .false, .false => .false
  | .unknown, _ | _, .unknown => .unknown

/-- **A value is within another** if it is the same or unknown. -/
def Within (a b : Truth) : Prop := a = .unknown ∨ a = b

theorem ofProp_eq_true_iff {p : Prop} [Decidable p] : ofProp p = .true ↔ p := by
  unfold ofProp
  split <;> simp_all

theorem ofProp_ne_unknown (p : Prop) [Decidable p] : ofProp p ≠ .unknown := by
  unfold ofProp
  split <;> simp

theorem and_eq_true_iff (a b : Truth) : a.and b = .true ↔ a = .true ∧ b = .true := by
  rcases a <;> rcases b <;> decide

theorem or_eq_true_iff (a b : Truth) : a.or b = .true ↔ a = .true ∨ b = .true := by
  rcases a <;> rcases b <;> decide

theorem Within.refl (a : Truth) : a.Within a := Or.inr rfl

theorem Within.and {a b c d : Truth} (hab : a.Within b) (hcd : c.Within d) :
    (a.and c).Within (b.and d) := by
  rcases hab with rfl | rfl <;> rcases hcd with rfl | rfl
  · exact Or.inl rfl
  · rcases b <;> rcases c <;> simp [Truth.and, Within]
  · rcases a <;> rcases d <;> simp [Truth.and, Within]
  · exact .refl _

theorem Within.or {a b c d : Truth} (hab : a.Within b) (hcd : c.Within d) :
    (a.or c).Within (b.or d) := by
  rcases hab with rfl | rfl <;> rcases hcd with rfl | rfl
  · exact Or.inl rfl
  · rcases b <;> rcases c <;> simp [Truth.or, Within]
  · rcases a <;> rcases d <;> simp [Truth.or, Within]
  · exact .refl _

end Truth

/-! ## The value of a comparison -/

namespace Predicate

instance (s pattern : String) :
    Decidable (Pattern.Matches (Pattern.tokens pattern.toList) s.toList) :=
  decidable_of_iff _ (Pattern.isMatch_eq_true_iff s pattern)

/-- The value of a match; only a text matches, and only a text is a pattern. -/
def likeTruth : Json → Literal → Truth
  | .string s, .text pattern =>
    .ofProp (Pattern.Matches (Pattern.tokens pattern.toList) s.toList)
  | _, _ => .unknown

instance (cell : Json) (v : Literal) : Decidable (Row.Comparable cell v) :=
  decidable_of_iff _ (Row.isSome_compareLiteral?_iff cell v)

/-- The value of a comparison by order. -/
def orderTruth (op : Comparator) (cell : Json) (v : Literal) : Truth :=
  if Row.Comparable cell v then .ofProp (op.Meets cell v) else .unknown

/-- **The value of a comparison with a cell.**  Null makes it unknown, and so does a cell that
cannot be compared. -/
def cellTruth (op : Comparator) (v : Literal) : Json → Truth
  | .null => .unknown
  | cell => if op = .like then likeTruth cell v else orderTruth op cell v

/-- **The value of a predicate on a row.** -/
def kleene : Predicate → Json → Truth
  | .compare c, row => cellTruth c.op c.value (Row.cell row c.column)
  | .and l r, row => (l.kleene row).and (r.kleene row)
  | .or l r, row => (l.kleene row).or (r.kleene row)

/-- Null is not compared with anything. -/
theorem not_comparable_null (v : Literal) : ¬ Row.Comparable .null v := by
  rw [← Row.isSome_compareLiteral?_iff]
  rcases v <;> exact Bool.noConfusion

theorem cellTruth_eq (op : Comparator) (v : Literal) (cell : Json) :
    cellTruth op v cell = if op = .like then likeTruth cell v else orderTruth op cell v := by
  unfold cellTruth
  split
  · rw [orderTruth, if_neg (not_comparable_null v), likeTruth, ite_self]
    simp
  · rfl

theorem cellMatches_iff_likeTruth (cell : Json) (v : Literal) :
    cellMatches cell v = true ↔ likeTruth cell v = .true := by
  rcases v <;> rcases cell <;>
    simp [cellMatches, likeTruth, Row.string?, Truth.ofProp_eq_true_iff,
      Pattern.isMatch_eq_true_iff]

/-- What stands to a literal in any way can be compared with it. -/
theorem orderTruth_eq_true_iff (op : Comparator) (cell : Json) (v : Literal) :
    orderTruth op cell v = .true ↔ op.Meets cell v := by
  unfold orderTruth
  split
  · exact Truth.ofProp_eq_true_iff
  · rename_i hcomparable
    refine iff_of_false Truth.noConfusion ?_
    rintro ⟨o, hstands, -⟩
    rw [← Row.isSome_compareLiteral?_iff, Row.compareLiteral?_of_stands hstands] at hcomparable
    exact hcomparable rfl

/-- **A row meets a comparison exactly if its value is true.** -/
theorem comparison_holds_iff_cellTruth (c : Comparison) (row : Json) :
    c.holds row = true ↔ cellTruth c.op c.value (Row.cell row c.column) = .true := by
  obtain ⟨column, op, v⟩ := c
  rw [cellTruth_eq]
  by_cases hop : op = .like
  · subst hop
    exact cellMatches_iff_likeTruth _ v
  · rw [if_neg hop, orderTruth_eq_true_iff, ← any_accepts_iff_meets]
    cases op with
    | like => exact absurd rfl hop
    | equal | notEqual | less | lessEqual | greater | greaterEqual => rfl

/-! ## Unknown comparisons -/

/-- Whether a comparator says anything of a cell and a literal. -/
def Comparator.Applies (op : Comparator) (cell : Json) (v : Literal) : Prop :=
  match op with
  | .like => ∃ s pattern, cell = .string s ∧ v = .text pattern
  | _ => Row.Comparable cell v

/-- **A comparison is unknown exactly if its comparator says nothing of the cell.** -/
theorem cellTruth_eq_unknown_iff (op : Comparator) (v : Literal) (cell : Json) :
    cellTruth op v cell = .unknown ↔ ¬ op.Applies cell v := by
  rw [cellTruth_eq]
  by_cases hop : op = .like
  · subst hop
    rcases v <;> rcases cell <;>
      simp [likeTruth, Comparator.Applies, Truth.ofProp_ne_unknown]
  · have happlies : op.Applies cell v ↔ Row.Comparable cell v := by
      cases op with
      | like => exact absurd rfl hop
      | equal | notEqual | less | lessEqual | greater | greaterEqual => rfl
    rw [if_neg hop, happlies, orderTruth]
    split <;> simp_all [Truth.ofProp_ne_unknown]

end Predicate

/-! ## Withheld cells -/

namespace Row

/-- What becomes of the cell of a column. -/
inductive Fate where
  | kept
  | nulled
  | removed
  deriving DecidableEq, Repr

/-- What is left of a member of a row. -/
def Fate.apply (fate : Fate) (name : String) (v : Json) : Option (String × Json) :=
  match fate with
  | .kept => some (name, v)
  | .nulled => some (name, .null)
  | .removed => none

/-- **A row with some of its cells withheld**, as null or altogether. -/
def withhold (fate : String → Fate) : Json → Json
  | .object members => .object (members.filterMap fun m => (fate m.1).apply m.1 m.2)
  | row => row

theorem lookup_withhold (fate : String → Fate) (column : String) (members : List (String × Json)) :
    (Json.lookup column (members.filterMap fun m => (fate m.1).apply m.1 m.2)).getD .null
      = if fate column = .kept then (Json.lookup column members).getD .null else .null := by
  induction members with
  | nil => simp [Json.lookup]
  | cons m rest ih =>
    obtain ⟨name, v⟩ := m
    by_cases hname : name = column
    · subst hname
      rcases hfate : fate name <;> simp_all [Fate.apply, Json.lookup]
    · rcases hfate : fate name <;> simp_all [Fate.apply, Json.lookup]

/-- **A withheld cell is null, and all others stay.** -/
theorem cell_withhold (fate : String → Fate) (row : Json) (column : String) :
    cell (withhold fate row) column = if fate column = .kept then cell row column else .null := by
  cases row with
  | object members => exact lookup_withhold fate column members
  | null | bool | integer | float | string | array => exact (ite_self _).symm

end Row

namespace Predicate

/-- **A value can only become unknown when cells are withheld.** -/
theorem kleene_withhold (p : Predicate) (fate : String → Row.Fate) (row : Json) :
    (p.kleene (Row.withhold fate row)).Within (p.kleene row) := by
  induction p with
  | compare c =>
    rw [kleene, kleene, Row.cell_withhold]
    split
    · exact .refl _
    · exact Or.inl rfl
  | and l r ihl ihr => exact ihl.and ihr
  | or l r ihl ihr => exact ihl.or ihr

theorem holds_iff_kleene (p : Predicate) (row : Json) :
    p.holds row = true ↔ p.kleene row = .true := by
  induction p with
  | compare c => exact comparison_holds_iff_cellTruth c row
  | and l r ihl ihr => rw [holds, kleene, Bool.and_eq_true, ihl, ihr, Truth.and_eq_true_iff]
  | or l r ihl ihr => rw [holds, kleene, Bool.or_eq_true, ihl, ihr, Truth.or_eq_true_iff]

/-- **No row meets a predicate for the lack of a cell.** -/
theorem holds_of_holds_withhold {p : Predicate} {fate : String → Row.Fate} {row : Json}
    (h : p.holds (Row.withhold fate row) = true) : p.holds row = true := by
  rw [holds_iff_kleene] at h ⊢
  have hwithin := kleene_withhold p fate row
  rw [h] at hwithin
  exact (hwithin.resolve_left Truth.noConfusion).symm

/-- **Two values suffice.**  A row meets a predicate exactly if the value in three-valued logic is
true, where a comparison is unknown exactly if its comparator says nothing of the cell.  So a row
that does not meet a predicate does not come to meet it when cells are made null or removed. -/
theorem holds_iff_kleene_eq_true (p : Predicate) (row : Json) :
    (p.holds row = true ↔ p.kleene row = .true) ∧
      (∀ c, (compare c).kleene row = .unknown ↔ ¬ c.op.Applies (Row.cell row c.column) c.value) ∧
      ∀ fate, p.holds row = false → p.holds (Row.withhold fate row) = false := by
  refine ⟨holds_iff_kleene p row, fun c => cellTruth_eq_unknown_iff c.op c.value _, ?_⟩
  intro fate h
  rw [← Bool.not_eq_true] at h ⊢
  exact fun hwithheld => h (holds_of_holds_withhold hwithheld)

/-- A balance of null is not known to differ from one.  So the value of the whole is unknown, though
the age is the one that is asked for; and the row is not selected, nor with still less known. -/
theorem unknown_balance_is_not_selected :
    (and (compare ⟨"balance", .notEqual, .float (.ofInt 1)⟩)
        (or (compare ⟨"age", .equal, .integer 3⟩) (compare ⟨"name", .like, .text "J_n%"⟩))).kleene
        (.object [("balance", .null), ("age", .integer 3), ("name", .string "John")]) = .unknown ∧
      (and (compare ⟨"balance", .notEqual, .float (.ofInt 1)⟩)
        (or (compare ⟨"age", .equal, .integer 3⟩) (compare ⟨"name", .like, .text "J_n%"⟩))).holds
        (.object [("balance", .null), ("age", .integer 3), ("name", .string "John")]) = false ∧
      (and (compare ⟨"balance", .notEqual, .float (.ofInt 1)⟩)
        (or (compare ⟨"age", .equal, .integer 3⟩) (compare ⟨"name", .like, .text "J_n%"⟩))).holds
        (.object [("balance", .null), ("name", .null)]) = false := by
  have hagree := holds_iff_kleene_eq_true
    (and (compare ⟨"balance", .notEqual, .float (.ofInt 1)⟩)
      (or (compare ⟨"age", .equal, .integer 3⟩) (compare ⟨"name", .like, .text "J_n%"⟩)))
    (.object [("balance", .null), ("age", .integer 3), ("name", .string "John")])
  have hnot : holds _ _ = false := Bool.eq_false_iff.mpr fun h => absurd (hagree.1.mp h) (by decide)
  refine ⟨by decide, hnot, ?_⟩
  exact hagree.2.2 (fun name => if name = "age" then .removed else .nulled) hnot

end Predicate

end TableQuery
