import TableQuery.Proofs.Filter.Acceptance
import TableQuery.Proofs.Pattern.Matching
import TableQuery.Proofs.Row.Comparing

/-!
# Proofs/Predicate/Meaning — a predicate means what its filter says

`Filter.Means` reads a filter directly on a row: *and* and *or* are conjunction and disjunction, and
a comparison says how the cell of its property stands to its literal.  The predicate of a filter
exists exactly if every property has a column (`ofFilter_of_find?_eq_none`,
`ofFilter_of_find?_eq_some`), and then a row meets it exactly if the filter holds on that row
(`holds_iff_means`).
-/

namespace TableQuery.Filter

open Grammar

/-! ## Filters read on a row -/

/-- The orders of a cell and a literal that an operator asks for; *contains* asks for none. -/
def Operator.Asks : Operator → Ordering → Prop
  | .eq, o => o = .eq
  | .ne, o => o ≠ .eq
  | .lt, o => o = .lt
  | .lte, o => o = .lt ∨ o = .eq
  | .gt, o => o = .gt
  | .gte, o => o = .gt ∨ o = .eq
  | .contains, _ => False

/-- **Whether a cell stands in the relation of an operator to a literal.**  A text contains a text
that stands in it, character by character; all other operators need a cell that stands to the
literal as they ask. -/
def Operator.Relates (op : Operator) (cell : Json) (v : Literal) : Prop :=
  match op with
  | .contains => ∃ s t, v = .text s ∧ cell = .string t ∧ s.toList <:+: t.toList
  | op => ∃ o, Row.Stands o cell v ∧ op.Asks o

/-- **Whether a filter holds on a row.** -/
def Means (resolve : Resolver) (row : Json) : Filter → Prop
  | .compare field op v _ => ∃ column, resolve field = some column ∧
      op.Relates (Row.cell row column) v
  | .join .and l r => l.Means resolve row ∧ r.Means resolve row
  | .join .or l r => l.Means resolve row ∨ r.Means resolve row

/-- Whether every *contains* of a filter has a text. -/
def ContainsTexts : Filter → Prop
  | .compare _ op v _ => op = .contains → ∃ s, v = .text s
  | .join _ l r => l.ContainsTexts ∧ r.ContainsTexts

theorem containsTexts_of_derives {s : Symbol} {ts : List Token} {e : Filter}
    (h : Derives vocabulary s ts e) : e.ContainsTexts := by
  induction h with
  | conjunction _ ih | term _ ih | group _ _ _ ih => exact ih
  | or _ _ _ ihl ihr | and _ _ _ ihl ihr => exact ⟨ihl, ihr⟩
  | leaf h =>
    cases h with
    | intro _ _ _ hv hcontains =>
      intro hop
      rw [Token.literal?, hcontains hop] at hv
      exact ⟨_, (Option.some.inj hv).symm⟩

/-- **A filter that has been read contains texts only.** -/
theorem containsTexts_of_read {s : String} {e : Filter} (h : read s = .ok e) : e.ContainsTexts :=
  containsTexts_of_derives (run_finish_eq_ok_iff.mp h)

end TableQuery.Filter

namespace TableQuery.Predicate

open TableQuery.Filter (Operator)

/-! ## Properties without a column -/

variable {resolve : Resolver}

/-- **If every property has a column, there is a predicate.** -/
theorem ofFilter_of_find?_eq_none {e : Filter}
    (h : e.fields.find? (fun f => (resolve f).isNone) = none) :
    ∃ p, ofFilter resolve e = .ok p := by
  induction e with
  | compare f op v raw =>
    have hf : resolve f ≠ none := by simpa [Filter.fields] using h
    obtain ⟨column, hf⟩ := Option.ne_none_iff_exists'.mp hf
    exact ⟨.compare ⟨column, (ofOperator op v).1, (ofOperator op v).2⟩, by simp [ofFilter, hf]⟩
  | join op l r ihl ihr =>
    rw [Filter.fields, List.find?_append, Option.or_eq_none_iff] at h
    obtain ⟨p, hp⟩ := ihl h.1
    obtain ⟨q, hq⟩ := ihr h.2
    exact ⟨join op p q, by rw [ofFilter, hp, hq]; rfl⟩

/-- **The first property without a column is the error.** -/
theorem ofFilter_of_find?_eq_some {e : Filter} {field : String}
    (h : e.fields.find? (fun f => (resolve f).isNone) = some field) :
    ofFilter resolve e = .error (.unknownField field) := by
  induction e with
  | compare f op v raw =>
    obtain ⟨hf, rfl⟩ : resolve f = none ∧ f = field := by
      simpa [Filter.fields, List.find?_singleton] using h
    simp [ofFilter, hf]
  | join op l r ihl ihr =>
    rw [Filter.fields, List.find?_append, Option.or_eq_some_iff] at h
    rcases h with h | ⟨hl, h⟩
    · rw [ofFilter, ihl h]
      rfl
    · obtain ⟨p, hp⟩ := ofFilter_of_find?_eq_none hl
      rw [ofFilter, hp, ihr h]
      rfl

theorem ofFilter_eq_error_iff {e : Filter} {error : QueryError} :
    ofFilter resolve e = .error error ↔
      ∃ f, e.fields.find? (fun f => (resolve f).isNone) = some f ∧ error = .unknownField f := by
  constructor
  · intro h
    cases hfind : e.fields.find? fun f => (resolve f).isNone with
    | none =>
      obtain ⟨p, hp⟩ := ofFilter_of_find?_eq_none hfind
      cases hp.symm.trans h
    | some f =>
      cases (ofFilter_of_find?_eq_some hfind).symm.trans h
      exact ⟨f, rfl, rfl⟩
  · rintro ⟨f, hfind, rfl⟩
    exact ofFilter_of_find?_eq_some hfind

theorem exists_ofFilter_iff {e : Filter} :
    (∃ p, ofFilter resolve e = .ok p) ↔ ∀ f ∈ e.fields, ∃ column, resolve f = some column := by
  have hfind : e.fields.find? (fun f => (resolve f).isNone) = none ↔
      ∀ f ∈ e.fields, ∃ column, resolve f = some column := by
    simp [List.find?_eq_none, Option.ne_none_iff_exists']
  rw [← hfind]
  refine ⟨fun ⟨p, hp⟩ => ?_, ofFilter_of_find?_eq_none⟩
  cases hsome : e.fields.find? fun f => (resolve f).isNone with
  | none => rfl
  | some f => cases hp.symm.trans (ofFilter_of_find?_eq_some hsome)

/-! ## Comparisons -/

theorem cellMatches_containing (cell : Json) (s : String) :
    cellMatches cell (.text (Pattern.containing s)) = true ↔
      ∃ t, cell = .string t ∧ s.toList <:+: t.toList := by
  cases cell <;> simp [cellMatches, Row.string?, Pattern.isMatch_containing]

/-- A comparator asks for the orders that its operator asks for. -/
theorem asks_ofOperator {op : Operator} (h : op ≠ .contains) (v : Literal) (o : Ordering) :
    (ofOperator op v).1.Asks o ↔ op.Asks o := by
  cases op with
  | contains => exact absurd rfl h
  | ne => cases o <;> simp [ofOperator, Comparator.Asks, Operator.Asks]
  | eq | lt | lte | gt | gte => rfl

/-- **A comparison relates its cell to its literal as its operator says.** -/
theorem comparison_holds_iff {op : Operator} {v : Literal} (column : String) (row : Json)
    (hv : op = .contains → ∃ s, v = .text s) :
    Comparison.holds ⟨column, (ofOperator op v).1, (ofOperator op v).2⟩ row = true ↔
      op.Relates (Row.cell row column) v := by
  by_cases hop : op = .contains
  · obtain ⟨s, rfl⟩ := hv hop
    subst hop
    change cellMatches _ (.text (Pattern.containing s)) = true ↔ _
    rw [cellMatches_containing]
    simp [Operator.Relates]
  · have hholds : Comparison.holds ⟨column, (ofOperator op v).1, (ofOperator op v).2⟩ row
        = (Row.compareLiteral? (Row.cell row column) v).any (ofOperator op v).1.accepts := by
      cases op with
      | contains => exact absurd rfl hop
      | eq | ne | lt | lte | gt | gte => rfl
    have hrelates : op.Relates (Row.cell row column) v ↔
        ∃ o, Row.Stands o (Row.cell row column) v ∧ op.Asks o := by
      cases op with
      | contains => exact absurd rfl hop
      | eq | ne | lt | lte | gt | gte => rfl
    rw [hholds, any_accepts_iff_meets, hrelates]
    simp only [Comparator.Meets, asks_ofOperator hop]

/-! ## Predicates -/

/-- **A row meets the predicate of a filter exactly if the filter holds on it.** -/
theorem holds_iff_means {e : Filter} {p : Predicate} (hp : ofFilter resolve e = .ok p)
    (he : e.ContainsTexts) (row : Json) : p.holds row = true ↔ e.Means resolve row := by
  induction e generalizing p with
  | compare f op v raw =>
    cases hf : resolve f with
    | none => simp [ofFilter, hf] at hp
    | some column =>
      obtain rfl : .compare ⟨column, (ofOperator op v).1, (ofOperator op v).2⟩ = p := by
        simpa [ofFilter, hf] using hp
      rw [holds, comparison_holds_iff column row he]
      simp [Filter.Means, hf]
  | join op l r ihl ihr =>
    rw [ofFilter] at hp
    cases hl : ofFilter resolve l with
    | error => rw [hl] at hp; cases hp
    | ok pl =>
      cases hr : ofFilter resolve r with
      | error => rw [hl, hr] at hp; cases hp
      | ok pr =>
        rw [hl, hr] at hp
        cases hp
        have hleft := ihl hl he.1
        have hright := ihr hr he.2
        cases op <;> simp [join, holds, Filter.Means, hleft, hright]

/-- **A filter keeps its meaning when it becomes a predicate.**  It becomes one exactly if every
property has a column; otherwise the error is its leftmost property without a column.  A row meets
the predicate exactly if the filter holds on that row, provided *contains* has texts only, as it has
in every filter that has been read. -/
theorem ofFilter_preserves_meaning (e : Filter) (resolve : Resolver) :
    ((∃ p, ofFilter resolve e = .ok p) ↔ ∀ f ∈ e.fields, ∃ column, resolve f = some column) ∧
      (∀ error, ofFilter resolve e = .error error ↔
        ∃ f, e.fields.find? (fun f => (resolve f).isNone) = some f ∧ error = .unknownField f) ∧
      (∀ p, ofFilter resolve e = .ok p → e.ContainsTexts →
        ∀ row, p.holds row = true ↔ e.Means resolve row) ∧
      ∀ s, Filter.read s = .ok e → e.ContainsTexts :=
  ⟨exists_ofFilter_iff, fun _ => ofFilter_eq_error_iff, fun _ hp he => holds_iff_means hp he,
    fun _ => Filter.containsTexts_of_read⟩

/-- Wildcards in a text stand for themselves, and two and a half is more than two: the row meets
both comparisons.  So the filter holds on it, which means that the age stands above the literal. -/
theorem ofFilter_wildcards_and_number :
    (Filter.join .and (.compare "name" .contains (.text "50%_") "50%_")
        (.compare "age" .gt (.integer 2) "2")).Means some
      (.object [("name", .string "at 50%_ off"), ("age", .float (.ofRatio false 5 2))]) ∧
    Row.Stands .gt (.float (.ofRatio false 5 2)) (.integer 2) := by
  have hmeaning := ofFilter_preserves_meaning (.join .and
    (.compare "name" .contains (.text "50%_") "50%_") (.compare "age" .gt (.integer 2) "2")) some
  have htexts := hmeaning.2.2.2 "name contains '50%_' and age gt 2" rfl
  have hmeans := (hmeaning.2.2.1 _ rfl htexts
    (.object [("name", .string "at 50%_ off"), ("age", .float (.ofRatio false 5 2))])).mp
      (by decide +kernel)
  refine ⟨hmeans, ?_⟩
  obtain ⟨-, column, hcolumn, o, hstands, hasks⟩ := hmeans
  cases hcolumn
  cases hasks
  exact hstands

end TableQuery.Predicate
