import TableQuery.Proofs.Plan.Making

/-!
# Proofs/Plan/Refusal — a query is refused before a backend is touched

Four reasons refuse a query, and they rank: it asks for too much, its filter cannot be read, its
filter names a property without a column, its order does.  The first reason that applies is the
error (`apply_eq_error_iff`), whatever the backend is.  That nothing has been done to the backend by
then shows only where a failure keeps the backend's state: `Query.perform` is the query carried out
on a state step by step.  It ends as the plan ends, and with the state as it was if the query is
refused (`outcome_perform`).
-/

namespace TableQuery.Query

open TableQuery.Text Plan

variable {Q C N : Type}

/-! ## Reasons -/

/-- The query asks for more than is allowed. -/
def AsksTooMuch (options : QueryOptions) (query : Query) (e : QueryError) : Prop :=
  ∃ m, options.maxTop = some m ∧ m < query.top ∧ e = .topExceedsMaximum query.top m

/-- The filter is not blank and cannot be read, and that is not to be ignored. -/
def HasMalformedFilter (options : QueryOptions) (query : Query) (e : QueryError) : Prop :=
  ∃ cause, isBlankText query.filter.toList = false ∧ Filter.read query.filter = .error cause ∧
    options.malformedFilter = .reject ∧ e = .malformedFilter cause

/-- A property of the filter has no column, and it is the leftmost one. -/
def FiltersUnknownField (resolve : Resolver) (query : Query) (e : QueryError) : Prop :=
  ∃ filter f, Filter.read query.filter = .ok filter ∧
    filter.fields.find? (fun f => (resolve f).isNone) = some f ∧ e = .unknownField f

/-- A key of the order has no column, and it is the first one. -/
def OrdersByUnknownField (resolve : Resolver) (query : Query) (e : QueryError) : Prop :=
  ∃ key, (OrderBy.read query.orderBy).find? (fun key => (resolve key.field).isNone) = some key ∧
    e = .unknownField key.field

/-- **The first of several reasons**: one counts only if none in front of it applies. -/
def FirstOf : List (QueryError → Prop) → QueryError → Prop
  | [], _ => False
  | reason :: reasons, e => reason e ∨ (∀ e', ¬ reason e') ∧ FirstOf reasons e

/-- **Why a query is refused.** -/
def Refused (resolve : Resolver) (options : QueryOptions) (query : Query) : QueryError → Prop :=
  FirstOf [AsksTooMuch options query, HasMalformedFilter options query,
    FiltersUnknownField resolve query, OrdersByUnknownField resolve query]

/-! ## Stages rank reasons -/

/-- **A stage that is passed leaves the reasons of the stages behind it.** -/
theorem bind_eq_error_iff_firstOf {α β : Type} {x : Except QueryError α}
    {f : α → Except QueryError β} {reason : QueryError → Prop}
    {reasons : List (QueryError → Prop)} (hx : ∀ e, x = .error e ↔ reason e)
    (hf : ∀ a e, f a = .error e ↔ FirstOf reasons e) (e : QueryError) :
    (x >>= f) = .error e ↔ FirstOf (reason :: reasons) e := by
  rw [bind_eq_error_iff, FirstOf, hx]
  cases x with
  | error e' =>
    have hsome : ¬ ∀ e', ¬ reason e' := fun h => h e' ((hx e').mp rfl)
    simp [hsome]
  | ok a =>
    have hnone : ∀ e', ¬ reason e' := fun e' he' => by cases (hx e').mpr he'
    simp [hnone, hf]

/-- Two reasons that exclude each other rank in either order. -/
theorem firstOf_or {P R : QueryError → Prop} {reasons : List (QueryError → Prop)}
    (h : ∀ {e e'}, R e → ¬ P e') (e : QueryError) :
    FirstOf ((fun e => P e ∨ R e) :: reasons) e ↔ FirstOf (P :: R :: reasons) e := by
  simp only [FirstOf, not_or, forall_and]
  constructor
  · rintro ((hp | hr) | ⟨⟨hp, hr⟩, hrest⟩)
    · exact Or.inl hp
    · exact Or.inr ⟨fun _ => h hr, Or.inl hr⟩
    · exact Or.inr ⟨hp, Or.inr ⟨hr, hrest⟩⟩
  · rintro (hp | ⟨hp, hr | ⟨hr, hrest⟩⟩)
    · exact Or.inl (Or.inl hp)
    · exact Or.inl (Or.inr hr)
    · exact Or.inr ⟨⟨hp, hr⟩, hrest⟩

variable {resolve : Resolver} {options : QueryOptions} {query : Query}

theorem not_hasMalformedFilter {e e' : QueryError} (h : FiltersUnknownField resolve query e) :
    ¬ HasMalformedFilter options query e' := by
  obtain ⟨filter, _, hread, _⟩ := h
  rintro ⟨cause, _, hread', _⟩
  cases hread.symm.trans hread'

/-- **There is no plan for a query exactly if a reason refuses it**, and the reasons rank. -/
theorem make_eq_error_iff {e : QueryError} :
    Plan.make resolve options query = .error e ↔ Refused resolve options query e := by
  unfold Plan.make Refused
  refine bind_eq_error_iff_firstOf (fun _ => checkTop_eq_error_iff) (fun _ e => ?_) e
  rw [← firstOf_or not_hasMalformedFilter]
  refine bind_eq_error_iff_firstOf (fun _ => compileFilter_eq_error_iff) (fun _ e => ?_) e
  refine bind_eq_error_iff_firstOf (fun _ => resolveOrder_eq_error_iff) (fun _ _ => ?_) e
  exact iff_false_intro fun h => by cases h

/-- **The first reason that applies is the error, on every backend.** -/
theorem apply_eq_error_iff {b : Backend Q C N} {handler : Option (String → C)} {q : Q}
    {e : QueryError} :
    query.apply resolve options b handler q = .error e ↔ Refused resolve options query e := by
  rw [← make_eq_error_iff, apply, bind_eq_error_iff]
  simp [pure, Except.pure]

/-! ## A backend whose state outlives a failure -/

/-- Steps that change the state of a backend, or fail and leave it as it is. -/
abbrev Steps (Q : Type) := ExceptT QueryError (StateM Q)

/-- How steps end, and the state behind them. -/
def Steps.outcome {α : Type} (steps : Steps Q α) (q : Q) : Except QueryError α × Q :=
  steps.run.run q

/-- An operation of a backend, if there is something to call it with. -/
def Steps.on {α : Type} (operation : Q → α → Q) : Option α → Steps Q Unit
  | none => pure ()
  | some a => modify fun q => operation q a

/-- **A query carried out on a state, step by step.** -/
def perform (query : Query) (resolve : Resolver) (options : QueryOptions) (b : Backend Q C N)
    (handler : Option (String → C)) : Steps Q (Option N) := do
  liftExcept (checkTop options query.top)
  let filter ← liftExcept (compileFilter resolve options query.filter)
  let order ← liftExcept (resolveOrder resolve query.orderBy)
  Steps.on b.filter filter
  Steps.on b.condition (query.searched handler)
  let found ← get
  order.forM fun c => modify fun q => b.orderBy q c.1 c.2
  Steps.on b.offset query.skipped
  Steps.on b.limit (query.limited options)
  return if query.count then some (b.count found) else none

theorem Steps.outcome_on_bind {α β : Type} (operation : Q → α → Q) (a : Option α)
    (rest : Unit → Steps Q β) (q : Q) :
    (Steps.on operation a >>= rest).outcome q = (rest ()).outcome (a.elim q (operation q)) := by
  cases a <;> rfl

theorem Steps.outcome_forM_bind {α β : Type} (operation : Q → α → Q) (as : List α)
    (rest : Unit → Steps Q β) (q : Q) :
    ((as.forM fun a => modify fun q => operation q a) >>= rest).outcome q
      = (rest ()).outcome (as.foldl operation q) := by
  induction as generalizing q with
  | nil => rfl
  | cons a as ih => exact ih (operation q a)

/-- The steps behind the last one that can fail shape the backend. -/
theorem Steps.outcome_shaping (b : Backend Q C N) (handler : Option (String → C))
    (filter : Option Predicate) (order : List (String × Direction)) (q : Q) :
    Steps.outcome (do
        Steps.on b.filter filter
        Steps.on b.condition (query.searched handler)
        let found ← get
        order.forM fun c => modify fun q => b.orderBy q c.1 c.2
        Steps.on b.offset query.skipped
        Steps.on b.limit (query.limited options)
        return if query.count then some (b.count found) else none) q
      = (.ok (query.shaped options b handler filter order q).count,
        (query.shaped options b handler filter order q).query) := by
  rw [Steps.outcome_on_bind, Steps.outcome_on_bind]
  change Steps.outcome ((order.forM _) >>= _) _ = _
  rw [Steps.outcome_forM_bind fun q (c : String × Direction) => b.orderBy q c.1 c.2,
    Steps.outcome_on_bind, Steps.outcome_on_bind]
  rfl

/-- **A query that is refused leaves the state as it was**, and one that is not ends as its plan
does. -/
theorem outcome_perform (b : Backend Q C N) (handler : Option (String → C)) (q : Q) :
    (query.perform resolve options b handler).outcome q
      = match query.apply resolve options b handler q with
        | .ok applied => (.ok applied.count, applied.query)
        | .error e => (.error e, q) := by
  rw [apply_eq_bind]
  unfold perform
  cases checkTop options query.top with
  | error e => rfl
  | ok =>
    cases compileFilter resolve options query.filter with
    | error e => rfl
    | ok filter =>
      cases resolveOrder resolve query.orderBy with
      | error e => rfl
      | ok order => exact Steps.outcome_shaping b handler filter order q

/-! ## Filters that cannot be read -/

/-- A filter that can be read is not malformed, whatever becomes of malformed ones. -/
theorem apply_ignore_of_read_eq_ok {filter : Filter} (h : Filter.read query.filter = .ok filter)
    (b : Backend Q C N) (handler : Option (String → C)) (q : Q) :
    query.apply resolve { options with malformedFilter := .ignore } b handler q
      = query.apply resolve { options with malformedFilter := .reject } b handler q := by
  have hfilter : compileFilter resolve { options with malformedFilter := .ignore } query.filter
      = compileFilter resolve { options with malformedFilter := .reject } query.filter := by
    simp only [compileFilter, h]
  rw [apply_eq_bind, apply_eq_bind, hfilter]
  rfl

/-- **A filter that is ignored is no filter.** -/
theorem apply_ignore_of_read_eq_error {cause : Filter.ReadError}
    (h : Filter.read query.filter = .error cause) (b : Backend Q C N)
    (handler : Option (String → C)) (q : Q) :
    query.apply resolve { options with malformedFilter := .ignore } b handler q
      = { query with filter := "" }.apply resolve { options with malformedFilter := .reject }
        b handler q := by
  have hignored : compileFilter resolve { options with malformedFilter := .ignore } query.filter
      = .ok none := by simp [compileFilter, h]
  have hempty : compileFilter resolve { options with malformedFilter := .reject } "" = .ok none :=
    rfl
  rw [apply_eq_bind, apply_eq_bind, hignored, hempty]
  rfl

/-- **Whether a query is refused, and why, is decided before a backend is touched.**  On every
backend the error is the first of four reasons; a backend that keeps its state is left as it was.
Offset, count, search and selection have no part in it.  If malformed filters are ignored, one that
cannot be read counts as none, and nothing else changes: above all, a filter that can be read is
still refused for a property without a column. -/
theorem refusal_precedes_backend (resolve : Resolver) (options : QueryOptions) (query : Query) :
    (∀ {Q C N : Type} (b : Backend Q C N) (handler : Option (String → C)) (q : Q),
      (∀ e, query.apply resolve options b handler q = .error e ↔ Refused resolve options query e) ∧
      ((query.perform resolve options b handler).outcome q
        = match query.apply resolve options b handler q with
          | .ok applied => (.ok applied.count, applied.query)
          | .error e => (.error e, q)) ∧
      (∀ filter, Filter.read query.filter = .ok filter →
        query.apply resolve { options with malformedFilter := .ignore } b handler q
          = query.apply resolve { options with malformedFilter := .reject } b handler q) ∧
      ∀ cause, Filter.read query.filter = .error cause →
        query.apply resolve { options with malformedFilter := .ignore } b handler q
          = { query with filter := "" }.apply resolve { options with malformedFilter := .reject }
            b handler q) ∧
      (∀ skip count search select e,
        Refused resolve options { query with skip, count, search, select } e ↔
          Refused resolve options query e) ∧
      ∀ filter f, Filter.read query.filter = .ok filter →
        filter.fields.find? (fun f => (resolve f).isNone) = some f →
        (∀ m, options.maxTop = some m → query.top ≤ m) →
        Refused resolve { options with malformedFilter := .ignore } query (.unknownField f) := by
  refine ⟨fun b handler q => ⟨fun e => apply_eq_error_iff, outcome_perform b handler q,
    fun filter h => apply_ignore_of_read_eq_ok h b handler q,
    fun cause h => apply_ignore_of_read_eq_error h b handler q⟩, fun _ _ _ _ _ => Iff.rfl, ?_⟩
  intro filter f hread hfind htop
  have hunknown : FiltersUnknownField resolve query (.unknownField f) :=
    ⟨filter, f, hread, hfind, rfl⟩
  refine Or.inr ⟨?_, Or.inr ⟨fun _ => not_hasMalformedFilter hunknown, Or.inl hunknown⟩⟩
  rintro e ⟨m, hm, hlt, rfl⟩
  exact absurd (htop m hm) (Nat.not_le_of_lt hlt)

/-- A backend that counts its calls has counted none: the property that the filter names behind a
known one has no column, and neither has the key of the order, which comes later. -/
theorem refused_filter_makes_no_call :
    (Query.perform { filter := "age eq 1 or size lt 2", orderBy := "weight", skip := 3 }
        (fun f => if f = "age" then some f else none) { malformedFilter := .ignore }
        (⟨fun n _ => n + 1, fun n _ => n + 1, id, fun n _ _ => n + 1, fun n _ => n + 1,
          fun n _ => n + 1⟩ : Backend Nat Unit Nat) none).outcome 7
      = (.error (.unknownField "size"), 7) := by
  have hrefusal := refusal_precedes_backend (fun f => if f = "age" then some f else none)
    { malformedFilter := .ignore }
    { filter := "age eq 1 or size lt 2", orderBy := "weight", skip := 3 }
  have hrefused := hrefusal.2.2 _ "size" rfl (by decide) (by simp)
  rw [(hrefusal.1 _ none 7).2.1, ((hrefusal.1 _ none 7).1 _).mpr hrefused]

end TableQuery.Query
