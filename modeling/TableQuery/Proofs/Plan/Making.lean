import Mathlib.Data.List.Forall2
import TableQuery.Plan
import TableQuery.Proofs.Predicate.Meaning
import TableQuery.Proofs.Token.Scanning

/-!
# Proofs/Plan/Making — what becomes of the parts of a query

Three stages of a plan can fail: the limit (`checkTop_eq_error_iff`), the filter
(`compileFilter_eq_error_iff`) and the order (`resolveOrder_eq_error_iff`).  A text of nothing but
white space is set aside before it is read.  That makes no difference to an order, which has no keys
then, and it saves a filter from being malformed.

A query that passes the three stages shapes a backend (`Query.shaped`, `apply_eq_bind`).  Of what
else it holds, zeros and empty texts stand for nothing, and the rest is handed on.
-/

namespace TableQuery

open TableQuery.Text

/-! ## White space -/

/-- **White space is no filter.** -/
theorem Filter.read_of_isBlankText {s : String} (h : isBlankText s.toList = true) :
    ∃ e, Filter.read s = .error e := by
  rw [Filter.read]
  cases hts : Token.tokenize s with
  | nil => exact ⟨_, rfl⟩
  | cons t ts =>
    have hkind : t.kind = .illegal := Token.kind_of_mem_tokenize_blank h (by simp [hts])
    refine ⟨⟨.property, t⟩, ?_⟩
    rw [Reader.run_cons, Reader.start, Reader.step]
    simp only [hkind]
    rfl

/-- What is no word names no key. -/
theorem OrderBy.ofTokens_cons_of_ne {t : Token} {ts : List Token} (h : t.kind ≠ .ident) :
    ofTokens (t :: ts) = ofTokens ts := by
  cases ts with
  | nil => simp [ofTokens, h]
  | cons u ts => simp [ofTokens, h]

/-- **White space has no keys.** -/
theorem OrderBy.read_of_isBlankText {s : String} (h : isBlankText s.toList = true) :
    OrderBy.read s = [] := by
  have hkinds : ∀ t ∈ Token.tokenize s, t.kind ≠ .ident := fun t ht => by
    rw [Token.kind_of_mem_tokenize_blank h ht]
    decide
  rw [OrderBy.read]
  generalize Token.tokenize s = ts at hkinds
  induction ts with
  | nil => rfl
  | cons t ts ih =>
    rw [ofTokens_cons_of_ne (hkinds t (by simp))]
    exact ih fun u hu => hkinds u (by simp [hu])

end TableQuery

namespace TableQuery.Plan

open TableQuery.Text

/-! ## Stages

A stage gives a value or an error, and what stands behind it sees only the value. -/

section Stages

variable {ε α β : Type} {x : Except ε α} {e : ε}

/-- **Two stages fail where the first one fails, or the second one behind it.** -/
theorem bind_eq_error_iff {f : α → Except ε β} :
    (x >>= f) = .error e ↔ x = .error e ∨ ∃ a, x = .ok a ∧ f a = .error e := by
  cases x with
  | error e' => simp [bind, Except.bind]
  | ok a => simp [bind, Except.bind]

theorem bind_eq_ok_iff {f : α → Except ε β} {b : β} :
    (x >>= f) = .ok b ↔ ∃ a, x = .ok a ∧ f a = .ok b := by
  cases x with
  | error e' => simp [bind, Except.bind]
  | ok a => simp [bind, Except.bind]

theorem map_eq_error_iff {f : α → β} : x.map f = .error e ↔ x = .error e := by
  cases x with
  | error e' => simp [Except.map]
  | ok a => simp [Except.map]

end Stages

variable {resolve : Resolver} {options : QueryOptions} {error : QueryError}

/-! ## The limit -/

theorem checkTop_eq_error_iff {top : Nat} : checkTop options top = .error error ↔
    ∃ m, options.maxTop = some m ∧ m < top ∧ error = .topExceedsMaximum top m := by
  unfold checkTop
  split
  · simp_all
  · rename_i m hm
    split
    · simp_all [eq_comm]
    · rename_i hle
      simp [hm, hle]

theorem le_of_checkTop_eq_ok {top m : Nat} (h : checkTop options top = .ok ())
    (hm : options.maxTop = some m) : top ≤ m := by
  by_contra hlt
  have herror := checkTop_eq_error_iff.mpr ⟨m, hm, Nat.lt_of_not_le hlt, rfl⟩
  cases h.symm.trans herror

theorem checkTop_of_le {top : Nat} (h : ∀ m, options.maxTop = some m → top ≤ m) :
    checkTop options top = .ok () := by
  cases htop : checkTop options top with
  | ok => rfl
  | error e =>
    obtain ⟨m, hm, hlt, -⟩ := checkTop_eq_error_iff.mp htop
    exact absurd (h m hm) (Nat.not_le_of_lt hlt)

/-! ## The filter -/

/-- **A filter text is an error if it cannot be read and that matters, or if a property of it has no
column.** -/
theorem compileFilter_eq_error_iff {text : String} :
    compileFilter resolve options text = .error error ↔
      (∃ e, isBlankText text.toList = false ∧ Filter.read text = .error e ∧
        options.malformedFilter = .reject ∧ error = .malformedFilter e) ∨
      ∃ filter f, Filter.read text = .ok filter ∧
        filter.fields.find? (fun f => (resolve f).isNone) = some f ∧ error = .unknownField f := by
  unfold compileFilter
  split
  · rename_i hblank
    obtain ⟨e, he⟩ := Filter.read_of_isBlankText hblank
    simp [hblank, he]
  · rename_i hblank
    cases hread : Filter.read text with
    | ok filter =>
      simp only [map_eq_error_iff, Predicate.ofFilter_eq_error_iff]
      simp
    | error e =>
      cases hpolicy : options.malformedFilter with
      | reject => simp [hblank, eq_comm]
      | ignore => simp

/-! ## The order -/

/-- A key and its column, which sorts the way the key says. -/
def HasColumn (resolve : Resolver) (key : OrderBy) (c : String × Direction) : Prop :=
  resolve key.field = some c.1 ∧ key.direction = c.2

theorem resolveOrder_eq_mapM (text : String) :
    resolveOrder resolve text = (OrderBy.read text).mapM (resolveKey resolve) := by
  unfold resolveOrder
  split
  · rename_i hblank
    rw [OrderBy.read_of_isBlankText hblank]
    rfl
  · rfl

theorem resolveKey_eq_ok_iff {key : OrderBy} {c : String × Direction} :
    resolveKey resolve key = .ok c ↔ HasColumn resolve key c := by
  obtain ⟨column, direction⟩ := c
  unfold resolveKey HasColumn
  split <;> simp_all

theorem resolveKey_eq_error_iff {key : OrderBy} :
    resolveKey resolve key = .error error ↔
      resolve key.field = none ∧ error = .unknownField key.field := by
  unfold resolveKey
  split <;> simp_all [eq_comm]

theorem mapM_resolveKey_eq_ok_iff {keys : List OrderBy} {order : List (String × Direction)} :
    keys.mapM (resolveKey resolve) = .ok order ↔ List.Forall₂ (HasColumn resolve) keys order := by
  induction keys generalizing order with
  | nil => cases order <;> simp [pure, Except.pure]
  | cons key keys ih =>
    rw [List.mapM_cons, bind_eq_ok_iff, List.forall₂_cons_left_iff]
    constructor
    · rintro ⟨c, hc, h⟩
      obtain ⟨cs, hcs, h⟩ := bind_eq_ok_iff.mp h
      exact ⟨c, cs, resolveKey_eq_ok_iff.mp hc, ih.mp hcs, (Except.ok.inj h).symm⟩
    · rintro ⟨c, cs, hc, hcs, rfl⟩
      exact ⟨c, resolveKey_eq_ok_iff.mpr hc, bind_eq_ok_iff.mpr ⟨cs, ih.mpr hcs, rfl⟩⟩

theorem mapM_resolveKey_eq_error_iff {keys : List OrderBy} :
    keys.mapM (resolveKey resolve) = .error error ↔
      ∃ key, keys.find? (fun key => (resolve key.field).isNone) = some key ∧
        error = .unknownField key.field := by
  induction keys with
  | nil => simp [pure, Except.pure]
  | cons key keys ih =>
    have hrest : ∀ c, (keys.mapM (resolveKey resolve) >>= fun cs => pure (c :: cs)) = .error error ↔
        keys.mapM (resolveKey resolve) = .error error := by
      intro c
      rw [bind_eq_error_iff]
      simp [pure, Except.pure]
    rw [List.mapM_cons, bind_eq_error_iff, resolveKey_eq_error_iff]
    simp only [hrest, ih, resolveKey_eq_ok_iff, HasColumn]
    cases hkey : resolve key.field with
    | none => simp [hkey]
    | some column => simp [hkey]

/-- **The columns of an order are those of its keys, in turn.** -/
theorem resolveOrder_eq_ok_iff {text : String} {order : List (String × Direction)} :
    resolveOrder resolve text = .ok order ↔
      List.Forall₂ (HasColumn resolve) (OrderBy.read text) order := by
  rw [resolveOrder_eq_mapM, mapM_resolveKey_eq_ok_iff]

/-- **The first key without a column is the error.** -/
theorem resolveOrder_eq_error_iff {text : String} : resolveOrder resolve text = .error error ↔
    ∃ key, (OrderBy.read text).find? (fun key => (resolve key.field).isNone) = some key ∧
      error = .unknownField key.field := by
  rw [resolveOrder_eq_mapM, mapM_resolveKey_eq_error_iff]

end TableQuery.Plan

namespace TableQuery.Query

open Plan

variable {Q C N : Type}

/-! ## The plan -/

/-- The condition that a search makes, if there is a term to search for and a handler for it. -/
def searched (query : Query) (handler : Option (String → C)) : Option C :=
  if query.search = "" then none else handler.map fun handler => handler query.search

/-- The number of rows to leave out, if there are any. -/
def skipped (query : Query) : Option Nat := if 0 < query.skip then some query.skip else none

/-- The most rows that a query returns; none if there is no limit. -/
def limited (query : Query) (options : QueryOptions) : Option Nat :=
  if 0 < query.top then some query.top else options.maxTop.filter (0 < ·)

/-- **What a query makes of a backend**, given its predicate and the columns of its order. -/
def shaped (query : Query) (options : QueryOptions) (b : Backend Q C N)
    (handler : Option (String → C)) (filter : Option Predicate)
    (order : List (String × Direction)) (q : Q) : Applied Q N :=
  let filtered := filter.elim q (b.filter q)
  let found := (query.searched handler).elim filtered (b.condition filtered)
  let ordered := order.foldl (fun q c => b.orderBy q c.1 c.2) found
  let moved := query.skipped.elim ordered (b.offset ordered)
  ⟨(query.limited options).elim moved (b.limit moved),
    if query.count then some (b.count found) else none⟩

/-- A backend whose queries keep keys one behind the other keeps a whole order, if adding no key
does nothing and adding a key goes before adding the rest. -/
theorem foldl_orderBy (b : Backend Q C N) (withKeys : Q → List (String × Direction) → Q)
    (hnil : ∀ q, withKeys q [] = q)
    (hcons : ∀ q c keys, withKeys (b.orderBy q c.1 c.2) keys = withKeys q (c :: keys))
    (order : List (String × Direction)) (q : Q) :
    order.foldl (fun q c => b.orderBy q c.1 c.2) q = withKeys q order := by
  induction order generalizing q with
  | nil => exact (hnil q).symm
  | cons c order ih => rw [List.foldl_cons, ih, hcons]

theorem limited_eq (query : Query) (options : QueryOptions) :
    (positive? query.top).or (options.maxTop.bind positive?) = query.limited options := by
  unfold limited positive?
  split
  · rfl
  · cases options.maxTop with
    | none => rfl
    | some m => by_cases hm : 0 < m <;> simp [Option.filter, hm]

/-- **A plan that is run shapes the backend as its query says.** -/
theorem run_eq_shaped (query : Query) (options : QueryOptions) (b : Backend Q C N)
    (handler : Option (String → C)) (filter : Option Predicate)
    (order : List (String × Direction)) (q : Q) :
    Plan.run ⟨filter, if query.search.isEmpty then none else some query.search, query.count, order,
        positive? query.skip, (positive? query.top).or (options.maxTop.bind positive?)⟩ b handler q
      = query.shaped options b handler filter order q := by
  rw [limited_eq]
  unfold Plan.run shaped searched
  by_cases hsearch : query.search = ""
  · simp [hsearch, skipped, positive?]
  · cases handler <;> simp [hsearch, skipped, positive?]

/-- **A query passes three stages and then shapes the backend.** -/
theorem apply_eq_bind (query : Query) (resolve : Resolver) (options : QueryOptions)
    (b : Backend Q C N) (handler : Option (String → C)) (q : Q) :
    query.apply resolve options b handler q = (do
      checkTop options query.top
      let filter ← compileFilter resolve options query.filter
      let order ← resolveOrder resolve query.orderBy
      return query.shaped options b handler filter order q) := by
  unfold apply Plan.make
  simp only [bind_assoc, pure_bind, run_eq_shaped]

theorem exists_of_apply_eq_ok {query : Query} {resolve : Resolver} {options : QueryOptions}
    {b : Backend Q C N} {handler : Option (String → C)} {q : Q} {applied : Applied Q N}
    (h : query.apply resolve options b handler q = .ok applied) :
    ∃ filter order, checkTop options query.top = .ok () ∧
      compileFilter resolve options query.filter = .ok filter ∧
      resolveOrder resolve query.orderBy = .ok order ∧
      applied = query.shaped options b handler filter order q := by
  rw [apply_eq_bind] at h
  obtain ⟨_, htop, h⟩ := bind_eq_ok_iff.mp h
  obtain ⟨filter, hfilter, h⟩ := bind_eq_ok_iff.mp h
  obtain ⟨order, horder, h⟩ := bind_eq_ok_iff.mp h
  exact ⟨filter, order, htop, hfilter, horder, (Except.ok.inj h).symm⟩

theorem apply_of_stages (query : Query) {resolve : Resolver} (options : QueryOptions)
    {filter : Option Predicate} {order : List (String × Direction)}
    (htop : checkTop options query.top = .ok ())
    (hfilter : compileFilter resolve options query.filter = .ok filter)
    (horder : resolveOrder resolve query.orderBy = .ok order) (b : Backend Q C N)
    (handler : Option (String → C)) (q : Q) :
    query.apply resolve options b handler q
      = .ok (query.shaped options b handler filter order q) := by
  rw [apply_eq_bind, htop, hfilter, horder]
  rfl

end TableQuery.Query
