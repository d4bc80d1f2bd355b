import TableQuery.Proofs.Plan.Making

/-!
# Proofs/Plan/Calls — the calls that a query makes on a backend

A query that is not refused makes a fixed list of calls (`Query.calls`): filter, search, count,
order, offset, limit, each only if the query asks for it.  On every backend the query leaves behind
what these calls, made one after the other, leave behind (`performAll_calls`); on a backend that
does nothing but write its calls down that is the list itself (`recorder`).
-/

namespace TableQuery

variable {Q C N : Type}

namespace Backend

/-- A call on a backend. -/
inductive Call (C : Type) where
  | filter (p : Predicate)
  | condition (c : C)
  | count
  | orderBy (column : String) (direction : Direction)
  | offset (n : Nat)
  | limit (n : Nat)

/-- What a call makes of a backend; a count leaves it as it is and is reported. -/
def perform (b : Backend Q C N) (a : Applied Q N) : Call C → Applied Q N
  | .filter p => { a with query := b.filter a.query p }
  | .condition c => { a with query := b.condition a.query c }
  | .count => { a with count := some (b.count a.query) }
  | .orderBy column direction => { a with query := b.orderBy a.query column direction }
  | .offset n => { a with query := b.offset a.query n }
  | .limit n => { a with query := b.limit a.query n }

/-- What calls make of a backend, one after the other. -/
def performAll (b : Backend Q C N) (q : Q) (calls : List (Call C)) : Applied Q N :=
  calls.foldl b.perform ⟨q, none⟩

/-- A backend that writes its calls down.  A count is the list of the calls before it. -/
def recorder : Backend (List (Call C)) C (List (Call C)) where
  filter calls p := calls ++ [.filter p]
  condition calls c := calls ++ [.condition c]
  count := id
  orderBy calls column direction := calls ++ [.orderBy column direction]
  offset calls n := calls ++ [.offset n]
  limit calls n := calls ++ [.limit n]

/-- Whether a call sets a limit. -/
def Call.isLimit : Call C → Bool
  | .limit _ => true
  | _ => false

end Backend

namespace Query

open Plan Backend

/-- The calls that choose rows: the filter, then the search. -/
def selectingCalls (query : Query) (handler : Option (String → C)) (filter : Option Predicate) :
    List (Call C) :=
  filter.toList.map .filter ++ (query.searched handler).toList.map .condition

/-- The calls that sort rows and cut out a page. -/
def pagingCalls (query : Query) (options : QueryOptions) (order : List (String × Direction)) :
    List (Call C) :=
  order.map (fun c => .orderBy c.1 c.2) ++ query.skipped.toList.map .offset ++
    (query.limited options).toList.map .limit

/-- **The calls that a query makes**, given its predicate and the columns of its order. -/
def calls (query : Query) (options : QueryOptions) (handler : Option (String → C))
    (filter : Option Predicate) (order : List (String × Direction)) : List (Call C) :=
  query.selectingCalls handler filter ++ (if query.count then [.count] else []) ++
    query.pagingCalls options order

/-! ## What the calls leave behind -/

/-- **Calls of one kind repeat one operation** of the backend, and no count is taken. -/
theorem foldl_perform_map {α : Type} {b : Backend Q C N} (call : α → Call C)
    (operation : Q → α → Q)
    (h : ∀ a x, b.perform a (call x) = { a with query := operation a.query x }) (xs : List α)
    (a : Applied Q N) :
    (xs.map call).foldl b.perform a = { a with query := xs.foldl operation a.query } := by
  induction xs generalizing a with
  | nil => rfl
  | cons x xs ih =>
    rw [List.map_cons, List.foldl_cons, h, ih]
    rfl

theorem foldl_toList {α β : Type} (f : β → α → β) (o : Option α) (x : β) :
    o.toList.foldl f x = o.elim x (f x) := by
  cases o <;> rfl

theorem performAll_selectingCalls (b : Backend Q C N) (query : Query)
    (handler : Option (String → C)) (filter : Option Predicate) (q : Q) :
    b.performAll q (query.selectingCalls handler filter)
      = ⟨(query.searched handler).elim (filter.elim q (b.filter q))
          (b.condition (filter.elim q (b.filter q))), none⟩ := by
  rw [performAll, selectingCalls, List.foldl_append,
    foldl_perform_map .filter b.filter fun _ _ => rfl,
    foldl_perform_map .condition b.condition fun _ _ => rfl, foldl_toList, foldl_toList]

/-- **The calls of a query shape the backend as the query says.** -/
theorem performAll_calls (b : Backend Q C N) (query : Query) (options : QueryOptions)
    (handler : Option (String → C)) (filter : Option Predicate)
    (order : List (String × Direction)) (q : Q) :
    b.performAll q (query.calls options handler filter order)
      = query.shaped options b handler filter order q := by
  have hcount : ∀ found, (if query.count then [.count] else []).foldl b.perform ⟨found, none⟩
      = ⟨found, if query.count then some (b.count found) else none⟩ := by
    intro found
    split <;> rfl
  have hselecting := performAll_selectingCalls b query handler filter q
  rw [performAll] at hselecting
  rw [performAll, calls, List.foldl_append, List.foldl_append, hselecting, hcount, pagingCalls,
    List.foldl_append, List.foldl_append,
    foldl_perform_map (fun c : String × Direction => .orderBy c.1 c.2)
      (fun q c => b.orderBy q c.1 c.2) fun _ _ => rfl,
    foldl_perform_map .offset b.offset fun _ _ => rfl,
    foldl_perform_map .limit b.limit fun _ _ => rfl, foldl_toList, foldl_toList]
  rfl

/-- **A recorder writes down the calls that are made on it**, in their order. -/
theorem foldl_perform_recorder {calls : List (Call C)} (h : ∀ call ∈ calls, call ≠ .count)
    (a : Applied (List (Call C)) (List (Call C))) :
    calls.foldl recorder.perform a = { a with query := a.query ++ calls } := by
  induction calls generalizing a with
  | nil => simp
  | cons call calls ih =>
    have hcall : recorder.perform a call = { a with query := a.query ++ [call] } := by
      cases call with
      | count => exact absurd rfl (h _ (by simp))
      | filter | condition | orderBy | offset | limit => rfl
    rw [List.foldl_cons, hcall, ih fun c hc => h c (by simp [hc])]
    simp

theorem performAll_recorder_calls (query : Query) (options : QueryOptions)
    (handler : Option (String → C)) (filter : Option Predicate)
    (order : List (String × Direction)) :
    recorder.performAll [] (query.calls options handler filter order)
      = ⟨query.selectingCalls handler filter ++ query.pagingCalls options order,
        if query.count then some (query.selectingCalls handler filter) else none⟩ := by
  have hselecting : ∀ call ∈ query.selectingCalls handler filter, call ≠ .count := by
    simp only [selectingCalls, List.mem_append, List.mem_map]
    rintro call (⟨p, -, rfl⟩ | ⟨c, -, rfl⟩) h <;> cases h
  have hpaging : ∀ call ∈ query.pagingCalls options order, call ≠ (.count : Call C) := by
    simp only [pagingCalls, List.mem_append, List.mem_map]
    rintro call ((⟨c, -, rfl⟩ | ⟨n, -, rfl⟩) | ⟨n, -, rfl⟩) h <;> cases h
  rw [performAll, calls, List.foldl_append, List.foldl_append, foldl_perform_recorder hselecting,
    foldl_perform_recorder hpaging]
  split <;> rfl

/-! ## The limit -/

/-- The one call that sets a limit is the last one. -/
theorem filter_isLimit_calls (query : Query) (options : QueryOptions)
    (handler : Option (String → C)) (filter : Option Predicate)
    (order : List (String × Direction)) :
    (query.calls options handler filter order).filter Call.isLimit
      = (query.limited options).toList.map .limit := by
  have hcount : ∀ asked : Bool,
      (if asked then [.count] else [] : List (Call C)).filter Call.isLimit = [] := by
    intro asked
    cases asked <;> rfl
  simp only [calls, selectingCalls, pagingCalls, List.filter_append, List.filter_map, hcount]
  simp [Function.comp_def, Call.isLimit]

/-- **Where a maximum is set, the limit keeps to it.** -/
theorem limited_of_maxTop {query : Query} {options : QueryOptions} {m : Nat}
    (hm : options.maxTop = some m) (hpos : 0 < m) (htop : query.top ≤ m) :
    ∃ n, query.limited options = some n ∧ 1 ≤ n ∧ n ≤ m := by
  unfold limited
  split
  · rename_i h
    exact ⟨query.top, rfl, h, htop⟩
  · exact ⟨m, by simp [hm, hpos], hpos, Nat.le_refl m⟩

/-- **A query makes its calls in one order, on every backend.**  The filter comes first, if the text
of the filter gives a predicate; then the search, if there is a term and a handler for it; then the
count; then the keys of the order, one by one as the text names them; then the offset, if it is not
zero; then the limit.  A recorder holds exactly these calls.  The count is that of the rows behind
filter and search.  Where a maximum is set that is not zero, there is one limit, and it is at least
one and at most the maximum. -/
theorem apply_makes_calls_in_order (b : Backend Q C N) (resolve : Resolver)
    (options : QueryOptions) (query : Query) (handler : Option (String → C)) (q : Q)
    (applied : Applied Q N) (h : query.apply resolve options b handler q = .ok applied) :
    ∃ filter order, compileFilter resolve options query.filter = .ok filter ∧
      List.Forall₂ (HasColumn resolve) (OrderBy.read query.orderBy) order ∧
      applied = b.performAll q (query.calls options handler filter order) ∧
      applied.count = (if query.count
        then some (b.count (b.performAll q (query.selectingCalls handler filter)).query)
        else none) ∧
      query.apply resolve options recorder handler []
        = .ok ⟨query.selectingCalls handler filter ++ query.pagingCalls options order,
          if query.count then some (query.selectingCalls handler filter) else none⟩ ∧
      ∀ m, options.maxTop = some m → 0 < m →
        ∃ n, (query.calls options handler filter order).filter Call.isLimit = [.limit n] ∧
          1 ≤ n ∧ n ≤ m := by
  obtain ⟨filter, order, htop, hfilter, horder, rfl⟩ := exists_of_apply_eq_ok h
  refine ⟨filter, order, hfilter, resolveOrder_eq_ok_iff.mp horder,
    (performAll_calls b query options handler filter order q).symm, ?_, ?_, ?_⟩
  · rw [performAll_selectingCalls]
    rfl
  · rw [apply_eq_bind, htop, hfilter, horder, ← performAll_recorder_calls, performAll_calls]
    rfl
  · intro m hm hpos
    obtain ⟨n, hn, hbounds⟩ := limited_of_maxTop hm hpos (le_of_checkTop_eq_ok htop hm)
    refine ⟨n, ?_, hbounds⟩
    rw [filter_isLimit_calls, hn]
    rfl

/-- A query without a limit of its own, where four rows are allowed: the limit is four, and it is
the last of the six calls that are written down. -/
theorem recorded_calls_of_full_query :
    let query : Query :=
      { skip := 1, count := true, orderBy := "age desc, id", search := "jo", filter := "age gt 1" }
    ∃ filter order,
      query.selectingCalls (some id) filter ++ query.pagingCalls { maxTop := some 4 } order
        = [.filter (.compare ⟨"age", .greater, .integer 1⟩), .condition "jo",
          .orderBy "age" .descending, .orderBy "id" .ascending, .offset 1, .limit 4] ∧
      ∃ n, (query.calls { maxTop := some 4 } (some id) filter order).filter Call.isLimit
        = [.limit n] ∧ 1 ≤ n ∧ n ≤ 4 := by
  have happlied : Query.apply
      { skip := 1, count := true, orderBy := "age desc, id", search := "jo", filter := "age gt 1" }
      some { maxTop := some 4 } recorder (some id) []
      = .ok ⟨[.filter (.compare ⟨"age", .greater, .integer 1⟩), .condition "jo",
          .orderBy "age" .descending, .orderBy "id" .ascending, .offset 1, .limit 4],
        some [.filter (.compare ⟨"age", .greater, .integer 1⟩), .condition "jo"]⟩ := rfl
  obtain ⟨filter, order, -, -, -, -, hrecorded, hlimit⟩ :=
    apply_makes_calls_in_order _ _ _ _ _ _ _ happlied
  have hcalls := congrArg Applied.query (Except.ok.inj (hrecorded.symm.trans happlied))
  exact ⟨filter, order, hcalls, hlimit 4 rfl (by decide)⟩

end Query

end TableQuery
