import TableQuery.Proofs.Row.Answer

/-!
# Proofs/Row/Paging — the pages of a query, one behind the other

A client that cannot take a result at once asks for it **page** by page: the same query, with an
offset that grows by the size of a page.  Every page filters, searches and sorts all rows anew, and
all of them do it alike, so the pages are cut from one list (`toRows_page`) and put together they
are that list (`take_mul_eq_flatten`); and if the rows cannot be sorted, that is so for every page.
Zero stands for no offset and for no limit; that does no harm to the first page, which has no
offset, and to none that has room for a row.
-/

namespace TableQuery

open Selection

/-- The options of a resource that sets no limit. -/
def QueryOptions.unlimited (options : QueryOptions) : QueryOptions :=
  { options with maxTop := none }

namespace Query

/-- The query for the `i`-th page of `k` rows. -/
def page (query : Query) (k i : Nat) : Query := { query with skip := i * k, top := k }

/-- The query for all rows at once. -/
def whole (query : Query) : Query := { query with skip := 0, top := 0 }

/-! ## What pages have in common -/

/-- A page limits itself. -/
theorem limited_page (query : Query) (options : QueryOptions) {k : Nat} (hk : 1 ≤ k) (i : Nat) :
    (query.page k i).limited options = some k := if_pos hk

theorem limited_whole (query : Query) (options : QueryOptions) :
    query.whole.limited options.unlimited = none := rfl

/-- **The `i`-th page is cut from the whole.** -/
theorem toRows_page (query : Query) (options : QueryOptions)
    (handler : Option (String → Json → Bool)) (filter : Option Predicate)
    (order : List (String × Direction)) (rows : List Json) {k : Nat} (hk : 1 ≤ k) (i : Nat) :
    ((query.page k i).shaped options backend handler filter order { rows }).query.toRows
      = (query.whole.shaped options.unlimited backend handler filter order
          { rows }).query.toRows.map fun all => (all.drop (i * k)).take k := by
  rw [shaped_eq_selection, shaped_eq_selection, limited_page query options hk, limited_whole]
  simp only [toRows, Option.map_map]
  rfl

/-- **Pieces of one length, one behind the other, are the beginning of a list.** -/
theorem take_mul_eq_flatten {α : Type} (xs : List α) (k m : Nat) :
    xs.take (m * k) = ((List.range m).map fun i => (xs.drop (i * k)).take k).flatten := by
  induction m with
  | zero => simp
  | succ m ih => simp [Nat.succ_mul, List.take_add, ih, List.range_succ]

/-- The whole has as many rows as the query keeps. -/
theorem length_of_toRows_whole {query : Query} {options : QueryOptions}
    {handler : Option (String → Json → Bool)} {filter : Option Predicate}
    {order : List (String × Direction)} {rows all : List Json}
    (h : (query.whole.shaped options.unlimited backend handler filter order { rows }).query.toRows
      = some all) : all.length = (rows.filter (query.keeps handler filter)).length := by
  rw [shaped_eq_selection, limited_whole] at h
  obtain ⟨sorted, hsorted, rfl⟩ := Option.map_eq_some_iff.mp h
  exact (sorts_of_sortRows hsorted).perm.length_eq

theorem exists_toRows_whole (query : Query) (options : QueryOptions)
    (handler : Option (String → Json → Bool)) (filter : Option Predicate)
    (order : List (String × Direction)) (rows : List Json)
    (h : Ranks order (rows.filter (query.keeps handler filter)) ∨
      (rows.filter (query.keeps handler filter)).length ≤ 20) :
    ∃ all, (query.whole.shaped options.unlimited backend handler filter order { rows }).query.toRows
      = some all := by
  rw [shaped_eq_selection]
  obtain ⟨sorted, hsorted⟩ := exists_sortRows h
  exact ⟨_, congrArg (Option.map _) hsorted⟩

/-- Pieces that are all cut from one list make it up if they reach its end; and there is a piece to
fail if there is no list. -/
theorem mapM_pieces {α : Type} {whole : Option (List α)} {piece : Nat → Option (List α)} {k m : Nat}
    (hpiece : ∀ i, piece i = whole.map fun all => (all.drop (i * k)).take k)
    (hlength : ∀ all, whole = some all → all.length ≤ m * k) (hnone : whole = none → 0 < m) :
    ((List.range m).mapM piece).map List.flatten = whole := by
  cases whole with
  | none =>
    obtain ⟨m, rfl⟩ := Nat.exists_eq_add_of_lt (hnone rfl)
    have hfirst : piece 0 = none := hpiece 0
    simp [List.range_succ_eq_map, hfirst]
  | some all =>
    have hpiece : piece = fun i => pure ((all.drop (i * k)).take k) := funext hpiece
    rw [hpiece, List.mapM_pure]
    refine congrArg some ?_
    rw [← take_mul_eq_flatten, List.take_of_length_le (hlength all rfl)]

/-- **The pages of a query make up its result.**  If a query can be applied, it can be applied for
all rows at once and for every page.  The `i`-th page has the `k` rows of the whole from the place
`i * k` on; put together, as many pages as reach the number of rows that the query keeps are the
whole; and every page counts all rows that the query keeps.  The whole has rows, and so have the
pages, if the keys rank the rows that the query keeps or if these are few; rows that cannot be
sorted have neither a whole nor pages. -/
theorem pages_make_up_result (rows : List Json) (resolve : Resolver) (options : QueryOptions)
    (query : Query) (handler : Option (String → Json → Bool)) (k : Nat)
    (applied : Applied Selection Nat) (hk : 1 ≤ k) (hmax : ∀ m, options.maxTop = some m → k ≤ m)
    (h : query.apply resolve options backend handler { rows } = .ok applied) :
    ∃ filter order kept, Plan.compileFilter resolve options query.filter = .ok filter ∧
      Plan.resolveOrder resolve query.orderBy = .ok order ∧
      kept = rows.filter (query.keeps handler filter) ∧
      ∃ (all : Applied Selection Nat) (page : Nat → Applied Selection Nat),
        query.whole.apply resolve options.unlimited backend handler { rows } = .ok all ∧
        (∀ i, (query.page k i).apply resolve options backend handler { rows } = .ok (page i)) ∧
        (∀ i, (page i).query.toRows
          = all.query.toRows.map fun whole => (whole.drop (i * k)).take k) ∧
        (∀ m, kept.length ≤ m * k →
          ((List.range m).mapM fun i => (page i).query.toRows).map List.flatten
            = all.query.toRows) ∧
        (Ranks order kept ∨ kept.length ≤ 20 → ∃ whole, all.query.toRows = some whole) ∧
        (all.query.toRows = none ↔ sortRows order kept = none) ∧
        ∀ i, (page i).count = if query.count then some kept.length else none := by
  obtain ⟨filter, order, -, hfilter, horder, -⟩ := exists_of_apply_eq_ok h
  have hwhole := apply_of_stages query.whole options.unlimited rfl hfilter horder backend handler
    { rows }
  have hpage := fun i => apply_of_stages (query.page k i) options (Plan.checkTop_of_le hmax) hfilter
    horder backend handler { rows }
  have hcut := fun i => toRows_page query options handler filter order rows hk i
  have hreturns := exists_toRows_whole query options handler filter order rows
  refine ⟨filter, order, _, hfilter, horder, rfl, _, _, hwhole, hpage, hcut, ?_, hreturns, ?_, ?_⟩
  · intro m hm
    refine mapM_pieces hcut (fun all hall => ?_) fun hnone => Nat.pos_of_ne_zero fun hzero => ?_
    · rwa [length_of_toRows_whole hall]
    · -- No pages reach no rows, and no rows can be sorted.
      rw [hzero, Nat.zero_mul] at hm
      obtain ⟨all, hall⟩ := hreturns (Or.inr (by omega))
      rw [hall] at hnone
      cases hnone
  · rw [shaped_eq_selection]
    exact Option.map_eq_none_iff
  · intro i
    rw [shaped_eq_selection]
    rfl

/-- Of four rows three are kept, and two pages of two rows hold them, oldest first; rows of one age
stay as they stood, though the end of a page falls between them. -/
theorem two_pages_of_three_kept :
    ∃ page : Nat → Applied Selection Nat,
      (∀ i, Query.apply
        { top := 2, skip := i * 2, count := true, orderBy := "age desc", filter := "age gt 1" }
        some { maxTop := some 2 } backend none
        { rows := [.object [("age", .integer 2), ("name", .string "x")],
          .object [("age", .integer 1)], .object [("age", .integer 2)],
          .object [("age", .integer 3)]] } = .ok (page i)) ∧
      ((List.range 2).mapM fun i => (page i).query.toRows).map List.flatten
        = some [.object [("age", .integer 3)], .object [("age", .integer 2), ("name", .string "x")],
          .object [("age", .integer 2)]] ∧
      ∀ i, (page i).count = some 3 := by
  have happlied : Query.apply { count := true, orderBy := "age desc", filter := "age gt 1" } some
      { maxTop := some 2 } backend none
      { rows := [.object [("age", .integer 2), ("name", .string "x")],
        .object [("age", .integer 1)], .object [("age", .integer 2)],
        .object [("age", .integer 3)]] }
      = .ok ⟨⟨[.object [("age", .integer 2), ("name", .string "x")],
          .object [("age", .integer 2)], .object [("age", .integer 3)]], [("age", .descending)], 0,
          some 2⟩, some 3⟩ := rfl
  obtain ⟨filter, order, kept, hfilter, horder, hkept, all, page, hall, hpage, -, hpages, -, -,
    hcount⟩ := pages_make_up_result _ _ _ _ _ 2 _ (by decide) (by simp) happlied
  obtain rfl : some (.compare ⟨"age", .greater, .integer 1⟩) = filter := Except.ok.inj hfilter
  have hkept : kept = [.object [("age", .integer 2), ("name", .string "x")],
      .object [("age", .integer 2)], .object [("age", .integer 3)]] := hkept
  subst hkept
  refine ⟨page, hpage, ?_, hcount⟩
  rw [hpages 2 (by decide), ← Except.ok.inj hall]
  rfl

/-- Null comes before all other cells, so it would be the first page of one row.  But a text among
nineteen numbers keeps the rows from being sorted, and there is neither that page nor the whole. -/
theorem mixed_column_has_no_first_page :
    ∃ all page : Applied Selection Nat,
      Query.apply (whole { orderBy := "a", count := true }) some {} backend none
        { rows := (([12, 8, 16, 11, 19, 19, 10, 8, 13, 20] : List Int).map Json.integer ++
            .null :: .integer 18 :: .integer 19 :: .string "x" ::
              ([17, 5, 11, 10, 18, 7, 13] : List Int).map Json.integer).map
            fun cell => .object [("a", cell)] } = .ok all ∧
      Query.apply (Query.page { orderBy := "a", count := true } 1 0) some {} backend none
        { rows := (([12, 8, 16, 11, 19, 19, 10, 8, 13, 20] : List Int).map Json.integer ++
            .null :: .integer 18 :: .integer 19 :: .string "x" ::
              ([17, 5, 11, 10, 18, 7, 13] : List Int).map Json.integer).map
            fun cell => .object [("a", cell)] } = .ok page ∧
      page.count = some 21 ∧ all.query.toRows = none ∧ page.query.toRows = none :=
  ⟨_, _, rfl, rfl, rfl, by decide +kernel, by decide +kernel⟩

end Query

end TableQuery
