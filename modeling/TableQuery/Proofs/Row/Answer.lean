import TableQuery.Proofs.Plan.Making
import TableQuery.Proofs.Row.Sorting

/-!
# Proofs/Row/Answer — what a query returns of rows in memory

A query keeps the rows that meet its filter and its search, counts them, sorts them and cuts out a
page: the rows of the sorted ones from the offset on, as many as the limit allows.  A plan hands
these parts to a selection one by one (`shaped_eq_selection`), and the selection puts them together
when its rows are asked for (`getElem?_cut`).  Rows that cannot be sorted have no page.
-/

namespace TableQuery

open Selection

namespace Query

/-- **Whether a query keeps a row**: the row meets the filter and the search, where there are
any. -/
def keeps (query : Query) (handler : Option (String → Json → Bool)) (filter : Option Predicate)
    (row : Json) : Bool :=
  filter.all (fun p => p.holds row) && (query.searched handler).all fun condition => condition row

/-- Filter and search leave the rows that the query keeps. -/
theorem selected_eq (query : Query) (handler : Option (String → Json → Bool))
    (filter : Option Predicate) (rows : List Json) :
    (query.searched handler).elim (filter.elim { rows } (Selection.backend.filter { rows }))
        (Selection.backend.condition (filter.elim { rows } (Selection.backend.filter { rows })))
      = { rows := rows.filter (query.keeps handler filter) } := by
  unfold keeps
  cases filter with
  | none => cases query.searched handler <;> simp [Selection.backend]
  | some p =>
    cases query.searched handler <;> simp [Selection.backend, List.filter_filter, Bool.and_comm]

/-- **A query hands a selection the rows it keeps, its order, its offset and its limit.** -/
theorem shaped_eq_selection (query : Query) (options : QueryOptions)
    (handler : Option (String → Json → Bool)) (filter : Option Predicate)
    (order : List (String × Direction)) (rows : List Json) :
    query.shaped options Selection.backend handler filter order { rows }
      = ⟨⟨rows.filter (query.keeps handler filter), order, query.skip, query.limited options⟩,
        if query.count then some (rows.filter (query.keeps handler filter)).length else none⟩ := by
  have hoffset : ∀ s : Selection, s.offset = 0 →
      query.skipped.elim s (Selection.backend.offset s) = { s with offset := query.skip } := by
    intro s hs
    unfold skipped
    split
    · rfl
    · rename_i hskip
      have hskip : query.skip = 0 := by omega
      rw [hskip, ← hs]
      rfl
  have hlimit : ∀ s : Selection, s.limit = none →
      (query.limited options).elim s (Selection.backend.limit s)
        = { s with limit := query.limited options } := by
    intro s hs
    obtain ⟨rows, order, offset, limit⟩ := s
    cases hs
    cases query.limited options <;> rfl
  have horder := foldl_orderBy Selection.backend (fun s keys => { s with order := s.order ++ keys })
    (by simp) (by simp [Selection.backend])
  unfold shaped
  simp only [selected_eq, horder]
  rw [hoffset _ rfl, hlimit _ rfl]
  rfl

end Query

namespace Selection

/-- **The page of sorted rows, place by place.** -/
theorem getElem?_cut (s : Selection) (sorted : List Json) (i : Nat) :
    (s.cut sorted)[i]? = if s.limit.all (i < ·) then sorted[s.offset + i]? else none := by
  unfold cut
  cases s.limit with
  | none => exact List.getElem?_drop
  | some n =>
    simp only [Option.elim_some, Option.all_some, decide_eq_true_eq]
    rw [List.getElem?_take, List.getElem?_drop]

end Selection

/-- **What a query returns of rows in memory.**  The rows it keeps can be sorted if its keys rank
them, and if they are few.  If they are sorted, it returns those of them at the places from its
offset on, as many as its limit allows; if they cannot be sorted, it returns no page.  In any case
it counts the rows it keeps, if that is asked for. -/
theorem Query.apply_returns_page (rows : List Json) (resolve : Resolver) (options : QueryOptions)
    (query : Query) (handler : Option (String → Json → Bool)) (applied : Applied Selection Nat)
    (h : query.apply resolve options Selection.backend handler { rows } = .ok applied) :
    ∃ filter order kept,
      Plan.compileFilter resolve options query.filter = .ok filter ∧
      Plan.resolveOrder resolve query.orderBy = .ok order ∧
      kept = rows.filter (query.keeps handler filter) ∧
      (Ranks order kept ∨ kept.length ≤ 20 → ∃ sorted, sortRows order kept = some sorted) ∧
      (∀ sorted, sortRows order kept = some sorted → Sorts order kept sorted ∧
        ∃ page, applied.query.toRows = some page ∧ ∀ i, page[i]? =
          if (query.limited options).all (i < ·) then sorted[query.skip + i]? else none) ∧
      (sortRows order kept = none → applied.query.toRows = none) ∧
      applied.count = if query.count then some kept.length else none := by
  obtain ⟨filter, order, -, hfilter, horder, rfl⟩ := exists_of_apply_eq_ok h
  rw [shaped_eq_selection]
  refine ⟨filter, order, _, hfilter, horder, rfl, exists_sortRows, fun sorted hsorted => ?_,
    fun hnone => ?_, rfl⟩
  · exact ⟨sorts_of_sortRows hsorted, _, congrArg (Option.map _) hsorted, getElem?_cut _ sorted⟩
  · exact congrArg (Option.map _) hnone

/-- Three of four rows are kept, and the page is the second of them when they are sorted. -/
theorem Query.second_row_of_three_kept :
    ∃ sorted page : List Json,
      sorted.Perm [.object [("age", .integer 3)], .object [("age", .integer 2)],
        .object [("age", .integer 2), ("name", .string "x")]] ∧
      sorted.Pairwise (Precedes [("age", .ascending)]) ∧
      ∃ applied : Applied Selection Nat,
        Query.apply { top := 1, skip := 1, count := true, orderBy := "age", filter := "age gt 1" }
          some {} Selection.backend none
          { rows := [.object [("age", .integer 3)], .object [("age", .integer 1)],
            .object [("age", .integer 2)], .object [("age", .integer 2), ("name", .string "x")]] }
          = .ok applied ∧
        applied.count = some 3 ∧ applied.query.toRows = some page ∧
        ∀ i, page[i]? = if i < 1 then sorted[1 + i]? else none := by
  have happlied : Query.apply
      { top := 1, skip := 1, count := true, orderBy := "age", filter := "age gt 1" }
      some {} Selection.backend none
      { rows := [.object [("age", .integer 3)], .object [("age", .integer 1)],
        .object [("age", .integer 2)], .object [("age", .integer 2), ("name", .string "x")]] }
      = .ok ⟨⟨[.object [("age", .integer 3)], .object [("age", .integer 2)],
          .object [("age", .integer 2), ("name", .string "x")]], [("age", .ascending)], 1, some 1⟩,
        some 3⟩ := rfl
  obtain ⟨filter, order, kept, hfilter, horder, hkept, hreturns, hpage, -⟩ :=
    Query.apply_returns_page _ _ _ _ _ _ happlied
  obtain rfl : some (.compare ⟨"age", .greater, .integer 1⟩) = filter := Except.ok.inj hfilter
  obtain rfl : [("age", .ascending)] = order := Except.ok.inj horder
  have hkept : kept = [.object [("age", .integer 3)], .object [("age", .integer 2)],
      .object [("age", .integer 2), ("name", .string "x")]] := hkept
  have hranks : Ranks [("age", .ascending)] kept := by
    rw [hkept]
    decide +kernel
  subst hkept
  obtain ⟨sorted, hsorted⟩ := hreturns (Or.inl hranks)
  obtain ⟨hsorts, page, hrows, hplaces⟩ := hpage sorted hsorted
  refine ⟨sorted, page, hsorts.perm, hsorts.ordered hranks, _, happlied, rfl, hrows, fun i => ?_⟩
  rw [hplaces i]
  simp [Query.limited]

/-- A text among twenty numbers is not told from any of them.  The rows are kept and counted, but
they cannot be sorted, so that there is no page of them, not even behind the last one. -/
theorem Query.mixed_column_has_no_page :
    ∃ applied : Applied Selection Nat,
      Query.apply { orderBy := "a", skip := 21, count := true } some {} Selection.backend none
        { rows :=
            (([12, 8, 16, 11, 19, 19, 10, 8, 13, 20, 6, 18, 19] : List Int).map Json.integer ++
              .string "x" :: ([17, 5, 11, 10, 18, 7, 13] : List Int).map Json.integer).map
            fun cell => .object [("a", cell)] }
        = .ok applied ∧
      applied.count = some 21 ∧ applied.query.toRows = none :=
  ⟨_, rfl, rfl, by decide +kernel⟩

end TableQuery
