import Mathlib.Data.List.Induction
import TableQuery.Proofs.Plan.Calls
import TableQuery.Proofs.Sql.Clause
import TableQuery.Row.Selection

/-!
# Proofs/Plan/Counting — what a count depends on

Only filters and searches choose rows.  A count of rows in memory sees nothing but them
(`rows_performAll`).  A statement that counts is the statement of the rows with another projection:
it has the condition that the filters and searches have left, and it keeps the order, the offset and
the limit that were set before it (`countAfter_statement`).  So it counts all rows that meet the
condition **exactly if nothing has sorted the rows or cut out a page before**, and its text shows
it.
-/

namespace TableQuery

open Sql

namespace Backend

variable {Q C N : Type}

namespace Call

/-- Whether a call chooses rows. -/
def selects : Call C → Bool
  | .filter _ | .condition _ => true
  | _ => false

/-- Whether a call sorts rows or cuts out a page. -/
def pages : Call C → Bool
  | .orderBy .. | .offset _ | .limit _ => true
  | _ => false

/-- The key that a call adds to the order. -/
def key? : Call C → Option (String × Direction)
  | .orderBy column direction => some (column, direction)
  | _ => none

/-- The offset that a call sets. -/
def offset? : Call C → Option Nat
  | .offset n => some n
  | _ => none

/-- The limit that a call sets. -/
def limit? : Call C → Option Nat
  | .limit n => some n
  | _ => none

/-- The condition that a call adds. -/
def condition? : Call Condition → Option Condition
  | .filter p => some (.ofPredicate p)
  | .condition c => some c
  | _ => none

/-- Whether a call keeps a row. -/
def keeps (row : Json) : Call (Json → Bool) → Bool
  | .filter p => p.holds row
  | .condition c => c row
  | _ => true

end Call

/-- **The count behind some calls.** -/
def countAfter (b : Backend Q C N) (q : Q) (calls : List (Call C)) : N :=
  b.count (b.performAll q calls).query

theorem performAll_concat (b : Backend Q C N) (q : Q) (calls : List (Call C)) (call : Call C) :
    b.performAll q (calls ++ [call]) = b.perform (b.performAll q calls) call := by
  rw [performAll, List.foldl_append]
  rfl

/-! ## Rows in memory -/

/-- **Rows in memory are those that all calls keep.** -/
theorem rows_performAll (rows : List Json) (calls : List (Call (Json → Bool))) :
    (Selection.backend.performAll { rows } calls).query.rows
      = rows.filter fun row => calls.all fun call => call.keeps row := by
  induction calls using List.reverseRecOn with
  | nil => simp [performAll]
  | append_singleton calls call ih =>
    rw [performAll_concat]
    cases call with
    | filter p =>
      change List.filter p.holds _ = _
      rw [ih, List.filter_filter]
      simp [Call.keeps, Bool.and_comm]
    | condition c =>
      change List.filter c _ = _
      rw [ih, List.filter_filter]
      simp [Call.keeps, Bool.and_comm]
    | count | orderBy | offset | limit =>
      refine ih.trans ?_
      simp [Call.keeps]

/-- Calls that choose no rows keep all of them. -/
theorem all_keeps_filter_selects (row : Json) (calls : List (Call (Json → Bool))) :
    (calls.filter Call.selects).all (fun call => call.keeps row)
      = calls.all fun call => call.keeps row := by
  rw [List.all_filter]
  refine congrArg calls.all (funext fun call => ?_)
  cases call <;> rfl

/-! ## Statements -/

/-- The condition that calls leave: each further one goes into those before. -/
def gathered (calls : List (Call Condition)) : Option Condition :=
  (calls.filterMap Call.condition?).foldl (fun current c => current.merge .both (some c)) none

/-- A statement with the order, the limit and the offset that calls set; of several limits and
offsets the last one stands. -/
def paged (calls : List (Call C)) (s : Statement) : Statement :=
  { s with
    order := calls.filterMap Call.key?
    limit := calls.reverse.findSome? Call.limit?
    offset := calls.reverse.findSome? Call.offset? }

theorem gathered_concat (calls : List (Call Condition)) (call : Call Condition) :
    gathered (calls ++ [call])
      = call.condition?.elim (gathered calls) fun c => (gathered calls).merge .both (some c) := by
  rw [gathered, List.filterMap_append, List.foldl_append]
  cases call <;> rfl

theorem paged_concat (calls : List (Call C)) (call : Call C) (s : Statement) :
    paged (calls ++ [call]) s
      = { s with
          order := calls.filterMap Call.key? ++ call.key?.toList
          limit := call.limit?.or (calls.reverse.findSome? Call.limit?)
          offset := call.offset?.or (calls.reverse.findSome? Call.offset?) } := by
  cases call <;> simp [paged, Call.key?, Call.limit?, Call.offset?, List.findSome?_cons]

/-- **What calls make of a statement**: the condition comes from those that choose rows, all else
from those that sort them and cut out a page. -/
theorem performAll_statement (table : String) (calls : List (Call Condition)) :
    (Statement.backend.performAll (.select table) calls).query
      = paged calls { table, condition := gathered calls } := by
  induction calls using List.reverseRecOn with
  | nil => rfl
  | append_singleton calls call ih =>
    have haddCondition (c : Condition) :
        (paged calls { table, condition := gathered calls }).addCondition c
          = paged calls { table, condition := (gathered calls).merge .both (some c) } := by
      unfold Statement.addCondition paged
      cases gathered calls <;> rfl
    rw [performAll_concat, paged_concat, gathered_concat]
    cases call with
    | filter | condition =>
      rw [perform, ih]
      simp only [Call.key?, Option.toList_none, List.append_nil]
      exact haddCondition _
    | count | orderBy | offset | limit =>
      rw [perform, ih]
      simp only [Call.key?, Option.toList_none, List.append_nil]
      rfl

theorem gathered_filter_selects (calls : List (Call Condition)) :
    gathered (calls.filter Call.selects) = gathered calls := by
  have hcalls : (calls.filter Call.selects).filterMap Call.condition?
      = calls.filterMap Call.condition? := by
    rw [List.filterMap_filter]
    refine congrArg (calls.filterMap ·) (funext fun call => ?_)
    cases call <;> rfl
  rw [gathered, hcalls, gathered]

/-- The statement that counts all rows that meet a condition. -/
def counting (table : String) (condition : Option Condition) : Statement :=
  { table, projection := .count, condition }

/-- **A statement that counts keeps the order, the limit and the offset that were set.** -/
theorem countAfter_statement (table : String) (calls : List (Call Condition)) :
    Statement.backend.countAfter (.select table) calls
      = paged calls (counting table (gathered calls)) := by
  rw [countAfter, performAll_statement]
  rfl

/-! ## Counting all rows -/

theorem pages_eq_false_iff (call : Call C) :
    call.pages = false ↔ call.key? = none ∧ call.limit? = none ∧ call.offset? = none := by
  cases call <;> simp [Call.pages, Call.key?, Call.limit?, Call.offset?]

/-- Calls set an order, a limit or an offset if one of them does. -/
theorem forall_pages_iff (calls : List (Call C)) : (∀ call ∈ calls, call.pages = false) ↔
    calls.filterMap Call.key? = [] ∧ calls.reverse.findSome? Call.limit? = none ∧
      calls.reverse.findSome? Call.offset? = none := by
  simp only [pages_eq_false_iff, List.filterMap_eq_nil_iff, List.findSome?_eq_none_iff,
    List.mem_reverse, imp_and, forall_and]

theorem paged_counting_eq_iff {calls : List (Call C)} {table : String}
    {condition : Option Condition} :
    paged calls (counting table condition) = counting table condition ↔
      ∀ call ∈ calls, call.pages = false := by
  rw [forall_pages_iff]
  simp only [paged, counting, Statement.mk.injEq, true_and]

/-- Behind calls that only choose rows, all rows that meet the condition are counted. -/
theorem countAfter_filter_selects (table : String) (calls : List (Call Condition)) :
    Statement.backend.countAfter (.select table) (calls.filter Call.selects)
      = counting table (gathered calls) := by
  have hpages : ∀ call ∈ calls.filter Call.selects, call.pages = false := by
    intro call hcall
    have hselects := (List.mem_filter.mp hcall).2
    cases call <;> first | rfl | cases hselects
  rw [countAfter_statement, gathered_filter_selects, paged_counting_eq_iff.mpr hpages]

/-- The pieces that calls add behind a condition. -/
def pagePieces (calls : List (Call C)) : List Piece :=
  Statement.orderPieces (calls.filterMap Call.key?) ++
    Statement.numberPieces " LIMIT " (calls.reverse.findSome? Call.limit?) ++
    Statement.numberPieces " OFFSET " (calls.reverse.findSome? Call.offset?)

theorem pieces_paged_counting (calls : List (Call C)) (table : String)
    (condition : Option Condition) : (paged calls (counting table condition)).pieces
      = (counting table condition).pieces ++ pagePieces calls := by
  simp [Statement.pieces, paged, counting, pagePieces, Statement.orderPieces,
    Statement.numberPieces]

/-- **Whatever sorts rows or cuts out a page shows in the text.** -/
theorem written_pagePieces_eq_nil_iff (d : Dialect) (shown : Nat → Value → String) (n : Nat)
    (calls : List (Call C)) :
    written d shown n (pagePieces calls) = [] ↔ ∀ call ∈ calls, call.pages = false := by
  rw [forall_pages_iff, pagePieces]
  cases calls.filterMap Call.key? with
  | cons key keys => simp [Statement.orderPieces, written]
  | nil =>
    cases calls.reverse.findSome? Call.limit? <;> cases calls.reverse.findSome? Call.offset? <;>
      simp [Statement.orderPieces, Statement.numberPieces, written]

theorem written_paged_counting_eq_iff (d : Dialect) (shown : Nat → Value → String)
    {calls : List (Call C)} {table : String} {condition : Option Condition} :
    written d shown 1 (paged calls (counting table condition)).pieces
        = written d shown 1 (counting table condition).pieces ↔
      ∀ call ∈ calls, call.pages = false := by
  rw [pieces_paged_counting, written_append, List.append_right_eq_self,
    written_pagePieces_eq_nil_iff]

/-- **What a count depends on.**  Rows in memory are counted behind any calls as behind those of
them that choose rows: all rows that these keep.  A statement that counts has the condition that
the calls have left; it keeps the order, the limit and the offset that they have set.  So it is the
statement behind those of them that choose rows **exactly if none of the others sorts rows or cuts
out a page**, and the same holds of its text, with values and with placeholders. -/
theorem count_behind_calls (rows : List Json) (rowCalls : List (Call (Json → Bool)))
    (table : String) (calls : List (Call Condition)) :
    (Selection.backend.countAfter { rows } rowCalls
        = Selection.backend.countAfter { rows } (rowCalls.filter Call.selects) ∧
      Selection.backend.countAfter { rows } rowCalls
        = (rows.filter fun row => rowCalls.all fun call => call.keeps row).length) ∧
    let counted := Statement.backend.countAfter (.select table) calls
    let all := Statement.backend.countAfter (.select table) (calls.filter Call.selects)
    all = counting table (Statement.backend.performAll (.select table) calls).query.condition ∧
    counted = paged calls all ∧
    (counted = all ↔ ∀ call ∈ calls, call.pages = false) ∧
    ∀ d, (counted.inlined d = all.inlined d ↔ ∀ call ∈ calls, call.pages = false) ∧
      (counted.parameterized d = all.parameterized d ↔ ∀ call ∈ calls, call.pages = false) := by
  refine ⟨⟨?_, ?_⟩, ?_⟩
  · change List.length _ = List.length _
    simp only [rows_performAll, all_keeps_filter_selects]
  · exact congrArg List.length (rows_performAll rows rowCalls)
  · rw [countAfter_statement, countAfter_filter_selects]
    refine ⟨by rw [performAll_statement]; rfl, rfl, paged_counting_eq_iff, fun d => ⟨?_, ?_⟩⟩
    · rw [← String.toList_inj, toList_inlined, toList_inlined]
      exact written_paged_counting_eq_iff d _
    · rw [← String.toList_inj, toList_parameterized, toList_parameterized]
      exact written_paged_counting_eq_iff d _

/-- An offset set before the count is left in the statement, which then counts no rows at all. -/
theorem count_behind_offset_keeps_offset :
    (Statement.backend.countAfter (.select "t") [.offset 1]).inlined .postgres
        = "SELECT COUNT(*) FROM \"t\" OFFSET 1" ∧
      (Statement.backend.countAfter (.select "t") (List.filter Call.selects [.offset 1])).inlined
        .postgres = "SELECT COUNT(*) FROM \"t\"" ∧
      Statement.backend.countAfter (.select "t") [.offset 1]
        ≠ Statement.backend.countAfter (.select "t") (List.filter Call.selects [.offset 1]) := by
  refine ⟨rfl, rfl, fun h => ?_⟩
  cases congrArg Statement.offset h

end Backend

end TableQuery
