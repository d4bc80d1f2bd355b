import TableQuery.OrderBy
import TableQuery.Predicate
import TableQuery.Query
import TableQuery.Text.Characters

/-!
# Plan — what a query does to a backend

A query is planned before a backend sees it: the limit is checked, the filter is read and given its
columns, the order is given its columns.  All that can fail fails here.  A plan that is made is then
run on a backend: filter, search, count, order, offset, limit.
-/

namespace TableQuery

open TableQuery.Text

/-- A query under construction, as a backend builds it.  `Q` is the query, `C` a condition of the
backend's own, and `N` what a count yields. -/
structure Backend (Q C N : Type) where
  filter : Q → Predicate → Q
  condition : Q → C → Q
  count : Q → N
  orderBy : Q → String → Direction → Q
  offset : Q → Nat → Q
  limit : Q → Nat → Q

/-- A query that has been shaped, with its count if that was asked for. -/
structure Applied (Q N : Type) where
  query : Q
  count : Option N

/-- All that a query does. -/
structure Plan where
  filter : Option Predicate
  /-- The term to search for; none if it is empty. -/
  search : Option String
  count : Bool
  order : List (String × Direction)
  offset : Option Nat
  limit : Option Nat

namespace Plan

/-! ## Making a plan -/

/-- The predicate of a filter text; none if the text is blank, or cannot be read and that is to be
ignored. -/
def compileFilter (resolve : Resolver) (options : QueryOptions) (text : String) :
    Except QueryError (Option Predicate) :=
  if isBlankText text.toList then .ok none
  else match Filter.read text with
    | .ok filter => (Predicate.ofFilter resolve filter).map some
    | .error e =>
      match options.malformedFilter with
      | .reject => .error (.malformedFilter e)
      | .ignore => .ok none

/-- A key of the order with its column. -/
def resolveKey (resolve : Resolver) (key : OrderBy) : Except QueryError (String × Direction) :=
  match resolve key.field with
  | some column => .ok (column, key.direction)
  | none => .error (.unknownField key.field)

/-- The columns of an order-by text. -/
def resolveOrder (resolve : Resolver) (text : String) :
    Except QueryError (List (String × Direction)) :=
  if isBlankText text.toList then .ok [] else (OrderBy.read text).mapM (resolveKey resolve)

/-- Refuses to fetch more than is allowed. -/
def checkTop (options : QueryOptions) (top : Nat) : Except QueryError Unit :=
  match options.maxTop with
  | none => .ok ()
  | some maxTop => if maxTop < top then .error (.topExceedsMaximum top maxTop) else .ok ()

/-- A number that counts only if it is not zero. -/
def positive? (n : Nat) : Option Nat := if 0 < n then some n else none

/-- The plan of a query.  What the query does not limit is limited by the most that is allowed. -/
def make (resolve : Resolver) (options : QueryOptions) (query : Query) :
    Except QueryError Plan := do
  checkTop options query.top
  let filter ← compileFilter resolve options query.filter
  let order ← resolveOrder resolve query.orderBy
  return {
    filter
    search := if query.search.isEmpty then none else some query.search
    count := query.count
    order
    offset := positive? query.skip
    limit := (positive? query.top).or (options.maxTop.bind positive?) }

/-! ## Running a plan -/

/-- Runs a plan on a backend, with the handler of search terms if there is one. -/
def run {Q C N : Type} (plan : Plan) (b : Backend Q C N) (handler : Option (String → C)) (q : Q) :
    Applied Q N :=
  let q := plan.filter.elim q (b.filter q)
  let q := match handler, plan.search with
    | some handler, some term => b.condition q (handler term)
    | _, _ => q
  let count := if plan.count then some (b.count q) else none
  let q := plan.order.foldl (fun q (column, direction) => b.orderBy q column direction) q
  let q := plan.offset.elim q (b.offset q)
  let q := plan.limit.elim q (b.limit q)
  ⟨q, count⟩

end Plan

/-- Plans a query and runs it. -/
def Query.apply {Q C N : Type} (query : Query) (resolve : Resolver) (options : QueryOptions)
    (b : Backend Q C N) (handler : Option (String → C)) (q : Q) :
    Except QueryError (Applied Q N) := do
  return (← Plan.make resolve options query).run b handler q

end TableQuery
