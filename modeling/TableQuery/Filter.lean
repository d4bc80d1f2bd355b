import TableQuery.Token

/-!
# Filter — conditions on the properties of a row

A filter compares single properties with literals and joins the comparisons by *and* and *or*.  Each
comparison keeps the text its literal was written as.
-/

namespace TableQuery

open TableQuery.Text

namespace Filter

/-- How a property is compared with a literal. -/
inductive Operator where
  | eq
  | ne
  | contains
  | lt
  | lte
  | gt
  | gte
  deriving DecidableEq, Repr

/-- How two filters are joined. -/
inductive Connective where
  | and
  | or
  deriving DecidableEq, Repr

/-- The operators, in the order they are looked up. -/
def Operator.all : List Operator := [.eq, .ne, .contains, .lt, .lte, .gt, .gte]

/-- The word for an operator. -/
def Operator.keyword : Operator → String
  | .eq => "eq"
  | .ne => "ne"
  | .contains => "contains"
  | .lt => "lt"
  | .lte => "lte"
  | .gt => "gt"
  | .gte => "gte"

/-- The operator that a word stands for, in letters of either case. -/
def Operator.ofKeyword? (word : String) : Option Operator :=
  Operator.all.find? fun op => eqIgnoreCase word op.keyword

/-- The word for a connective. -/
def Connective.keyword : Connective → String
  | .and => "and"
  | .or => "or"

/-- The connective that a word stands for, in letters of either case. -/
def Connective.ofKeyword? (word : String) : Option Connective :=
  [Connective.and, Connective.or].find? fun op => eqIgnoreCase word op.keyword

end Filter

/-- A condition on a row. -/
inductive Filter where
  | compare (field : String) (op : Filter.Operator) (value : Literal) (raw : String)
  | join (op : Filter.Connective) (left right : Filter)
  deriving DecidableEq

namespace Filter

/-- The properties that a filter names, from left to right. -/
def fields : Filter → List String
  | .compare field .. => [field]
  | .join _ l r => l.fields ++ r.fields

end Filter

end TableQuery
