import TableQuery.Predicate

/-!
# Sql/Condition — the condition of a statement

Conditions are grouped: all of a group must hold, or any.  A group of one is just that one when it
goes into another group.  For writing, a group is folded from the left into conjunctions or
disjunctions of two.
-/

namespace TableQuery

open TableQuery.Number TableQuery.Time

namespace Sql

/-- A value that is bound to a statement. -/
inductive Value where
  | bigInt (n : Int)
  | bigUnsigned (n : Nat)
  | double (x : Binary64)
  | string (s : String)
  | uuid (g : Guid)
  | dateTimeUtc (t : Timestamp)
  deriving DecidableEq

/-- The value of a literal. -/
def Value.ofLiteral : Literal → Value
  | .text s => .string s
  | .integer n => .bigInt n
  | .float x => .double x
  | .guid g => .uuid g
  | .time t => .dateTimeUtc t

/-- A condition on one column. -/
inductive Atom where
  | compare (column : String) (op : Predicate.Comparator) (value : Value)
  /-- A match against a pattern, with or without a clause that names the escape character. -/
  | like (column pattern : String) (escaped : Bool)
  deriving DecidableEq

/-- How many of a group must hold. -/
inductive Junction where
  | all
  | any
  deriving DecidableEq

/-- A condition on a row, or a group of them. -/
inductive Condition where
  | atom (a : Atom)
  | group (junction : Junction) (items : List Condition)

namespace Condition

/-- The condition as an item of a group: a group of one is that one. -/
def asItem : Condition → Condition
  | .group _ [c] => c
  | c => c

/-- The condition of a comparison. -/
def ofComparison (c : Predicate.Comparison) : Condition :=
  match c.op with
  | .like => .atom (.like c.column (Predicate.literalText c.value) true)
  | op => .atom (.compare c.column op (.ofLiteral c.value))

/-- The condition of a predicate: each *and* and each *or* is a group of its own. -/
def ofPredicate : Predicate → Condition
  | .compare c => .group .all [ofComparison c]
  | .and l r => .group .all [(ofPredicate l).asItem, (ofPredicate r).asItem]
  | .or l r => .group .any [(ofPredicate l).asItem, (ofPredicate r).asItem]

/-- A match against a pattern in any of some columns; without columns nothing matches. -/
def anyLike (columns : List String) (pattern : String) : Condition :=
  .group .any (columns.map fun column => .atom (.like column pattern false))

/-- Both conditions.  Items of two groups that must all hold become one group. -/
def both : Condition → Condition → Condition
  | .group .all xs, .group .all ys => .group .all (xs ++ ys)
  | .group .all xs, c => .group .all (xs ++ [c.asItem])
  | current, c => .group .all [current.asItem, c.asItem]

end Condition

/-- A condition folded for writing. -/
inductive Formula where
  | atom (a : Atom)
  | constant (b : Bool)
  | binary (junction : Junction) (left right : Formula)

mutual

/-- A condition with its groups folded from the left; an empty group is a constant. -/
def Condition.fold : Condition → Formula
  | .atom a => .atom a
  | .group j [] => .constant (j = .all)
  | .group j (c :: cs) => Condition.foldFrom j c.fold cs

/-- A group folded behind what is folded already. -/
def Condition.foldFrom (j : Junction) (left : Formula) : List Condition → Formula
  | [] => left
  | c :: cs => Condition.foldFrom j (.binary j left c.fold) cs

end

end Sql

end TableQuery
