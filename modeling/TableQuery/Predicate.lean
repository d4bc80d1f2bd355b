import TableQuery.Filter.Reading
import TableQuery.Pattern
import TableQuery.Schema

/-!
# Predicate — conditions on columns

A filter becomes a predicate when its properties are replaced by their columns; *contains* becomes a
match against a pattern.  A predicate is written with its values left out or filled in; both texts
are made from the same pieces.  A filter whose property has no column is refused, as is a query that
asks for too much or whose filter cannot be read.
-/

namespace TableQuery

/-- Why a query is refused. -/
inductive QueryError where
  | topExceedsMaximum (top maxTop : Nat)
  | unknownField (name : String)
  | malformedFilter (error : Filter.ReadError)
  deriving DecidableEq

/-- The words for an error. -/
def QueryError.message : QueryError → String
  | .topExceedsMaximum .. =>
    "The value supplied for the query parameter 'Top' was greater than " ++
      "the maximum top allowed for this resource"
  | .unknownField name => s!"{name} doesn't exist"
  | .malformedFilter error => s!"invalid filter: {error.message}"

namespace Predicate

/-- How a column is compared with a value. -/
inductive Comparator where
  | equal
  | notEqual
  | like
  | less
  | lessEqual
  | greater
  | greaterEqual
  deriving DecidableEq, Repr

/-- The sign for a comparator. -/
def Comparator.sign : Comparator → String
  | .equal => "="
  | .notEqual => "<>"
  | .like => "LIKE"
  | .less => "<"
  | .lessEqual => "<="
  | .greater => ">"
  | .greaterEqual => ">="

/-- A comparison of one column. -/
structure Comparison where
  column : String
  op : Comparator
  value : Literal
  deriving DecidableEq

end Predicate

/-- A condition on the columns of a row. -/
inductive Predicate where
  | compare (c : Predicate.Comparison)
  | and (left right : Predicate)
  | or (left right : Predicate)
  deriving DecidableEq

namespace Predicate

/-- The comparisons of a predicate, from left to right. -/
def comparisons : Predicate → List Comparison
  | .compare c => [c]
  | .and l r | .or l r => l.comparisons ++ r.comparisons

/-! ## From filters -/

/-- The characters of a literal: those of a text, or those that show any other value. -/
def literalText : Literal → String
  | .text s => s
  | v => v.display

/-- Comparator and value for an operator and its literal. -/
def ofOperator (op : Filter.Operator) (v : Literal) : Comparator × Literal :=
  match op with
  | .eq => (.equal, v)
  | .ne => (.notEqual, v)
  | .contains => (.like, .text (Pattern.containing (literalText v)))
  | .lt => (.less, v)
  | .lte => (.lessEqual, v)
  | .gt => (.greater, v)
  | .gte => (.greaterEqual, v)

/-- Two predicates joined. -/
def join : Filter.Connective → Predicate → Predicate → Predicate
  | .and => .and
  | .or => .or

/-- The predicate of a filter.  The first property without a column, from the left, is an error. -/
def ofFilter (resolve : Resolver) : Filter → Except QueryError Predicate
  | .compare field op value _ =>
    match resolve field with
    | none => .error (.unknownField field)
    | some column =>
      let (op, value) := ofOperator op value
      .ok (.compare ⟨column, op, value⟩)
  | .join op l r => do
    let l ← ofFilter resolve l
    let r ← ofFilter resolve r
    return join op l r

/-! ## Text -/

/-- A piece of the text of a predicate. -/
inductive Piece where
  | text (s : String)
  | value (v : Literal)

/-- Pieces in parentheses. -/
def parenthesized (ps : List Piece) : List Piece := .text "(" :: ps ++ [.text ")"]

/-- Whether a predicate is an *or*. -/
def isOr : Predicate → Bool
  | .or .. => true
  | _ => false

/-- The pieces of a predicate.  The operands of an *or* stand in parentheses, and so does an *or*
that is the operand of an *and*. -/
def pieces : Predicate → List Piece
  | .compare c => [.text (c.column ++ " " ++ c.op.sign ++ " "), .value c.value]
  | .and l r =>
    (if l.isOr then parenthesized l.pieces else l.pieces) ++ .text " AND " ::
      (if r.isOr then parenthesized r.pieces else r.pieces)
  | .or l r => parenthesized l.pieces ++ .text " OR " :: parenthesized r.pieces

/-- The text of a piece, given the text of a value. -/
def Piece.textWith (shown : Literal → String) : Piece → String
  | .text s => s
  | .value v => shown v

/-- The value of a piece. -/
def Piece.value? : Piece → Option Literal
  | .text _ => none
  | .value v => some v

/-- The text with a question mark for each value. -/
def render (p : Predicate) : String := String.join (p.pieces.map (Piece.textWith fun _ => "?"))

/-- The values that the question marks stand for. -/
def params (p : Predicate) : List Literal := p.pieces.filterMap Piece.value?

/-- The text with its values. -/
def display (p : Predicate) : String := String.join (p.pieces.map (Piece.textWith Literal.display))

end Predicate

end TableQuery
