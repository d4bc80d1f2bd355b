import TableQuery.Plan
import TableQuery.Sql.Dialect

/-!
# Sql/Statement — queries written as SQL

A statement is written from pieces: fixed text, bound values, and the escape character of patterns,
which is written out in every case.  The pieces do not depend on the dialect, so the values are the
same for all of them, and the text with placeholders depends on no value.
-/

namespace TableQuery.Sql

/-- A piece of a statement. -/
inductive Piece where
  | text (s : String)
  | value (v : Value)
  /-- The character that escapes in patterns. -/
  | escapeChar

/-- What a statement asks for. -/
inductive Projection where
  | rows
  | count
  deriving DecidableEq

/-- A statement on one table. -/
structure Statement where
  table : String
  projection : Projection := .rows
  condition : Option Condition := none
  order : List (String × Direction) := []
  limit : Option Nat := none
  offset : Option Nat := none

/-! ## Pieces -/

/-- The pieces of a condition on one column. -/
def Atom.pieces : Atom → List Piece
  | .compare column op value => [.text (quoteName column ++ " " ++ op.sign ++ " "), .value value]
  | .like column pattern escaped =>
    [.text (quoteName column ++ " LIKE "), .value (.string pattern)] ++
      if escaped then [.text " ESCAPE ", .escapeChar] else []

/-- Pieces in parentheses. -/
def parenthesized (ps : List Piece) : List Piece := .text "(" :: ps ++ [.text ")"]

/-- The word that joins the two sides. -/
def Junction.keyword : Junction → String
  | .all => "AND"
  | .any => "OR"

/-- The junction of two sides, if there are two. -/
def Formula.junction? : Formula → Option Junction
  | .binary j .. => some j
  | _ => none

/-- The pieces of a formula.  Joined by the same word, a left side needs no parentheses; a right
side of two has them always. -/
def Formula.pieces : Formula → List Piece
  | .atom a => a.pieces
  | .constant b => [.text (if b then "TRUE" else "FALSE")]
  | .binary j l r =>
    let left := if l.junction?.any (· ≠ j) then parenthesized l.pieces else l.pieces
    let right := if r.junction?.isSome then parenthesized r.pieces else r.pieces
    left ++ .text (" " ++ j.keyword ++ " ") :: right

namespace Statement

/-- What is asked for. -/
def projectionText : Projection → String
  | .rows => "*"
  | .count => "COUNT(*)"

/-- A key of the order. -/
def keyText (key : String × Direction) : String :=
  quoteName key.1 ++ (match key.2 with | .ascending => " ASC" | .descending => " DESC")

/-- The order, if there is one. -/
def orderPieces : List (String × Direction) → List Piece
  | [] => []
  | keys => [.text (" ORDER BY " ++ String.intercalate ", " (keys.map keyText))]

/-- A clause with a number, if there is one. -/
def numberPieces (clause : String) : Option Nat → List Piece
  | none => []
  | some n => [.text clause, .value (.bigUnsigned n)]

/-- The condition, if there is one. -/
def conditionPieces : Option Condition → List Piece
  | none => []
  | some c => .text " WHERE " :: c.fold.pieces

/-- The pieces of a statement. -/
def pieces (s : Statement) : List Piece :=
  .text ("SELECT " ++ projectionText s.projection ++ " FROM " ++ quoteName s.table) ::
    (conditionPieces s.condition ++ orderPieces s.order ++ numberPieces " LIMIT " s.limit ++
      numberPieces " OFFSET " s.offset)

/-! ## Text -/

/-- The escape character as a string of the dialect. -/
def escapeText (d : Dialect) : String := d.quoteString (String.singleton Pattern.escapeChar)

/-- A piece with its value written out. -/
def inlinedPiece (d : Dialect) : Piece → String
  | .text s => s
  | .value v => d.valueText v
  | .escapeChar => escapeText d

/-- The text with all values written out. -/
def inlined (s : Statement) (d : Dialect) : String := String.join (s.pieces.map (inlinedPiece d))

/-- The text of pieces with placeholders, the next of which has number `n`. -/
def placeholderText (d : Dialect) : Nat → List Piece → String
  | _, [] => ""
  | n, .text s :: ps => s ++ placeholderText d n ps
  | n, .value _ :: ps => d.placeholder n ++ placeholderText d (n + 1) ps
  | n, .escapeChar :: ps => escapeText d ++ placeholderText d n ps

/-- The text with placeholders. -/
def parameterized (s : Statement) (d : Dialect) : String := placeholderText d 1 s.pieces

/-- The value of a piece. -/
def pieceValue? : Piece → Option Value
  | .value v => some v
  | _ => none

/-- The values that the placeholders stand for. -/
def values (s : Statement) : List Value := s.pieces.filterMap pieceValue?

/-! ## Building -/

/-- A statement for all rows of a table. -/
def select (table : String) : Statement := { table }

/-- The statement with a further condition. -/
def addCondition (s : Statement) (c : Condition) : Statement :=
  { s with condition := some (s.condition.elim c fun current => current.both c) }

/-- Building a statement.  A count keeps all that has been set so far. -/
def backend : Backend Statement Condition Statement where
  filter s p := s.addCondition (.ofPredicate p)
  condition := addCondition
  count s := { s with projection := .count }
  orderBy s column direction := { s with order := s.order ++ [(column, direction)] }
  offset s n := { s with offset := some n }
  limit s n := { s with limit := some n }

end Statement

end TableQuery.Sql
