import TableQuery.Json
import TableQuery.Predicate

/-!
# Row/Cell — the values in the columns of a row

A row is a JSON value, and its cells are its members; a cell that is not there is null.  Cells are
compared with literals to filter rows, and with each other to sort them.  A comparison with a cell
that cannot be compared, null above all, is not met, whatever its comparator.
-/

namespace TableQuery

open TableQuery.Number TableQuery.Time

namespace Row

/-- The cell of a row in a column. -/
def cell (row : Json) (column : String) : Json := (row.get? column).getD .null

/-- A whole number that fits into 64 bits with a sign. -/
def signed? : Json → Option Int
  | .integer n => if n ≤ maxSigned then some n else none
  | _ => none

/-- A number as a floating point number. -/
def float? : Json → Option Binary64
  | .integer n => some (.ofInt n)
  | .float x => some x
  | _ => none

/-- The text of a cell. -/
def string? : Json → Option String
  | .string s => some s
  | _ => none

/-- How a cell compares with a literal; none if the two cannot be compared.  Whole numbers compare
exactly if both fit into 64 bits with a sign, all other numbers as floating point numbers. -/
def compareLiteral? (cell : Json) : Literal → Option Ordering
  | .integer n =>
    match signed? cell with
    | some c => some (compare c n)
    | none => do (← float? cell).compare? (.ofInt n)
  | .float x => do (← float? cell).compare? x
  | .text s => do return compare (← string? cell) s
  | .guid g => do return (← Guid.readStored (← string? cell)).order g
  | .time t => do return (← Timestamp.read (← string? cell)).order t

/-- How two numbers compare. -/
def compareNumbers (a b : Json) : Ordering :=
  match signed? a, signed? b with
  | some x, some y => compare x y
  | _, _ =>
    match float? a, float? b with
    | some x, some y => (x.compare? y).getD .eq
    | _, _ => .eq

/-- How two cells sort: null first, and values of one kind by their order.  Values of different
kinds are not told apart. -/
def compareCells : Json → Json → Ordering
  | .null, .null => .eq
  | .null, _ => .lt
  | _, .null => .gt
  | .string a, .string b => compare a b
  | .bool a, .bool b => compare a b
  | a, b => compareNumbers a b

end Row

namespace Predicate

/-- Whether an order meets a comparator; patterns are not a matter of order. -/
def Comparator.accepts : Comparator → Ordering → Bool
  | .equal, o => o == .eq
  | .notEqual, o => o != .eq
  | .less, o => o == .lt
  | .lessEqual, o => o != .gt
  | .greater, o => o == .gt
  | .greaterEqual, o => o != .lt
  | .like, _ => false

/-- Whether a cell matches a literal as a pattern; both must be texts. -/
def cellMatches (cell : Json) : Literal → Bool
  | .text pattern => (Row.string? cell).any fun s => Pattern.isMatch s pattern
  | _ => false

/-- Whether a row meets a comparison. -/
def Comparison.holds (c : Comparison) (row : Json) : Bool :=
  let cell := Row.cell row c.column
  match c.op with
  | .like => cellMatches cell c.value
  | op => (Row.compareLiteral? cell c.value).any op.accepts

/-- Whether a row meets a predicate. -/
def holds : Predicate → Json → Bool
  | .compare c, row => c.holds row
  | .and l r, row => l.holds row && r.holds row
  | .or l r, row => l.holds row || r.holds row

end Predicate

end TableQuery
