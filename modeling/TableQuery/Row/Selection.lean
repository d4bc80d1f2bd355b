import TableQuery.Plan
import TableQuery.Row.Cell
import TableQuery.Sorting

/-!
# Row/Selection — queries answered from rows in memory

Filters and conditions drop rows at once.  Order, offset and limit are kept until the rows are asked
for; then the rows are sorted, and the page is cut out of them.  Keys that contradict each other may
fail to sort the rows, and then there is no page.
-/

namespace TableQuery

/-- The rows that are left, and how they will be sorted and cut. -/
structure Selection where
  rows : List Json
  order : List (String × Direction) := []
  offset : Nat := 0
  limit : Option Nat := none

namespace Selection

/-- An order the way a key asks for it. -/
def directed : Direction → Ordering → Ordering
  | .ascending, o => o
  | .descending, o => o.swap

/-- How two rows sort: by the first key that tells them apart. -/
def compareRows : List (String × Direction) → Json → Json → Ordering
  | [], _, _ => .eq
  | (column, direction) :: rest, a, b =>
    (directed direction (Row.compareCells (Row.cell a column) (Row.cell b column))).then
      (compareRows rest a b)

/-- The rows in order; rows that no key tells apart keep their places.  There is none if the keys
are found to contradict each other. -/
def sortRows (order : List (String × Direction)) (rows : List Json) : Option (List Json) :=
  Sorting.sort (fun a b => compareRows order a b == .lt) rows

/-- The page of sorted rows. -/
def cut (s : Selection) (sorted : List Json) : List Json :=
  let rest := sorted.drop s.offset
  s.limit.elim rest rest.take

/-- The page of a selection, if its rows can be sorted. -/
def toRows (s : Selection) : Option (List Json) := (sortRows s.order s.rows).map s.cut

/-- Building a selection. -/
def backend : Backend Selection (Json → Bool) Nat where
  filter s p := { s with rows := s.rows.filter p.holds }
  condition s c := { s with rows := s.rows.filter c }
  count s := s.rows.length
  orderBy s column direction := { s with order := s.order ++ [(column, direction)] }
  offset s n := { s with offset := n }
  limit s n := { s with limit := some n }

end Selection

end TableQuery
