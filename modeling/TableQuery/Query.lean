import TableQuery.Json.Form

/-!
# Query — what a client asks for, and what a resource allows

The texts of a query stay as they were sent until the query is planned.  Zero stands for no limit
and no offset.
-/

namespace TableQuery

open Json Json.Reader

/-- What a client asks for. -/
structure Query where
  top : Nat := 0
  skip : Nat := 0
  count : Bool := false
  orderBy : String := ""
  select : String := ""
  search : String := ""
  filter : String := ""
  deriving DecidableEq, Repr

/-- What becomes of a filter that cannot be read. -/
inductive MalformedFilter where
  /-- The query fails. -/
  | reject
  /-- The query runs without a filter. -/
  | ignore
  deriving DecidableEq, Repr

/-- The word for a policy. -/
def MalformedFilter.keyword : MalformedFilter → String
  | .reject => "reject"
  | .ignore => "ignore"

/-- What a resource allows. -/
structure QueryOptions where
  maxTop : Option Nat := none
  malformedFilter : MalformedFilter := .reject
  deriving DecidableEq, Repr

/-! ## JSON text -/

/-- The form of a query. -/
def Query.form : Record Query where
  name := "struct Query"
  fields := [
    ("top", fun _ q => do return { q with top := ← Reader.count }),
    ("skip", fun _ q => do return { q with skip := ← Reader.count }),
    ("count", fun _ q => do return { q with count := ← flag }),
    ("orderby", fun _ q => do return { q with orderBy := ← string }),
    ("select", fun _ q => do return { q with select := ← string }),
    ("search", fun _ q => do return { q with search := ← string }),
    ("filter", fun _ q => do return { q with filter := ← string })]
  required := []

/-- Reads the text of a query. -/
def Query.ofText (s : String) : Except ReadError Query := readText (record Query.form {} maxDepth) s

/-- The policy that the first or the second name stands for. -/
def MalformedFilter.ofFlag (first : Bool) : MalformedFilter := if first then .reject else .ignore

/-- The form of a policy: a word, or the word with null behind it. -/
def MalformedFilter.form : Choice MalformedFilter where
  first := MalformedFilter.reject.keyword
  second := MalformedFilter.ignore.keyword
  content which _ := do
    unit
    return .ofFlag which
  alone which := return .ofFlag which

/-- The form of the options. -/
def QueryOptions.form : Record QueryOptions where
  name := "struct QueryOptions"
  fields := [
    ("max_top", fun _ o => do return { o with maxTop := ← optional Reader.count }),
    ("malformed_filter", fun depth o => do
      return { o with malformedFilter := ← choice MalformedFilter.form depth })]
  required := []

/-- Reads options. -/
def QueryOptions.reader (depth : Nat) : Reader QueryOptions := record QueryOptions.form {} depth

/-- Reads the text of options. -/
def QueryOptions.ofText (s : String) : Except ReadError QueryOptions :=
  readText (QueryOptions.reader maxDepth) s

end TableQuery
