import TableQuery.Filter

/-!
# Filter/Outline — a filter shown as an indented tree

An outline is a word alone, or a heading with entries between brackets.  Every entry stands on lines
of its own, four spaces further in and with a comma behind it.
-/

namespace TableQuery

open TableQuery.Number TableQuery.Text

/-- An indented tree. -/
inductive Outline where
  | word (s : String)
  /-- A heading with entries in parentheses. -/
  | list (heading : String) (entries : List Outline)
  /-- A heading with labelled entries in braces. -/
  | record (heading : String) (entries : List (String × Outline))

namespace Outline

/-- Lines as an entry: further in, a label in front and a comma behind. -/
def entryLines (label : String) (lines : List String) : List String :=
  let labelled := match lines with
    | [] => [label]
    | l :: ls => (label ++ l) :: ls
  let ended := match labelled.reverse with
    | [] => []
    | l :: ls => ((l ++ ",") :: ls).reverse
  ended.map ("    " ++ ·)

mutual

/-- The lines of an outline. -/
def lines : Outline → List String
  | .word s => [s]
  | .list heading entries => (heading ++ "(") :: listLines entries ++ [")"]
  | .record heading entries => (heading ++ " \x7b") :: recordLines entries ++ ["\x7d"]

/-- The lines of entries. -/
def listLines : List Outline → List String
  | [] => []
  | o :: os => entryLines "" o.lines ++ listLines os

/-- The lines of labelled entries. -/
def recordLines : List (String × Outline) → List String
  | [] => []
  | (label, o) :: os => entryLines (label ++ ": ") o.lines ++ recordLines os

end

/-- The text of an outline. -/
def text (o : Outline) : String := String.intercalate "\n" o.lines

end Outline

/-- A literal as an outline. -/
def Literal.outline : Literal → Outline
  | .text s => .list "String" [.word (quoted s)]
  | .integer n => .list "Integer" [.word (integerText n)]
  | .float x => .list "Float" [.word (Layout.pointed.text x)]
  | .guid g => .list "Guid" [.word g.text]
  | .time t => .list "DateTime" [.word t.zuluText]

namespace Filter

/-- The name of an operator. -/
def Operator.name : Operator → String
  | .eq => "Eq"
  | .ne => "Ne"
  | .contains => "Contains"
  | .lt => "Lt"
  | .lte => "Lte"
  | .gt => "Gt"
  | .gte => "Gte"

/-- The name of a connective. -/
def Connective.name : Connective → String
  | .and => "And"
  | .or => "Or"

/-- A filter as an outline. -/
def outline : Filter → Outline
  | .compare field op value raw => .record "Comparison" [
      ("field", .list "Identifier" [.word (quoted field)]),
      ("op", .word op.name),
      ("value", .record "Literal" [("value", value.outline), ("raw", .word (quoted raw))])]
  | .join op l r => .record "Logical" [
      ("op", .word op.name), ("left", l.outline), ("right", r.outline)]

end Filter

end TableQuery
