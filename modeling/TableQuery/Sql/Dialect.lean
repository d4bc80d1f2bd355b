import TableQuery.Sql.Condition

/-!
# Sql/Dialect — names and values as two dialects write them

Names stand in double quotes in both dialects, values differ: one of them knows backslash escapes in
strings, in which case a letter `E` stands in front.
-/

namespace TableQuery.Sql

open TableQuery.Number

/-- A dialect of SQL. -/
inductive Dialect where
  | postgres
  | sqlite
  deriving DecidableEq

/-- A name in double quotes, those inside it doubled. -/
def quoteName (name : String) : String :=
  String.ofList ('"' :: name.toList.flatMap (fun c => if c = '"' then ['"', '"'] else [c]) ++ ['"'])

namespace Dialect

/-- A character of a string with backslash escapes. -/
def escapedChar (c : Char) : List Char :=
  match c with
  | '\\' => ['\\', '\\']
  | '"' => ['\\', '"']
  | '\'' => ['\\', '\'']
  | '\x00' => ['\\', '0']
  | '\x08' => ['\\', 'b']
  | '\t' => ['\\', 't']
  | '\x1a' => ['\\', 'z']
  | '\n' => ['\\', 'n']
  | '\r' => ['\\', 'r']
  | c => [c]

/-- A string in single quotes. -/
def quoteString (d : Dialect) (s : String) : String :=
  match d with
  | .postgres =>
    let body := s.toList.flatMap escapedChar
    let quoted := '\'' :: body ++ ['\'']
    String.ofList (if body.contains '\\' then 'E' :: quoted else quoted)
  | .sqlite =>
    String.ofList
      ('\'' :: s.toList.flatMap (fun c => if c = '\'' then ['\'', '\''] else [c]) ++ ['\''])

/-- A value inside a statement. -/
def valueText (d : Dialect) : Value → String
  | .bigInt n => integerText n
  | .bigUnsigned n => naturalText n
  | .double x => Layout.plain.text x
  | .string s => d.quoteString s
  | .uuid g => "'" ++ g.text ++ "'"
  | .dateTimeUtc t => "'" ++ t.spacedText ++ "'"

/-- What stands for the value with a given number, counted from one. -/
def placeholder (d : Dialect) (n : Nat) : String :=
  match d with
  | .postgres => "$" ++ naturalText n
  | .sqlite => "?"

end Dialect

end TableQuery.Sql
