import TableQuery.Literal

/-!
# Token — the words and marks of a query text

A token carries its kind, its text and the bytes it takes in the source.  The text of a quoted
string is what stands between the quotes, so there the span is longer than the text.
-/

namespace TableQuery

open TableQuery.Text TableQuery.Time

/-- A stretch of the source, in bytes. -/
structure Span where
  start : Nat
  stop : Nat
  deriving DecidableEq, Repr

namespace Token

/-- What a token is. -/
inductive Kind where
  | ident
  | int
  | float
  | string
  | guid
  | dateTime
  | leftParen
  | rightParen
  | illegal
  | eof
  deriving DecidableEq, Repr

/-- The name of a kind. -/
def Kind.name : Kind → String
  | .ident => "Ident"
  | .int => "Int"
  | .float => "Float"
  | .string => "String"
  | .guid => "Guid"
  | .dateTime => "DateTime"
  | .leftParen => "LParen"
  | .rightParen => "RParen"
  | .illegal => "Illegal"
  | .eof => "Eof"

/-- The kinds that stand for a value. -/
def Kind.isLiteral : Kind → Bool
  | .int | .float | .string | .guid | .dateTime => true
  | _ => false

end Token

/-- A word, a quoted string or a single mark. -/
structure Token where
  kind : Token.Kind
  text : String
  span : Span
  deriving DecidableEq, Repr

namespace Token

/-- Whether a token is a given keyword, in letters of either case. -/
def isKeyword (t : Token) (keyword : String) : Bool :=
  t.kind == .ident && eqIgnoreCase t.text keyword

/-- The value a token stands for, if its text denotes one of its kind. -/
def literal? (t : Token) : Option Literal :=
  match t.kind with
  | .string => some (.text t.text)
  | .int => (Literal.readInteger t.text).map .integer
  | .float => (Literal.readFloat t.text).map .float
  | .guid => (Guid.read t.text).map .guid
  | .dateTime => (Timestamp.read t.text).map .time
  | _ => none

/-- The kind of a word.  Words that start with a digit are numbers or points of time, unless they
are identifiers of 128 bits. -/
def classify (word : List Char) : Kind :=
  let s := String.ofList word
  if (Guid.read s).isSome then .guid
  else match word with
    | [] => .ident
    | c :: _ =>
      if !c.isDigit then .ident
      else if (Timestamp.read s).isSome then .dateTime
      else if (Literal.floatBody? s).isSome then .float
      else .int

end Token

end TableQuery
