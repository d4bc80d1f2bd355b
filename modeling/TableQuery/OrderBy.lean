import TableQuery.Token.Lexer

/-!
# OrderBy — the keys a result is sorted by

An order-by text lists properties, each with a direction behind it or ascending.  Whatever is no
word only separates: commas, numbers, quoted strings.
-/

namespace TableQuery

/-- Which way a key sorts. -/
inductive Direction where
  | ascending
  | descending
  deriving DecidableEq, Repr

/-- The word for a direction. -/
def Direction.keyword : Direction → String
  | .ascending => "asc"
  | .descending => "desc"

/-- A property to sort by. -/
structure OrderBy where
  field : String
  direction : Direction
  deriving DecidableEq, Repr

namespace OrderBy

/-- The direction that a token names. -/
def direction? (t : Token) : Option Direction :=
  if t.isKeyword Direction.descending.keyword then some .descending
  else if t.isKeyword Direction.ascending.keyword then some .ascending
  else none

/-- The keys that a list of tokens names.  The word behind a property is its direction if it can be
one, else the next property. -/
def ofTokens : List Token → List OrderBy
  | [] => []
  | [t] => if t.kind = .ident then [⟨t.text, .ascending⟩] else []
  | t :: u :: rest =>
    if t.kind ≠ .ident then ofTokens (u :: rest)
    else match direction? u with
      | some d => ⟨t.text, d⟩ :: ofTokens rest
      | none => ⟨t.text, .ascending⟩ :: ofTokens (u :: rest)

/-- Reads an order-by text; every text is one. -/
def read (s : String) : List OrderBy := ofTokens (Token.tokenize s)

end OrderBy

end TableQuery
