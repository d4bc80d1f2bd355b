import TableQuery.Text.LetterCase

/-!
# Schema/SnakeCase — column names made from property names

`DateOfBirth` becomes `date_of_birth` and `UserID` becomes `user_id`: upper case letters are written
in lower case, and an underscore goes in front of one that begins a part of the name.  It does so
behind a lower case letter or a digit, and at the last capital of several if a lower case letter
follows.
-/

namespace TableQuery

open TableQuery.Text

namespace SnakeCase

/-- Whether an upper case letter begins a part of the name, by its two neighbours. -/
def beginsPart (before after : Option Char) : Bool :=
  match before with
  | none => false
  | some b =>
    if isLowercase b || b.isDigit then true
    else if isUppercase b then after.any isLowercase
    else false

/-- The characters that one character of the name becomes, behind what is written already, last
character first. -/
def write (before : Option Char) (c : Char) (after : Option Char) (rev : List Char) : List Char :=
  if isUppercase c then
    let rev := if beginsPart before after && rev.head? != some '_' then '_' :: rev else rev
    (lowercase c).reverse ++ rev
  else c :: rev

/-- The rest of a name behind a character, added to what is written already. -/
def go : Option Char → List Char → List Char → List Char
  | _, [], rev => rev
  | before, c :: cs, rev => go (some c) cs (write before c cs.head? rev)

end SnakeCase

/-- The column name made from a property name. -/
def snakeCase (name : String) : String := String.ofList (SnakeCase.go none name.toList []).reverse

end TableQuery
