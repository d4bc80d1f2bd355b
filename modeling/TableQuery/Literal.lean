import TableQuery.Guid
import TableQuery.Number.Decimal
import TableQuery.Number.Integer
import TableQuery.Number.Layout
import TableQuery.Text.Printable
import TableQuery.Time.Reading

/-!
# Literal — the values a filter compares with

A filter holds texts, whole numbers of 64 bits, floating point numbers, identifiers and points of
time.  A floating point number is marked by a letter `f` behind it; everything else is told from the
shape of the word alone.
-/

namespace TableQuery

open TableQuery.Number TableQuery.Time

/-- A value written in a filter. -/
inductive Literal where
  | text (s : String)
  | integer (n : Int)
  | float (x : Binary64)
  | guid (g : Guid)
  | time (t : Timestamp)
  deriving DecidableEq

namespace Literal

/-- The text in front of the letter that marks a floating point number. -/
def floatBody? (s : String) : Option String :=
  match s.toList.getLast? with
  | some 'f' => some (String.ofList s.toList.dropLast)
  | some 'F' => some (String.ofList s.toList.dropLast)
  | _ => none

/-- Reads a floating point number, with or without its mark. -/
def readFloat (s : String) : Option Binary64 := Binary64.read ((floatBody? s).getD s)

/-- Reads a whole number. -/
def readInteger (s : String) : Option Int := (readSigned s).toOption

/-- The value as a filter or a message shows it; the text of a text stands between single quotes as
it is. -/
def display : Literal → String
  | .text s => "'" ++ s ++ "'"
  | .integer n => integerText n
  | .float x => Layout.plain.text x
  | .guid g => g.text
  | .time t => t.text

end Literal

end TableQuery
