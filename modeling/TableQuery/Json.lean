import TableQuery.Number.Integer
import TableQuery.Number.Layout

/-!
# Json — the values of JSON text, and that text

Whole numbers that fit into 64 bits, with or without a sign, are kept exactly; every other number is
a floating point number.  The text of a value is compact: no white space, and in a string only the
quote, the backslash and the controls are escaped.
-/

namespace TableQuery

open TableQuery.Number TableQuery.Text

/-- A JSON value.  The members of an object are listed with distinct names. -/
inductive Json where
  | null
  | bool (b : Bool)
  | integer (n : Int)
  | float (x : Binary64)
  | string (s : String)
  | array (items : List Json)
  | object (members : List (String × Json))

namespace Json

/-- The member of a list with a given name. -/
def lookup (name : String) : List (String × Json) → Option Json
  | [] => none
  | (k, v) :: rest => if k = name then some v else lookup name rest

/-- The member of an object; no other value has members. -/
def get? (name : String) : Json → Option Json
  | .object members => lookup name members
  | _ => none

/-- Sets the member with a given name, in its place if it is there, else at the end. -/
def insert (name : String) (v : Json) : List (String × Json) → List (String × Json)
  | [] => [(name, v)]
  | (k, w) :: rest => if k = name then (k, v) :: rest else (k, w) :: insert name v rest

/-! ## Text -/

/-- A character of a string. -/
def escapedChar (c : Char) : List Char :=
  match c with
  | '"' => ['\\', '"']
  | '\\' => ['\\', '\\']
  | '\x08' => ['\\', 'b']
  | '\x0c' => ['\\', 'f']
  | '\n' => ['\\', 'n']
  | '\r' => ['\\', 'r']
  | '\t' => ['\\', 't']
  | _ =>
    if c.toNat < 0x20 then
      ['\\', 'u', '0', '0', hexDigit (c.toNat / 16), hexDigit (c.toNat % 16)]
    else [c]

/-- A string between its quotes. -/
def stringText (s : String) : List Char := '"' :: s.toList.flatMap escapedChar ++ ['"']

mutual

/-- The text of a value. -/
def text : Json → List Char
  | .null => ['n', 'u', 'l', 'l']
  | .bool true => ['t', 'r', 'u', 'e']
  | .bool false => ['f', 'a', 'l', 's', 'e']
  | .integer n => (integerText n).toList
  | .float x => (Layout.json.text x).toList
  | .string s => stringText s
  | .array [] => ['[', ']']
  | .array (v :: vs) => '[' :: text v ++ itemsText vs ++ [']']
  | .object [] => ['\x7b', '\x7d']
  | .object ((k, v) :: ms) => '\x7b' :: stringText k ++ ':' :: text v ++ membersText ms ++ ['\x7d']

/-- The text of the items behind the first one. -/
def itemsText : List Json → List Char
  | [] => []
  | v :: vs => ',' :: text v ++ itemsText vs

/-- The text of the members behind the first one. -/
def membersText : List (String × Json) → List Char
  | [] => []
  | (k, v) :: ms => ',' :: stringText k ++ ':' :: text v ++ membersText ms

end

/-- The compact text of a value. -/
def compact (v : Json) : String := String.ofList v.text

end Json

end TableQuery
