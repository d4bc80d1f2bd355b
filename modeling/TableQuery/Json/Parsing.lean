import TableQuery.Json.Form

/-!
# Json/Parsing — JSON text read into values of any form

Of two members with one name the later counts.
-/

namespace TableQuery.Json

open Reader

/-- Reads the members of an object, one for each unit of fuel at most. -/
def Reader.members (r : Reader Json) :
    Nat → Bool → List (String × Json) → Reader (List (String × Json))
  | 0, _, ms => return ms
  | fuel + 1, first, ms => do
    if ← hasNextMember first then
      advance
      let name ← stringBody false
      colon
      let v ← r
      Reader.members r fuel false (Json.insert name v ms)
    else return ms

/-- Reads a value that holds no other. -/
def Reader.scalar (c : Char) : Reader Json := do
  if c == 'n' then
    advance
    expectWord ['u', 'l', 'l']
    return .null
  else if c == 't' then
    advance
    expectWord ['r', 'u', 'e']
    return .bool true
  else if c == 'f' then
    advance
    expectWord ['a', 'l', 's', 'e']
    return .bool false
  else if c == '-' then
    advance
    return (← numeral true).toJson
  else if c.isDigit then
    return (← numeral false).toJson
  else if c == '"' then
    advance
    return .string (← stringBody false)
  else failNext .expectedValue

/-- Reads a value whose brackets and braces are nested to some depth at most. -/
def Reader.value : Nat → Reader Json
  | 0 => do
    let c ← peekValue
    if c == '[' || c == '\x7b' then failNext .tooDeep else scalar c
  | depth + 1 => do
    let c ← peekValue
    let fuel := (← get).rest.length
    if c == '[' then
      return .array (← closedBy (do advance; items (Reader.value depth) fuel true) listEnd)
    else if c == '\x7b' then
      return .object (← closedBy (do advance; members (Reader.value depth) fuel true []) objectEnd)
    else scalar c

/-- Reads a JSON text. -/
def parse (s : String) : Except ReadError Json := readText (Reader.value maxDepth) s

end TableQuery.Json
