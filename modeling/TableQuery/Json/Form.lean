import TableQuery.Json.Skipping

/-!
# Json/Form — JSON text read into values of a known form

A form is a text, a flag, a count, a list, a record or a choice between two names.  Errors come in
reading order: a value of the wrong type is refused before its inside is looked at, a name given
twice when it is met the second time, a missing name at the closing brace.

Records may also be written as lists, with their fields in order.  A choice is a name alone, or an
object whose only member has that name.  Lists, records and choices may be nested to a depth that is
given to the reader: the number of brackets and braces it may still open.
-/

namespace TableQuery.Json.Reader

/-- The depth of brackets and braces that a whole text may have. -/
def maxDepth : Nat := 127

/-- Refuses the next value for its type.  A value that holds no other is read first. -/
def wrongType {α : Type} (expected : String) : Reader α := located do
  match ← peek with
  | some 'n' =>
    advance
    expectWord ['u', 'l', 'l']
    misfit (.type .null expected)
  | some 't' =>
    advance
    expectWord ['r', 'u', 'e']
    misfit (.type (.boolean true) expected)
  | some 'f' =>
    advance
    expectWord ['a', 'l', 's', 'e']
    misfit (.type (.boolean false) expected)
  | some '-' =>
    advance
    misfit (.type (← numeral true).found expected)
  | some '"' =>
    advance
    misfit (.type (.string (← stringBody false)) expected)
  | some '[' => misfit (.type .sequence expected)
  | some '\x7b' => misfit (.type .map expected)
  | some c =>
    if c.isDigit then misfit (.type (← numeral false).found expected)
    else failNext .expectedValue
  | none => failNext .expectedValue

/-- The first character of a value that must be there. -/
def peekValue : Reader Char := do
  match ← peekToken with
  | none => failNext .eofInValue
  | some c => return c

/-! ## Values that hold no other -/

/-- Reads a text. -/
def string : Reader String := do
  if (← peekValue) == '"' then
    advance
    stringBody false
  else wrongType "a string"

/-- Reads true or false. -/
def flag : Reader Bool := do
  let c ← peekValue
  if c == 't' then
    advance
    expectWord ['r', 'u', 'e']
    return true
  else if c == 'f' then
    advance
    expectWord ['a', 'l', 's', 'e']
    return false
  else wrongType "a boolean"

/-- A numeral as a count from 0 to 2^64 - 1. -/
def countOf : Numeral → Reader Nat
  | .integer n => if n < 0 then misfit (.value (.integer n) "u64") else return n.toNat
  | .float x => misfit (.type (.float x) "u64")

/-- Reads a count. -/
def count : Reader Nat := do
  let c ← peekValue
  if c == '-' then
    advance
    let n ← numeral true
    located (countOf n)
  else if c.isDigit then
    let n ← numeral false
    located (countOf n)
  else wrongType "u64"

/-- Reads null. -/
def unit : Reader Unit := do
  if (← peekValue) == 'n' then
    advance
    expectWord ['u', 'l', 'l']
  else wrongType "unit"

/-- Reads null as nothing, and anything else as the value it is. -/
def optional {α : Type} (r : Reader α) : Reader (Option α) := do
  if (← peekToken) == some 'n' then
    advance
    expectWord ['u', 'l', 'l']
    return none
  else return some (← r)

/-! ## Lists -/

/-- The items of a list, one for each unit of fuel at most. -/
def items {α : Type} (r : Reader α) : Nat → Bool → Reader (List α)
  | 0, _ => return []
  | fuel + 1, first => do
    if ← hasNextItem first then
      let a ← r
      let as ← items r fuel false
      return a :: as
    else return []

/-- Reads a list whose items are read at the depth that is left. -/
def list {α : Type} (r : Nat → Reader α) (depth : Nat) : Reader (List α) := do
  if (← peekValue) == '[' then
    match depth with
    | 0 => failNext .tooDeep
    | depth + 1 =>
      let fuel := (← get).rest.length
      located (closedBy (do advance; items (r depth) fuel true) listEnd)
  else wrongType "a sequence"

/-! ## Records -/

/-- The form of a record: its name, its fields in order, each with the reader that sets it, and the
fields that must be there. -/
structure Record (α : Type) where
  name : String
  fields : List (String × (Nat → α → Reader α))
  required : List String

/-- The reader of a field. -/
def Record.field? {α : Type} (form : Record α) (name : String) : Option (Nat → α → Reader α) :=
  (form.fields.find? fun f => f.1 = name).map Prod.snd

/-- Sets the fields from the items of a list.  Fields behind the last item stay as they are. -/
def Record.ofItems {α : Type} (form : Record α) (depth : Nat) :
    Nat → List (String × (Nat → α → Reader α)) → α → Reader α
  | _, [], a => return a
  | i, (name, set) :: rest, a => do
    if ← hasNextItem (i = 0) then
      let a ← set depth a
      form.ofItems depth (i + 1) rest a
    else if form.required.contains name then
      misfit (.length i s!"{form.name} with {form.fields.length} elements")
    else form.ofItems depth (i + 1) rest a

/-- Sets the fields from the members of an object; names that are no fields are skipped. -/
def Record.ofMembers {α : Type} (form : Record α) (depth : Nat) :
    Nat → Bool → List String → α → Reader α
  | 0, _, _, a => return a
  | fuel + 1, first, seen, a => do
    if ← hasNextMember first then
      advance
      let name ← stringBody false
      match form.field? name with
      | none =>
        colon
        skipValue
        form.ofMembers depth fuel false seen a
      | some set =>
        if seen.contains name then misfit (.duplicateField name)
        colon
        let a ← set depth a
        form.ofMembers depth fuel false (name :: seen) a
    else
      match form.required.find? fun name => !seen.contains name with
      | some name => misfit (.missingField name)
      | none => return a

/-- Reads a record, starting from the fields' defaults. -/
def record {α : Type} (form : Record α) (a : α) (depth : Nat) : Reader α := do
  let c ← peekValue
  if c == '[' || c == '\x7b' then
    match depth with
    | 0 => failNext .tooDeep
    | depth + 1 =>
      let fuel := (← get).rest.length
      located (if c == '[' then closedBy (do advance; form.ofItems depth 0 form.fields a) listEnd
        else closedBy (do advance; form.ofMembers depth fuel true [] a) objectEnd)
  else wrongType form.name

/-! ## Choices -/

/-- A choice between two names, each with the reader of what belongs to it. -/
structure Choice (α : Type) where
  first : String
  second : String
  /-- The reader of what stands behind a name; the flag tells the first name. -/
  content : Bool → Nat → Reader α
  /-- What a name alone stands for. -/
  alone : Bool → Reader α

/-- Reads one of the two names behind its opening quote. -/
def Choice.variant {α : Type} (form : Choice α) : Reader Bool := located do
  let name ← stringBody false
  if name == form.first then return true
  else if name == form.second then return false
  else misfit (.unknownVariant name form.first form.second)

/-- Reads a choice: a name alone, or an object with the name as its only member. -/
def choice {α : Type} (form : Choice α) (depth : Nat) : Reader α := do
  let c ← peekValue
  if c == '\x7b' then
    match depth with
    | 0 => failNext .tooDeep
    | depth + 1 =>
      advance
      openName
      let which ← form.variant
      colon
      let a ← form.content which depth
      match ← peekToken with
      | none => failHere .eofInObject
      | some '\x7d' =>
        advance
        return a
      | some _ => failHere .expectedValue
  else if c == '"' then
    advance
    form.alone (← form.variant)
  else failNext .expectedValue

end TableQuery.Json.Reader
