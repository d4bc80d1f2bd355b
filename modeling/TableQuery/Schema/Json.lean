import TableQuery.Json.Form
import TableQuery.Schema

/-!
# Schema/Json — schemas as JSON text

A schema is an object with its table and its members; a member is an object whose only name tells a
field from an embedded schema.  A field without an alias or a column of its own is written without
them.
-/

namespace TableQuery

open Json Json.Reader

/-! ## Writing -/

/-- The member of an object for a text that may be absent. -/
def Json.optionalMember (name : String) : Option String → List (String × Json)
  | none => []
  | some s => [(name, .string s)]

/-- A field as JSON. -/
def Field.toJson (f : Field) : Json :=
  .object ((("name", .string f.name) :: Json.optionalMember "alias" f.clientAlias) ++
    Json.optionalMember "column" f.column)

/-- A schema as JSON, given its members. -/
def Schema.jsonOf (table : String) (members : List Json) : Json :=
  .object [("table", .string table), ("members", .array members)]

mutual

/-- A member as JSON. -/
def Member.toJson : Member → Json
  | .field f => .object [("field", f.toJson)]
  | .embedded table members =>
    .object [("embedded", Schema.jsonOf table (Member.allToJson members))]

/-- Members as JSON. -/
def Member.allToJson : List Member → List Json
  | [] => []
  | m :: ms => m.toJson :: Member.allToJson ms

end

/-- A schema as JSON. -/
def Schema.toJson (s : Schema) : Json := Schema.jsonOf s.table (Member.allToJson s.members)

/-! ## Reading -/

/-- The form of a field. -/
def Field.form : Record Field where
  name := "struct FieldDef"
  fields := [
    ("name", fun _ f => do return { f with name := ← string }),
    ("alias", fun _ f => do return { f with clientAlias := ← optional string }),
    ("column", fun _ f => do return { f with column := ← optional string })]
  required := ["name"]

/-- Reads a field. -/
def Field.reader (depth : Nat) : Reader Field := record Field.form (.named "") depth

/-- The form of a member, given the reader of an embedded schema. -/
def Member.form (embedded : Nat → Reader Schema) : Choice Member where
  first := "field"
  second := "embedded"
  content which depth := do
    if which then return .field (← Field.reader depth) else return (← embedded depth).embed
  alone _ := misfit (.type .unitVariant "newtype variant")

/-- The form of a schema, given the reader of an embedded one. -/
def Schema.form (embedded : Nat → Reader Schema) : Record Schema where
  name := "struct Schema"
  fields := [
    ("table", fun _ s => do return { s with table := ← string }),
    ("members", fun depth s => do
      return { s with members := ← list (choice (Member.form embedded)) depth })]
  required := []

/-- Reads a schema whose embeddings are nested fewer than a number of times. -/
def Schema.readerWithin : Nat → Nat → Reader Schema
  | 0, _ => failNext .tooDeep
  | levels + 1, depth => record (Schema.form (Schema.readerWithin levels)) ⟨"", []⟩ depth

/-- Reads a schema.  Each embedding opens brackets and braces of its own, so there are fewer
embeddings than the depth allows. -/
def Schema.reader (depth : Nat) : Reader Schema := Schema.readerWithin (depth + 1) depth

/-- Reads the text of a schema. -/
def Schema.ofText (s : String) : Except ReadError Schema := readText (Schema.reader maxDepth) s

end TableQuery
