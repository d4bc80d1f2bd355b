import TableQuery.Query
import TableQuery.Schema.Json

/-!
# Resource — a schema with its limits, as a file describes it

A resource is described by a JSON file.  The file may be missing, may not be readable as text, or
may hold something else; each of these is an error of its own.
-/

namespace TableQuery

open Json Json.Reader

/-- A schema and what is allowed on it. -/
structure Resource where
  schema : Schema
  options : QueryOptions

namespace Resource

/-- The form of a resource. -/
def form : Record Resource where
  name := "struct ResourceConfig"
  fields := [
    ("schema", fun depth r => do return { r with schema := ← Schema.reader depth }),
    ("options", fun depth r => do return { r with options := ← QueryOptions.reader depth })]
  required := ["schema"]

/-- Reads the text of a resource. -/
def ofText (s : String) : Except ReadError Resource :=
  readText (record form ⟨⟨"", []⟩, {}⟩ maxDepth) s

/-- The resource that stands in where there is no file. -/
def sample : Resource where
  schema := {
    table := "users"
    members := [
      .embedded "" [.field ⟨"Age", none, some "user_age"⟩],
      .field (.named "UserId"),
      .field (.named "Firstname"),
      .field (.named "Balance"),
      .field (.named "DateOfBirth"),
      .field ⟨"JsonProp", some "random_json_name", none⟩] }
  options := { maxTop := some 100 }

/-! ## Files -/

/-- What is found at a path. -/
inductive File where
  | missing
  | unreadable (reason : String)
  | text (s : String)

/-- The content of a file: its text, if the bytes are UTF-8. -/
def File.ofBytes (bytes : ByteArray) : File :=
  match String.fromUTF8? bytes with
  | some s => .text s
  | none => .unreadable "stream did not contain valid UTF-8"

/-- Why a file gives no resource. -/
inductive LoadError where
  | missing (path : String)
  | unreadable (path reason : String)
  | malformed (path : String) (error : ReadError)

/-- The words for an error. -/
def LoadError.message : LoadError → String
  | .missing path => s!"config file does not exist: {path}"
  | .unreadable path reason => s!"cannot read config file {path}: {reason}"
  | .malformed path error => s!"cannot parse config file {path}: {error.message}"

/-- The resource that a file describes. -/
def load (path : String) : File → Except LoadError Resource
  | .missing => .error (.missing path)
  | .unreadable reason => .error (.unreadable path reason)
  | .text s => (ofText s).mapError (.malformed path)

end Resource

end TableQuery
