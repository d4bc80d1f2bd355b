import TableQuery.Json
import TableQuery.Text.Printable

/-!
# Json/ReadError — why a JSON text is refused

A text may end too early, may be no JSON, or may be JSON of another form than was asked for.  The
place of an error counts lines from one and bytes within the line.
-/

namespace TableQuery.Json

open TableQuery.Number TableQuery.Text

/-- A place in a text: its line, and the bytes of that line in front of it. -/
structure Place where
  line : Nat
  column : Nat
  deriving DecidableEq, Repr

/-- The place behind a character. -/
def Place.after (p : Place) (c : Char) : Place :=
  if c = '\n' then ⟨p.line + 1, 0⟩ else ⟨p.line, p.column + c.utf8Size⟩

/-- What stands where something else was asked for. -/
inductive Found where
  | null
  | boolean (b : Bool)
  | integer (n : Int)
  | float (x : Binary64)
  | string (s : String)
  | sequence
  | map
  | unitVariant

/-- The words for what was found. -/
def Found.describe : Found → String
  | .null => "null"
  | .boolean true => "boolean `true`"
  | .boolean false => "boolean `false`"
  | .integer n => "integer `" ++ integerText n ++ "`"
  | .float x => "floating point `" ++ Layout.json.text x ++ "`"
  | .string s => "string " ++ quoted s
  | .sequence => "sequence"
  | .map => "map"
  | .unitVariant => "unit variant"

/-- How a well-formed text misses the form that was asked for. -/
inductive Mismatch where
  | type (found : Found) (expected : String)
  | value (found : Found) (expected : String)
  | length (n : Nat) (expected : String)
  | missingField (name : String)
  | duplicateField (name : String)
  | unknownVariant (name first second : String)

/-- The words for a mismatch. -/
def Mismatch.message : Mismatch → String
  | .type found expected => "invalid type: " ++ found.describe ++ ", expected " ++ expected
  | .value found expected => "invalid value: " ++ found.describe ++ ", expected " ++ expected
  | .length n expected => "invalid length " ++ naturalText n ++ ", expected " ++ expected
  | .missingField name => "missing field `" ++ name ++ "`"
  | .duplicateField name => "duplicate field `" ++ name ++ "`"
  | .unknownVariant name first second =>
    "unknown variant `" ++ name ++ "`, expected `" ++ first ++ "` or `" ++ second ++ "`"

/-- Why a text is refused. -/
inductive Cause where
  | eofInList
  | eofInObject
  | eofInString
  | eofInValue
  | expectedColon
  | expectedListEnd
  | expectedObjectEnd
  | expectedIdent
  | expectedValue
  | invalidEscape
  | invalidNumber
  | numberOutOfRange
  | controlCharacter
  | keyMustBeString
  | loneSurrogate
  | trailingComma
  | trailingCharacters
  | unfinishedPair
  | tooDeep
  | mismatch (m : Mismatch)

/-- The three kinds of refusal. -/
inductive Category where
  /-- The text ends too early. -/
  | unfinished
  /-- The text is no JSON, or nested too deeply. -/
  | malformed
  /-- The text is JSON of another form. -/
  | mismatched
  deriving DecidableEq

/-- The kind of a cause. -/
def Cause.category : Cause → Category
  | .eofInList | .eofInObject | .eofInString | .eofInValue => .unfinished
  | .mismatch _ => .mismatched
  | _ => .malformed

/-- The words for a cause. -/
def Cause.message : Cause → String
  | .eofInList => "EOF while parsing a list"
  | .eofInObject => "EOF while parsing an object"
  | .eofInString => "EOF while parsing a string"
  | .eofInValue => "EOF while parsing a value"
  | .expectedColon => "expected `:`"
  | .expectedListEnd => "expected `,` or `]`"
  | .expectedObjectEnd => "expected `,` or `\x7d`"
  | .expectedIdent => "expected ident"
  | .expectedValue => "expected value"
  | .invalidEscape => "invalid escape"
  | .invalidNumber => "invalid number"
  | .numberOutOfRange => "number out of range"
  | .controlCharacter => "control character (\\u0000-\\u001F) found while parsing a string"
  | .keyMustBeString => "key must be a string"
  | .loneSurrogate => "lone leading surrogate in hex escape"
  | .trailingComma => "trailing comma"
  | .trailingCharacters => "trailing characters"
  | .unfinishedPair => "unexpected end of hex escape"
  | .tooDeep => "recursion limit exceeded"
  | .mismatch m => m.message

/-- A cause, and its place once it is known. -/
structure ReadError where
  cause : Cause
  place : Option Place

/-- The words for an error, with its place. -/
def ReadError.message (e : ReadError) : String :=
  match e.place with
  | none => e.cause.message
  | some p =>
    e.cause.message ++ " at line " ++ naturalText p.line ++ " column " ++ naturalText p.column

end TableQuery.Json
