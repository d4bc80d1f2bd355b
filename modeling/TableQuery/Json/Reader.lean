import TableQuery.Json.ReadError

/-!
# Json/Reader — walking through a JSON text

A reader takes characters off the front of a text and keeps count of the place.  Refusing leaves it
where it stands, since the place of some errors is only settled by the reader around them: an error
without a place gets the one where that reader has come to (`located`).

Errors stand either where the reader is (`failHere`) or behind the next byte (`failNext`), the one
that could not be taken.
-/

namespace TableQuery.Json

open TableQuery.Text

/-- The rest of a text, and its place. -/
structure Cursor where
  rest : List Char
  place : Place

/-- The beginning of a text. -/
def Cursor.start (s : String) : Cursor := ⟨s.toList, ⟨1, 0⟩⟩

/-- The place behind the next byte. -/
def Cursor.nextPlace (c : Cursor) : Place :=
  match c.rest with
  | [] => c.place
  | '\n' :: _ => ⟨c.place.line + 1, 0⟩
  | _ :: _ => ⟨c.place.line, c.place.column + 1⟩

/-- The cursor behind the next character. -/
def Cursor.next (c : Cursor) : Cursor :=
  match c.rest with
  | [] => c
  | d :: rest => ⟨rest, c.place.after d⟩

/-- A computation that reads. -/
abbrev Reader (α : Type) := ExceptT ReadError (StateM Cursor) α

namespace Reader

/-- Runs a reader, for its outcome and where it stopped. -/
def runAt {α : Type} (r : Reader α) (c : Cursor) : Except ReadError α × Cursor := r.run.run c

/-- Refuses where the reader stands. -/
def failHere {α : Type} (cause : Cause) : Reader α := do
  throw ⟨cause, some (← get).place⟩

/-- Refuses the next byte. -/
def failNext {α : Type} (cause : Cause) : Reader α := do
  throw ⟨cause, some (← get).nextPlace⟩

/-- Refuses the form of what was read, at a place to be settled. -/
def misfit {α : Type} (m : Mismatch) : Reader α := throw ⟨.mismatch m, none⟩

/-- Settles the place of an error: where the reader has come to. -/
def located {α : Type} (r : Reader α) : Reader α := fun c =>
  match r.runAt c with
  | (.error ⟨cause, none⟩, c') => (.error ⟨cause, some c'.place⟩, c')
  | other => other

/-- Reads a body and what closes it.  The closing is tried even behind an error, which comes first
all the same. -/
def closedBy {α : Type} (body : Reader α) (close : Reader Unit) : Reader α := fun c =>
  let (r, c) := body.runAt c
  let (k, c) := close.runAt c
  match r, k with
  | .ok a, .ok () => (.ok a, c)
  | .ok _, .error e => (.error e, c)
  | .error e, _ => (.error e, c)

/-- The next character, which stays. -/
def peek : Reader (Option Char) := do return (← get).rest.head?

/-- Takes the next character. -/
def advance : Reader Unit := modify Cursor.next

/-- White space of JSON. -/
def isSpace (c : Char) : Bool := c == ' ' || c == '\n' || c == '\t' || c == '\r'

/-- The cursor behind white space. -/
def skipSpacesFrom : List Char → Place → Cursor
  | [], p => ⟨[], p⟩
  | c :: cs, p => if isSpace c then skipSpacesFrom cs (p.after c) else ⟨c :: cs, p⟩

/-- Skips white space and shows the character behind it. -/
def peekToken : Reader (Option Char) := do
  modify fun c => skipSpacesFrom c.rest c.place
  peek

/-- Takes the letters of a word. -/
def expectWord : List Char → Reader Unit
  | [] => return ()
  | c :: cs => do
    match ← peek with
    | none => failHere .eofInValue
    | some d =>
      if d = c then
        advance
        expectWord cs
      else failNext .expectedIdent

/-! ## Strings -/

/-- The place some bytes further on, or the end. -/
def placeAfterBytes : Nat → Place → List Char → Place
  | 0, p, _ => p
  | _, p, [] => p
  | n + 1, p, c :: cs =>
    if c.utf8Size ≤ n + 1 then placeAfterBytes (n + 1 - c.utf8Size) (p.after c) cs
    else ⟨p.line, p.column + n + 1⟩

/-- The four hexadecimal digits of an escape. -/
def hexEscape (c : Cursor) : Except ReadError Nat :=
  match (c.rest.take 4).mapM hexValue? with
  | some [a, b, d, e] => .ok (((a * 16 + b) * 16 + d) * 16 + e)
  | _ =>
    let place := placeAfterBytes 4 c.place c.rest
    .error ⟨if byteLength c.rest < 4 then .eofInString else .invalidEscape, some place⟩

/-- The character that two halves of a surrogate pair denote. -/
def surrogatePair (high low : Nat) : Char :=
  Char.ofNat ((high - 0xD800) * 0x400 + (low - 0xDC00) + 0x10000)

/-- The cursor some characters further on. -/
def Cursor.skip : Nat → Cursor → Cursor
  | 0, c => c
  | n + 1, c => Cursor.skip n c.next

/-- The second half of a surrogate pair, with the number of characters it takes. -/
def secondHalf (high : Nat) (c : Cursor) : Except ReadError (Char × Nat) :=
  match c.rest with
  | '\\' :: 'u' :: _ => do
    let c := c.next.next
    let low ← hexEscape c
    if 0xDC00 ≤ low ∧ low ≤ 0xDFFF then return (surrogatePair high low, 6)
    else throw ⟨.loneSurrogate, some (Cursor.skip 4 c).place⟩
  | ['\\'] => .error ⟨.eofInString, some c.next.place⟩
  | '\\' :: _ => .error ⟨.unfinishedPair, some c.next.nextPlace⟩
  | [] => .error ⟨.eofInString, some c.place⟩
  | _ => .error ⟨.unfinishedPair, some c.nextPlace⟩

/-- The escape behind `\u`, with the number of characters it takes.  A lenient reader does not ask
whether the code point stands for a character. -/
def unicodeEscape (lenient : Bool) (c : Cursor) : Except ReadError (Char × Nat) := do
  let n ← hexEscape c
  let c := Cursor.skip 4 c
  if lenient then return (Char.ofNat n, 4)
  else if 0xDC00 ≤ n ∧ n ≤ 0xDFFF then throw ⟨.loneSurrogate, some c.place⟩
  else if 0xD800 ≤ n ∧ n ≤ 0xDBFF then
    let (ch, k) ← secondHalf n c
    return (ch, 4 + k)
  else return (Char.ofNat n, 4)

/-- The escape behind a backslash, with the number of characters it takes. -/
def escape (lenient : Bool) (c : Cursor) : Except ReadError (Char × Nat) :=
  match c.rest with
  | [] => .error ⟨.eofInString, some c.place⟩
  | '"' :: _ => .ok ('"', 1)
  | '\\' :: _ => .ok ('\\', 1)
  | '/' :: _ => .ok ('/', 1)
  | 'b' :: _ => .ok ('\x08', 1)
  | 'f' :: _ => .ok ('\x0c', 1)
  | 'n' :: _ => .ok ('\n', 1)
  | 'r' :: _ => .ok ('\r', 1)
  | 't' :: _ => .ok ('\t', 1)
  | 'u' :: _ => do
    let (ch, k) ← unicodeEscape lenient c.next
    return (ch, k + 1)
  | _ => .error ⟨.invalidEscape, some c.nextPlace⟩

/-- The characters of a string up to its closing quote, behind those already read, last one first.
The first `skip` characters belong to an escape that has been read. -/
def stringFrom (lenient : Bool) :
    (skip : Nat) → (rev : List Char) → Place → List Char → Except ReadError (String × Cursor)
  | _, _, p, [] => .error ⟨.eofInString, some p⟩
  | skip + 1, rev, p, c :: cs => stringFrom lenient skip rev (p.after c) cs
  | 0, rev, p, c :: cs =>
    if c = '"' then .ok (String.ofList rev.reverse, ⟨cs, p.after c⟩)
    else if c = '\\' then
      match escape lenient ⟨cs, p.after c⟩ with
      | .error e => .error e
      | .ok (ch, k) => stringFrom lenient k (ch :: rev) (p.after c) cs
    else if c.toNat < 0x20 then
      .error ⟨.controlCharacter, some (if lenient then p else (Cursor.mk (c :: cs) p).nextPlace)⟩
    else stringFrom lenient 0 (c :: rev) (p.after c) cs

/-- Reads a string behind its opening quote. -/
def stringBody (lenient : Bool) : Reader String := do
  let c ← get
  let (s, c) ← stringFrom lenient 0 [] c.place c.rest
  set c
  return s

/-! ## Between items -/

/-- Whether another item of a list follows. -/
def hasNextItem (first : Bool) : Reader Bool := do
  match ← peekToken with
  | none => failNext .eofInList
  | some ']' => return false
  | some c =>
    if c == ',' && !first then
      advance
      match ← peekToken with
      | none => failNext .eofInValue
      | some ']' => failNext .trailingComma
      | some _ => return true
    else if first then return true
    else failNext .expectedListEnd

/-- Whether another member of an object follows; then its name comes next. -/
def hasNextMember (first : Bool) : Reader Bool := do
  match ← peekToken with
  | none => failNext .eofInObject
  | some '\x7d' => return false
  | some c =>
    if c == ',' && !first then
      advance
      name
    else if first then name
    else failNext .expectedObjectEnd
where
  /-- A quote must come next. -/
  name : Reader Bool := do
    match ← peekToken with
    | none => failNext .eofInValue
    | some '"' => return true
    | some '\x7d' => failNext .trailingComma
    | some _ => failNext .keyMustBeString

/-- The opening quote of a name that must come next. -/
def openName : Reader Unit := do
  match ← peekToken with
  | none => failNext .eofInObject
  | some '"' => advance
  | some _ => failNext .keyMustBeString

/-- The colon behind a name. -/
def colon : Reader Unit := do
  match ← peekToken with
  | none => failNext .eofInObject
  | some ':' => advance
  | some _ => failNext .expectedColon

/-- The end of a list. -/
def listEnd : Reader Unit := do
  match ← peekToken with
  | none => failNext .eofInList
  | some ']' => advance
  | some ',' =>
    advance
    match ← peekToken with
    | some ']' => failNext .trailingComma
    | _ => failNext .trailingCharacters
  | some _ => failNext .trailingCharacters

/-- The end of an object. -/
def objectEnd : Reader Unit := do
  match ← peekToken with
  | none => failNext .eofInObject
  | some '\x7d' => advance
  | some ',' => failNext .trailingComma
  | some _ => failNext .trailingCharacters

/-- The end of the text. -/
def textEnd : Reader Unit := do
  match ← peekToken with
  | none => return ()
  | some _ => failNext .trailingCharacters

/-- Reads a whole text. -/
def readText {α : Type} (r : Reader α) (s : String) : Except ReadError α :=
  ((do let a ← r; textEnd; return a : Reader α).runAt (Cursor.start s)).1

end Reader

end TableQuery.Json
