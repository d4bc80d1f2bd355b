import TableQuery.Json.Numeral

/-!
# Json/Skipping — values that are read and not used

The value of a name that nobody asked for must be JSON and may be anything: a number may be out of
range, an escape may stand for half a character, and lists and objects may be nested to any depth.
What is open is kept as a list of frames, innermost first.
-/

namespace TableQuery.Json.Reader

/-- An open list or object. -/
inductive Frame where
  | list
  | object
  deriving DecidableEq

/-- The mark that closes a frame. -/
def Frame.closer : Frame → Char
  | .list => ']'
  | .object => '\x7d'

/-- The text ends inside a frame. -/
def Frame.eof : Frame → Cause
  | .list => .eofInList
  | .object => .eofInObject

/-- Neither a comma nor the end of a frame. -/
def Frame.expectedEnd : Frame → Cause
  | .list => .expectedListEnd
  | .object => .expectedObjectEnd

/-- Skips a power of ten behind its mark. -/
def skipExponent : Reader Unit := do
  advance
  let sign ← peek
  if sign == some '+' || sign == some '-' then advance
  let ds ← digits
  if ds.isEmpty then failNext .invalidNumber

/-- Skips a fraction behind its point. -/
def skipFraction : Reader Unit := do
  advance
  let ds ← digits
  if ds.isEmpty then failNext .invalidNumber
  if ← exponentFollows then skipExponent

/-- Skips a number behind its sign. -/
def skipNumber : Reader Unit := do
  let c ← peek
  if c == some '0' then
    advance
    if (← peek).any Char.isDigit then failNext .invalidNumber
  else
    let ds ← digits
    if ds.isEmpty then failNext .invalidNumber
  if (← peek) == some '.' then skipFraction
  else if ← exponentFollows then skipExponent

/-- Skips the name of a member and its colon. -/
def skipName : Reader Unit := do
  openName
  let _ ← stringBody true
  colon

/-- Closes the frames that end here; the frames that are left expect another value. -/
def closeFrames : List Frame → Reader (List Frame)
  | [] => return []
  | frame :: outer => do
    match ← peekToken with
    | none => failNext frame.eof
    | some c =>
      if c == ',' then
        advance
        if frame = .object then skipName
        return frame :: outer
      else if c == frame.closer then
        advance
        closeFrames outer
      else failNext frame.expectedEnd

/-- Opens a frame, and closes it at once if it is empty. -/
def openFrame (frame : Frame) (outer : List Frame) : Reader (List Frame) := do
  advance
  match ← peekToken with
  | none => failNext frame.eof
  | some c =>
    if c == frame.closer then
      advance
      closeFrames outer
    else
      if frame = .object then skipName
      return frame :: outer

/-- Skips a value, or the beginning of one; what is open afterwards expects another value. -/
def skipStep (frames : List Frame) : Reader (List Frame) := do
  match ← peekToken with
  | none => failNext .eofInValue
  | some c =>
    if c == '[' then openFrame .list frames
    else if c == '\x7b' then openFrame .object frames
    else
      skipScalar c
      closeFrames frames
where
  /-- A value that holds no other. -/
  skipScalar (c : Char) : Reader Unit := do
    if c == 'n' then
      advance
      expectWord ['u', 'l', 'l']
    else if c == 't' then
      advance
      expectWord ['r', 'u', 'e']
    else if c == 'f' then
      advance
      expectWord ['a', 'l', 's', 'e']
    else if c == '-' then
      advance
      skipNumber
    else if c.isDigit then skipNumber
    else if c == '"' then
      advance
      let _ ← stringBody true
    else failNext .expectedValue

/-- Skips values until no frame is open. -/
def skipAll : Nat → List Frame → Reader Unit
  | 0, _ => return ()
  | fuel + 1, frames => do
    let frames ← skipStep frames
    if frames.isEmpty then return () else skipAll fuel frames

/-- Skips one value.  Each step takes a character at least, so there are no more steps than
characters. -/
def skipValue : Reader Unit := do
  skipAll ((← get).rest.length + 1) []

end TableQuery.Json.Reader
