/-!
# Pattern — matching text against wildcards

In a pattern `%` stands for any run of characters and `_` for any one; behind a backslash a
character stands for itself, and so does a backslash at the end.

A match walks through text and pattern together.  Where the two differ it returns to the last `%`
and lets that one take a character more, so only one place to return to is ever kept.
-/

namespace TableQuery

namespace Pattern

/-- A part of a pattern. -/
inductive Token where
  | char (c : Char)
  /-- Any one character. -/
  | one
  /-- Any run of characters. -/
  | any
  deriving DecidableEq, Repr

/-- The character that takes the meaning from the next one. -/
def escapeChar : Char := '\\'

/-- The parts of a pattern. -/
def tokens : List Char → List Token
  | [] => []
  | '%' :: cs => .any :: tokens cs
  | '_' :: cs => .one :: tokens cs
  | ['\\'] => [.char '\\']
  | '\\' :: c :: cs => .char c :: tokens cs
  | c :: cs => .char c :: tokens cs

/-- Whether a character has a meaning of its own in a pattern. -/
def isSpecial (c : Char) : Bool := c == '%' || c == '_' || c == escapeChar

/-- A character that stands for itself. -/
def literalChar (c : Char) : List Char := if isSpecial c then [escapeChar, c] else [c]

/-- The pattern of the texts that contain a given text. -/
def containing (s : String) : String :=
  String.ofList ('%' :: s.toList.flatMap literalChar ++ ['%'])

/-! ## The walk -/

/-- How far a match has come: the next character of the text, the next part of the pattern, and the
last `%` with the first character it does not take. -/
structure Walk where
  text : Nat
  pattern : Nat
  back : Option (Nat × Nat)
  deriving DecidableEq, Repr

/-- The beginning. -/
def Walk.start : Walk := ⟨0, 0, none⟩

/-- Whether a part of a pattern takes a character. -/
def Token.takes : Token → Char → Bool
  | .char d, c => d == c
  | .one, _ => true
  | .any, _ => false

/-- Returns to the last `%`, which takes a character more; without one the match has failed. -/
def Walk.retreat (w : Walk) : Option Walk :=
  w.back.map fun (p, t) => ⟨t + 1, p + 1, some (p, t + 1)⟩

/-- One step while there is text left, at its character `c`; none if the match has failed. -/
def Walk.step (pattern : Array Token) (c : Char) (w : Walk) : Option Walk :=
  match pattern[w.pattern]? with
  | some .any => some ⟨w.text, w.pattern + 1, some (w.pattern, w.text)⟩
  | some token => if token.takes c then some ⟨w.text + 1, w.pattern + 1, w.back⟩ else w.retreat
  | none => w.retreat

/-- Whether the rest of a pattern matches no text at all: it holds nothing but `%`. -/
def restIsAny (pattern : Array Token) (p : Nat) : Bool := (pattern.toList.drop p).all (· == .any)

/-- Walks on for a number of steps at most; none if they do not suffice. -/
def Walk.run (text : Array Char) (pattern : Array Token) : Nat → Walk → Option Bool
  | 0, _ => none
  | steps + 1, w =>
    match text[w.text]? with
    | none => some (restIsAny pattern w.pattern)
    | some c =>
      match w.step pattern c with
      | none => some false
      | some w => w.run text pattern steps

/-- Steps that suffice: between two retreats no more than the parts of the pattern and the
characters of the text, and no more retreats than characters. -/
def enoughSteps (text pattern : Nat) : Nat := (text + 1) * (text + pattern + 2)

end Pattern

/-- Whether a text matches a pattern. -/
def Pattern.isMatch (text pattern : String) : Bool :=
  let cs := text.toList.toArray
  let ps := (tokens pattern.toList).toArray
  (Walk.start.run cs ps (enoughSteps cs.size ps.size)).getD false

end TableQuery
