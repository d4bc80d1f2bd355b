import TableQuery.Text.Alphabetic
import TableQuery.Text.Characters
import TableQuery.Token

/-!
# Token/Lexer — a query text as a list of tokens

The text is read character by character.  Between tokens four kinds of white space are skipped; a
quote opens a string that runs to the next quote or to the end; a letter, a number or an underscore
opens a word; parentheses and all other characters are tokens by themselves.  The end of the text is
a token of its own, empty and at the end.
-/

namespace TableQuery

open TableQuery.Text

namespace Token

/-- White space that separates tokens. -/
def isSpace (c : Char) : Bool := c == ' ' || c == '\t' || c == '\n' || c == '\r'

/-- A character that may open a word. -/
def opensWord (c : Char) : Bool := isAlphabetic c || isNumeric c || c == '_'

/-- A character that may continue a word. -/
def continuesWord (c : Char) : Bool := opensWord c || c == '-' || c == ':' || c == '.'

/-- The token that is being read: none, or its first byte and its characters so far, last one
first. -/
inductive Pending where
  | none
  | word (start : Nat) (rev : List Char)
  | quote (start : Nat) (rev : List Char)

/-- The token that a finished word makes. -/
def ofWord (start stop : Nat) (rev : List Char) : Token :=
  ⟨classify rev.reverse, String.ofList rev.reverse, ⟨start, stop⟩⟩

/-- The token that a finished string makes. -/
def ofQuote (start stop : Nat) (rev : List Char) : Token :=
  ⟨.string, String.ofList rev.reverse, ⟨start, stop⟩⟩

/-- The token that a single character makes. -/
def ofChar (kind : Kind) (pos : Nat) (c : Char) : Token :=
  ⟨kind, String.singleton c, ⟨pos, pos + c.utf8Size⟩⟩

/-- What a character between tokens makes: a token at once, or the beginning of one. -/
def enter (pos : Nat) (c : Char) : List Token × Pending :=
  if isSpace c then ([], .none)
  else if c == '(' then ([ofChar .leftParen pos c], .none)
  else if c == ')' then ([ofChar .rightParen pos c], .none)
  else if c == '\'' then ([], .quote pos [])
  else if opensWord c then ([], .word pos [c])
  else ([ofChar .illegal pos c], .none)

/-- The tokens of a text that starts at byte `pos`, behind what is pending. -/
def scan : Pending → Nat → List Char → List Token
  | .none, _, [] => []
  | .word start rev, pos, [] => [ofWord start pos rev]
  | .quote start rev, pos, [] => [ofQuote start pos rev]
  | .none, pos, c :: cs =>
    let (ts, p) := enter pos c
    ts ++ scan p (pos + c.utf8Size) cs
  | .word start rev, pos, c :: cs =>
    if continuesWord c then scan (.word start (c :: rev)) (pos + c.utf8Size) cs
    else
      let (ts, p) := enter pos c
      ofWord start pos rev :: ts ++ scan p (pos + c.utf8Size) cs
  | .quote start rev, pos, c :: cs =>
    if c == '\'' then ofQuote start (pos + 1) rev :: scan .none (pos + 1) cs
    else scan (.quote start (c :: rev)) (pos + c.utf8Size) cs

/-- The tokens of a text, without the end. -/
def tokenize (s : String) : List Token := scan .none 0 s.toList

/-- The end of a text. -/
def endOf (s : String) : Token := ⟨.eof, "", ⟨byteLength s.toList, byteLength s.toList⟩⟩

/-- The tokens of a text as a reader sees them: the end follows the last token, for ever. -/
def nth (s : String) (n : Nat) : Token := (tokenize s).getD n (endOf s)

end Token

end TableQuery
