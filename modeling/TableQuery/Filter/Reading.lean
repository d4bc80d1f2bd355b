import TableQuery.Filter
import TableQuery.Token.Lexer

/-!
# Filter/Reading — filters read from text

    disjunction := conjunction | disjunction 'or' conjunction
    conjunction := term | conjunction 'and' term
    term        := '(' disjunction ')' | property operator literal

The tokens are taken one at a time, and each either moves the reader to a new state or is an error
at once: a text can be refused no later than at its first token that no filter could continue with.
The reader's state is the open parentheses, innermost first, with what has been read in each, and
the token that it waits for.
-/

namespace TableQuery

namespace Filter

/-- What a reader misses at a token, or cannot take there. -/
inductive Cause where
  /-- A property or an opening parenthesis is missing. -/
  | property
  /-- An operator is missing behind a property. -/
  | operator (field : String)
  /-- A literal is missing behind an operator. -/
  | literal (op : Operator)
  /-- Only a text can be contained in a text. -/
  | container
  /-- The text of a literal denotes no value of its kind. -/
  | value
  /-- A closing parenthesis is missing. -/
  | paren
  /-- The filter was complete before. -/
  | trailing
  deriving DecidableEq, Repr

/-- A reason to refuse a text, and the token that gives it. -/
structure ReadError where
  cause : Cause
  found : Token
  deriving DecidableEq, Repr

/-- The words for an error. -/
def ReadError.message (e : ReadError) : String :=
  let found := e.found.text
  match e.cause with
  | .property => s!"Expected a property name, found '{found}'"
  | .operator field => s!"Expected a comparison operator after '{field}', found '{found}'"
  | .literal op => s!"Expected a literal after '{op.keyword}', found '{found}'"
  | .container => s!"'contains' requires a string literal, found '{found}'"
  | .value => s!"Invalid literal '{found}'"
  | .paren => s!"Expected ')', found '{found}'"
  | .trailing => s!"unexpected token '{found}'"

/-- The place of an error; the end of the text is no place. -/
def ReadError.span (e : ReadError) : Option Span :=
  if e.found.kind = .eof then none else some e.found.span

/-- What has been read between two parentheses and still waits for its right operand: the left side
of an *or*, and the left side of an *and*. -/
structure Level where
  alternatives : Option Filter
  factors : Option Filter

/-- Nothing read yet. -/
def Level.empty : Level := ⟨none, none⟩

/-- Two operands joined, or the right one alone. -/
def joinLeft (op : Connective) : Option Filter → Filter → Filter
  | none, r => r
  | some l, r => .join op l r

/-- The factors of a level, with a last one. -/
def Level.withFactor (level : Level) (e : Filter) : Filter := joinLeft .and level.factors e

/-- All that a level holds, with a last factor. -/
def Level.close (level : Level) (e : Filter) : Filter :=
  joinLeft .or level.alternatives (level.withFactor e)

/-- The level behind a connective that follows the operand `e`. -/
def Level.join (level : Level) (op : Connective) (e : Filter) : Level :=
  match op with
  | .and => ⟨level.alternatives, some (level.withFactor e)⟩
  | .or => ⟨some (level.close e), none⟩

/-- What the reader waits for. -/
inductive Phase where
  /-- A property or an opening parenthesis. -/
  | operand
  /-- The operator behind a property. -/
  | operator (field : String)
  /-- The literal behind an operator. -/
  | literal (field : String) (op : Operator)
  /-- A connective, a closing parenthesis or the end, behind a complete operand. -/
  | connective (operand : Filter)

/-- The state of the reader: the level it is in, the levels around it, and its phase. -/
structure Reader where
  level : Level
  outer : List Level
  phase : Phase

/-- The state before the first token. -/
def Reader.start : Reader := ⟨.empty, [], .operand⟩

/-- The connective that a token stands for. -/
def connective? (t : Token) : Option Connective :=
  if t.kind = .ident then Connective.ofKeyword? t.text else none

/-- The operator that a token stands for. -/
def operator? (t : Token) : Option Operator :=
  if t.kind = .ident then Operator.ofKeyword? t.text else none

/-- The comparison that a literal completes. -/
def comparison (field : String) (op : Operator) (t : Token) : Except ReadError Filter :=
  if !t.kind.isLiteral then .error ⟨.literal op, t⟩
  else if op = .contains ∧ t.kind ≠ .string then .error ⟨.container, t⟩
  else match t.literal? with
    | none => .error ⟨.value, t⟩
    | some v => .ok (.compare field op v t.text)

/-- One token further. -/
def Reader.step (r : Reader) (t : Token) : Except ReadError Reader :=
  match r.phase with
  | .operand =>
    match t.kind with
    | .leftParen => .ok ⟨.empty, r.level :: r.outer, .operand⟩
    | .ident => .ok { r with phase := .operator t.text }
    | _ => .error ⟨.property, t⟩
  | .operator field =>
    match operator? t with
    | some op => .ok { r with phase := .literal field op }
    | none => .error ⟨.operator field, t⟩
  | .literal field op => do
    let e ← comparison field op t
    return { r with phase := .connective e }
  | .connective e =>
    match connective? t with
    | some op => .ok { r with level := r.level.join op e, phase := .operand }
    | none =>
      match r.outer with
      | [] => .error ⟨.trailing, t⟩
      | level :: outer =>
        if t.kind = .rightParen then .ok ⟨level, outer, .connective (r.level.close e)⟩
        else .error ⟨.paren, t⟩

/-- The filter that has been read when the text ends. -/
def Reader.finish (r : Reader) (eof : Token) : Except ReadError Filter :=
  match r.phase with
  | .operand => .error ⟨.property, eof⟩
  | .operator field => .error ⟨.operator field, eof⟩
  | .literal _ op => .error ⟨.literal op, eof⟩
  | .connective e =>
    match r.outer with
    | [] => .ok (r.level.close e)
    | _ :: _ => .error ⟨.paren, eof⟩

/-- The state behind a list of tokens. -/
def Reader.run (r : Reader) (ts : List Token) : Except ReadError Reader := ts.foldlM Reader.step r

/-- Reads a filter. -/
def read (s : String) : Except ReadError Filter := do
  let r ← Reader.start.run (Token.tokenize s)
  r.finish (Token.endOf s)

end Filter

end TableQuery
