import TableQuery.Proofs.Number.Characters
import TableQuery.Sql.Statement

/-!
# Proofs/Sql/Lexeme — reading the text of a statement

A database cuts the text of a statement into names in double quotes, strings in single quotes,
parentheses, and words.  Inside quotes nothing ends a lexeme but the closing quote, and a doubled
quote is not one; a string behind a letter `E` has backslash escapes in one of the dialects.

**Names and values are one lexeme each, whatever characters they hold** (`writes_quoteName`,
`writesOperand_valueText`, `writesOperand_placeholder`) — in front of a blank, a closing parenthesis
or the end, which is all that stands behind them in a statement.
-/

namespace TableQuery.Sql

open Number Text

/-! ## Lexemes -/

/-- A lexeme of a statement. -/
inductive Lexeme where
  /-- A name in double quotes, without them. -/
  | name (s : String)
  /-- A string in single quotes, as it is written. -/
  | string (s : String)
  | word (s : String)
  | opening
  | closing
  deriving DecidableEq

namespace Lexeme

/-- What has been read of a lexeme.  Behind a quote it is open whether the quote closes. -/
inductive Pending where
  | nothing
  | word (cs : List Char)
  | name (cs : List Char)
  | nameQuote (cs : List Char)
  | string (escapes : Bool) (cs : List Char)
  | stringQuote (escapes : Bool) (cs : List Char)
  | stringEscape (cs : List Char)

/-- The characters that end a word. -/
def endsWord (c : Char) : Bool := " \t\n\r()\"'".toList.contains c

/-- The first character of a lexeme: the lexeme, if that is all of it, or what is pending. -/
def enter (c : Char) : List Lexeme × Pending :=
  if c = '(' then ([opening], .nothing)
  else if c = ')' then ([closing], .nothing)
  else if c = '"' then ([], .name [])
  else if c = '\'' then ([], .string false [c])
  else if endsWord c then ([], .nothing)
  else ([], .word [c])

/-- The lexemes of what is pending, where it may end. -/
def Pending.lexemes? : Pending → Option (List Lexeme)
  | .nothing => some []
  | .word cs => some [.word (.ofList cs)]
  | .nameQuote cs => some [.name (.ofList cs)]
  | .stringQuote _ cs => some [.string (.ofList cs)]
  | .name _ | .string .. | .stringEscape _ => none

/-- Whether a string behind a word has backslash escapes. -/
def marksEscapes (d : Dialect) (cs : List Char) : Bool :=
  d = .postgres ∧ (cs = ['E'] ∨ cs = ['e'])

/-- How what is pending goes on, if it does. -/
def Pending.next? (d : Dialect) : Pending → Char → Option Pending
  | .nothing, _ => none
  | .word cs, c =>
    if c = '\'' ∧ marksEscapes d cs then some (.string true (cs ++ [c]))
    else if endsWord c then none
    else some (.word (cs ++ [c]))
  | .name cs, c => some (if c = '"' then .nameQuote cs else .name (cs ++ [c]))
  | .nameQuote cs, c => if c = '"' then some (.name (cs ++ [c])) else none
  | .string escapes cs, c =>
    some (if c = '\'' then .stringQuote escapes (cs ++ [c])
      else if escapes ∧ c = '\\' then .stringEscape (cs ++ [c])
      else .string escapes (cs ++ [c]))
  | .stringQuote escapes cs, c => if c = '\'' then some (.string escapes (cs ++ [c])) else none
  | .stringEscape cs, c => some (.string true (cs ++ [c]))

/-- The lexemes of a text behind what is pending; none, if quotes are left open. -/
def scan (d : Dialect) : Pending → List Char → Option (List Lexeme)
  | p, [] => p.lexemes?
  | p, c :: cs =>
    match p.next? d c with
    | some q => scan d q cs
    | none => do
      let done ← p.lexemes?
      let rest ← scan d (enter c).2 cs
      return done ++ (enter c).1 ++ rest

/-- The lexemes of a text. -/
def ofText? (d : Dialect) (s : String) : Option (List Lexeme) := scan d .nothing s.toList

/-- What a comparison compares with, as it is written. -/
def operand? : Lexeme → Option String
  | string s | word s => some s
  | _ => none

variable {d : Dialect}

/-! ## What is pending -/

theorem scan_cons_of_next {p q : Pending} {c : Char} (h : p.next? d c = some q) (cs : List Char) :
    scan d p (c :: cs) = scan d q cs := by
  rw [scan, h]

theorem scan_nothing_cons (c : Char) (cs : List Char) :
    scan d .nothing (c :: cs) = (scan d (enter c).2 cs).map ((enter c).1 ++ ·) := by
  rw [scan, Pending.next?, Pending.lexemes?]
  cases scan d (enter c).2 cs <;> rfl

theorem scan_cons_of_end {p : Pending} {c : Char} {done : List Lexeme} (h : p.next? d c = none)
    (hp : p.lexemes? = some done) (cs : List Char) :
    scan d p (c :: cs) = (scan d .nothing (c :: cs)).map (done ++ ·) := by
  rw [scan, h, hp, scan_nothing_cons]
  cases scan d (enter c).2 cs with
  | none => rfl
  | some rest => simp

/-- The characters that bring one thing that is pending to another, whatever stands behind them. -/
def Advances (d : Dialect) (p : Pending) (cs : List Char) (q : Pending) : Prop :=
  ∀ rest, scan d p (cs ++ rest) = scan d q rest

theorem Advances.refl (p : Pending) : Advances d p [] p := fun _ => rfl

theorem Advances.cons {p q r : Pending} {c : Char} {cs : List Char} (h : p.next? d c = some q)
    (hq : Advances d q cs r) : Advances d p (c :: cs) r := fun rest => by
  rw [List.cons_append, scan_cons_of_next h, hq]

theorem Advances.append {p q r : Pending} {cs ds : List Char} (h : Advances d p cs q)
    (h' : Advances d q ds r) : Advances d p (cs ++ ds) r := fun rest => by
  rw [List.append_assoc, h, h']

/-- Characters that are read one by one, each written as `f` says and kept as `g` says. -/
theorem advances_flatMap {kept : List Char → Pending} {f g : Char → List Char} :
    ∀ {cs : List Char} (_ : ∀ c ∈ cs, ∀ ks, Advances d (kept ks) (f c) (kept (ks ++ g c)))
      (ks : List Char), Advances d (kept ks) (cs.flatMap f) (kept (ks ++ cs.flatMap g))
  | [], _, ks => by simpa using Advances.refl (kept ks)
  | c :: cs, h, ks => by
    rw [List.flatMap_cons, List.flatMap_cons, ← List.append_assoc]
    exact (h c (by simp) ks).append
      (advances_flatMap (fun c' hc' => h c' (List.mem_cons_of_mem _ hc')) _)

/-! ## What is written -/

/-- What may stand behind a name or a value. -/
def Boundary (rest : List Char) : Prop := ∀ c ∈ rest.head?, c = ' ' ∨ c = ')'

/-- **The lexemes of a part of a text** — whatever stands behind it, as long as that begins with a
blank or a closing parenthesis. -/
def Writes (d : Dialect) (cs : List Char) (ls : List Lexeme) : Prop :=
  ∀ rest, Boundary rest → scan d .nothing (cs ++ rest) = (scan d .nothing rest).map (ls ++ ·)

theorem boundary_nil : Boundary [] := by simp [Boundary]

theorem boundary_cons {c : Char} (h : c = ' ' ∨ c = ')') (cs : List Char) : Boundary (c :: cs) := by
  simpa [Boundary] using h

/-- What is complete ends in front of a boundary. -/
theorem scan_boundary {p : Pending} {done : List Lexeme} (hp : p.lexemes? = some done) :
    ∀ {rest : List Char}, Boundary rest → scan d p rest = (scan d .nothing rest).map (done ++ ·)
  | [], _ => by
    rw [scan, hp, scan, Pending.lexemes?, Option.map_some, List.append_nil]
  | c :: cs, hrest => by
    have hc : c = ' ' ∨ c = ')' := hrest c rfl
    refine scan_cons_of_end ?_ hp cs
    cases p with
    | nothing => rfl
    | word ds => rcases hc with rfl | rfl <;> simp [Pending.next?, endsWord]
    | nameQuote ds | stringQuote _ ds => rcases hc with rfl | rfl <;> simp [Pending.next?]
    | name ds | string _ ds | stringEscape ds => cases hp

theorem writes_of_advances {c : Char} {cs : List Char} {p q : Pending} {ls : List Lexeme}
    (hc : enter c = ([], p)) (h : Advances d p cs q) (hq : q.lexemes? = some ls) :
    Writes d (c :: cs) ls := by
  intro rest hrest
  rw [← scan_boundary hq hrest, ← h rest, List.cons_append, scan_nothing_cons, hc]
  exact Option.map_id'

/-- Two parts with a blank between them. -/
theorem Writes.blank {cs ds : List Char} {ls ms : List Lexeme} (h : Writes d cs ls)
    (h' : Writes d ds ms) : Writes d (cs ++ ' ' :: ds) (ls ++ ms) := by
  intro rest hrest
  have hblank : scan d .nothing (' ' :: (ds ++ rest)) = scan d .nothing (ds ++ rest) := by
    rw [scan_nothing_cons]
    exact Option.map_id'
  rw [List.append_assoc, List.cons_append, h _ (boundary_cons (Or.inl rfl) _), hblank, h' _ hrest,
    Option.map_map]
  simp [Function.comp_def]

/-- A part in parentheses. -/
theorem Writes.parenthesized {cs : List Char} {ls : List Lexeme} (h : Writes d cs ls) :
    Writes d ('(' :: cs ++ [')']) (opening :: ls ++ [closing]) := by
  intro rest hrest
  have hopen := scan_nothing_cons (d := d) '(' (cs ++ ')' :: rest)
  have hclose := scan_nothing_cons (d := d) ')' rest
  simp only [enter, Char.reduceEq, if_true, if_false] at hopen hclose
  have hsplit : '(' :: cs ++ [')'] ++ rest = '(' :: (cs ++ ')' :: rest) := by simp
  rw [hsplit, hopen, h _ (boundary_cons (Or.inr rfl) _), hclose, Option.map_map, Option.map_map]
  simp [Function.comp_def]

/-- The lexemes of a whole text. -/
theorem ofText?_of_writes {s : String} {ls : List Lexeme} (h : Writes d s.toList ls) :
    ofText? d s = some ls := by
  simpa [ofText?, scan, Pending.lexemes?] using h [] boundary_nil

example : ofText? .postgres "(\"a\"\"b\" = E'\\'' OR 'it''s')" =
    some [opening, .name "a\"b", .word "=", .string "E'\\''", .word "OR", .string "'it''s'",
      closing] := by
  decide +kernel

/-! ## Names, words and strings -/

/-- **A quoted name is read as the name**, whatever characters it holds. -/
theorem writes_quoteName (d : Dialect) (name : String) :
    Writes d (quoteName name).toList [.name name] := by
  have hchar : ∀ c ∈ name.toList, ∀ ks, Advances d (.name ks)
      (if c = '"' then ['"', '"'] else [c]) (.name (ks ++ [c])) := by
    intro c _ ks
    split
    · rename_i hc
      subst hc
      exact .cons (q := .nameQuote ks) rfl (.cons rfl (.refl _))
    · rename_i hc
      exact .cons (by simp [Pending.next?, hc]) (.refl _)
  have hbody := advances_flatMap hchar []
  rw [List.nil_append, List.flatMap_singleton'] at hbody
  rw [quoteName, String.toList_ofList]
  exact writes_of_advances rfl (hbody.append (.cons rfl (.refl _))) (by simp [Pending.lexemes?])

/-- A text without characters that end a word is one. -/
theorem writes_word {s : String} (hne : s.toList ≠ []) (h : s.toList.any endsWord = false) :
    Writes d s.toList [.word s] := by
  obtain ⟨c, cs, hs⟩ := List.exists_cons_of_ne_nil hne
  simp only [hs, List.any_cons, Bool.or_eq_false_iff, List.any_eq_false, Bool.not_eq_true] at h
  obtain ⟨hc, hcs⟩ := h
  rw [hs]
  have hchar : ∀ x ∈ cs, ∀ ks, Advances d (.word ks) [x] (.word (ks ++ [x])) := by
    intro x hx ks
    have hquote : x ≠ '\'' := by
      rintro rfl
      exact absurd (hcs _ hx) (by decide)
    exact .cons (by simp [Pending.next?, hquote, hcs x hx]) (.refl _)
  have hbody := advances_flatMap hchar [c]
  rw [List.flatMap_singleton', List.singleton_append, ← hs] at hbody
  refine writes_of_advances ?_ hbody (by simp [Pending.lexemes?])
  simp only [endsWord, List.contains_eq_mem, decide_eq_false_iff_not] at hc
  simp_all [enter, endsWord]

/-- Characters of a string, each written so that it does not close it, and the closing quote. -/
theorem advances_closed {escapes : Bool} {cs : List Char} {f : Char → List Char}
    (h : ∀ c ∈ cs, ∀ ks, Advances d (.string escapes ks) (f c) (.string escapes (ks ++ f c)))
    (ks : List Char) : Advances d (.string escapes ks) (cs.flatMap f ++ ['\''])
      (.stringQuote escapes (ks ++ cs.flatMap f ++ ['\''])) :=
  (advances_flatMap h ks).append (.cons rfl (.refl _))

/-- A string without quotes inside. -/
theorem writes_plainString {cs : List Char} (h : ∀ c ∈ cs, c ≠ '\'') :
    Writes d ('\'' :: cs ++ ['\'']) [.string (.ofList ('\'' :: cs ++ ['\'']))] := by
  have hchar : ∀ c ∈ cs, ∀ ks, Advances d (.string false ks) [c] (.string false (ks ++ [c])) :=
    fun c hc ks => .cons (by simp [Pending.next?, h c hc]) (.refl _)
  have hbody := advances_closed hchar ['\'']
  rw [List.flatMap_singleton'] at hbody
  exact writes_of_advances rfl hbody rfl

/-- Doubled quotes inside a string do not close it. -/
theorem writes_doubled (d : Dialect) (cs : List Char) :
    Writes d ('\'' :: cs.flatMap (fun c => if c = '\'' then ['\'', '\''] else [c]) ++ ['\''])
      [.string (.ofList
        ('\'' :: cs.flatMap (fun c => if c = '\'' then ['\'', '\''] else [c]) ++ ['\'']))] := by
  refine writes_of_advances rfl (advances_closed (fun c _ ks => ?_) ['\'']) rfl
  split
  · refine .cons (q := .stringQuote false (ks ++ ['\''])) rfl (.cons ?_ (.refl _))
    simp [Pending.next?]
  · rename_i hc
    exact .cons (by simp [Pending.next?, hc]) (.refl _)

/-- A character with backslash escapes is one, or two of which the first is the backslash. -/
theorem escapedChar_cases (c : Char) :
    (Dialect.escapedChar c = [c] ∧ c ≠ '\'' ∧ c ≠ '\\') ∨
      ∃ x, Dialect.escapedChar c = ['\\', x] := by
  unfold Dialect.escapedChar
  split
  case h_10 => exact Or.inl ⟨rfl, by assumption, by assumption⟩
  all_goals exact Or.inr ⟨_, rfl⟩

/-- Escaped quotes inside a string do not close it. -/
theorem writes_escaped (cs : List Char) :
    Writes .postgres ('E' :: '\'' :: cs.flatMap Dialect.escapedChar ++ ['\''])
      [.string (.ofList ('E' :: '\'' :: cs.flatMap Dialect.escapedChar ++ ['\'']))] := by
  refine writes_of_advances rfl (.cons (q := .string true ['E', '\'']) rfl
    (advances_closed (fun c _ ks => ?_) _)) rfl
  obtain ⟨hc, hquote, hescape⟩ | ⟨x, hc⟩ := escapedChar_cases c
  · rw [hc]
    exact .cons (by simp [Pending.next?, hquote, hescape]) (.refl _)
  · rw [hc]
    refine .cons (q := .stringEscape (ks ++ ['\\'])) rfl (.cons ?_ (.refl _))
    simp [Pending.next?]

/-- Without a backslash, nothing was escaped, and so there was no quote. -/
theorem not_quote_of_escaped {cs : List Char} (h : '\\' ∉ cs.flatMap Dialect.escapedChar) :
    ∀ c ∈ cs.flatMap Dialect.escapedChar, c ≠ '\'' := by
  rintro _ hc rfl
  obtain ⟨x, hx, hcx⟩ := List.mem_flatMap.mp hc
  obtain ⟨hself, hquote, -⟩ | ⟨y, hy⟩ := escapedChar_cases x
  · rw [hself, List.mem_singleton] at hcx
    exact hquote hcx.symm
  · exact h (List.mem_flatMap.mpr ⟨x, hx, by simp [hy]⟩)

/-- **A quoted string is one lexeme**, whatever characters it holds. -/
theorem writes_quoteString (d : Dialect) (s : String) :
    Writes d (d.quoteString s).toList [.string (d.quoteString s)] := by
  cases d with
  | sqlite =>
    rw [Dialect.quoteString, String.toList_ofList]
    exact writes_doubled _ _
  | postgres =>
    rw [Dialect.quoteString, String.toList_ofList]
    split
    · exact writes_escaped _
    · rename_i hbody
      exact writes_plainString (not_quote_of_escaped (by simpa using hbody))

/-! ## Values -/

/-- A text that is one lexeme, and can be compared with. -/
def WritesOperand (d : Dialect) (s : String) : Prop :=
  ∃ l : Lexeme, Writes d s.toList [l] ∧ l.operand? = some s

theorem WritesOperand.of_word {s : String} (hne : s.toList ≠ [])
    (h : ∀ c ∈ s.toList, endsWord c = false) : WritesOperand d s :=
  ⟨_, writes_word hne (by simpa using h), rfl⟩

theorem WritesOperand.of_string {s : String} (h : Writes d s.toList [.string s]) :
    WritesOperand d s := ⟨_, h, rfl⟩

theorem endsWord_of_isDigit (c : Char) (h : c.isDigit = true) : endsWord c = false := by
  rw [endsWord, List.contains_eq_mem, decide_eq_false_iff_not]
  intro hc
  simp only [String.reduceToList, List.mem_cons, List.not_mem_nil, or_false] at hc
  rcases hc with rfl | rfl | rfl | rfl | rfl | rfl | rfl | rfl <;> exact absurd h (by decide)

/-- Quotes around characters none of which is one. -/
theorem writesOperand_quoted {s : String} (h : ∀ c ∈ s.toList, c ≠ '\'') :
    WritesOperand d ("'" ++ s ++ "'") := by
  refine .of_string ?_
  have hquoted : "'" ++ s ++ "'" = String.ofList ('\'' :: s.toList ++ ['\'']) :=
    String.toList_inj.mp (by simp)
  rw [hquoted, String.toList_ofList]
  exact writes_plainString h

/-- **A value is one lexeme.** -/
theorem writesOperand_valueText (d : Dialect) (v : Value) : WritesOperand d (d.valueText v) := by
  cases v with
  | bigInt n => exact .of_word (integerText_ne_nil n) (integerText_chars endsWord_of_isDigit rfl n)
  | bigUnsigned n =>
    refine .of_word ?_ ?_
    · rw [Dialect.valueText, naturalText, String.toList_ofList]
      exact Nat.toDigits_ne_nil
    · rw [Dialect.valueText, naturalText, String.toList_ofList]
      exact decimal_chars endsWord_of_isDigit n
  | double x =>
    exact .of_word (plainText_ne_nil x)
      (plainText_chars endsWord_of_isDigit rfl rfl (by simp [endsWord]) (by simp [endsWord]) x)
  | string s => exact .of_string (writes_quoteString d s)
  | uuid g => exact writesOperand_quoted (guidText_chars (by decide) (by decide) g)
  | dateTimeUtc t =>
    refine writesOperand_quoted (spacedText_chars ?_ (by simp) t)
    rintro _ hdigit rfl
    exact absurd hdigit (by decide)

/-- **A placeholder is one lexeme.** -/
theorem writesOperand_placeholder (d : Dialect) (n : Nat) : WritesOperand d (d.placeholder n) := by
  cases d with
  | postgres =>
    refine .of_word (by simp [Dialect.placeholder]) ?_
    simp only [Dialect.placeholder, naturalText, String.toList_append, String.toList_ofList,
      List.forall_mem_append]
    exact ⟨by simp [endsWord], decimal_chars endsWord_of_isDigit n⟩
  | sqlite =>
    exact .of_word (by simp [Dialect.placeholder]) (by simp [Dialect.placeholder, endsWord])

end Lexeme

end TableQuery.Sql
