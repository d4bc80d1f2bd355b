import TableQuery.Proofs.Filter.Acceptance
import TableQuery.Proofs.Token.Layout

/-!
# Proofs/Filter/RoundTrip — a filter that is written is read as itself

A filter is written from left to right, with parentheses only where the grammar would otherwise
group its operands differently (`lexemes`).  The operands of *and* and *or* are then just the
symbols that the grammar asks for at their places, so what is written derives the filter
(`derives_of_makes`), in whatever letters and with whatever white space it is laid out.
-/

namespace TableQuery

/-- The kind of the tokens that stand for a literal. -/
def Literal.kind : Literal → Token.Kind
  | .text _ => .string
  | .integer _ => .int
  | .float _ => .float
  | .guid _ => .guid
  | .time _ => .dateTime

namespace Filter

open Grammar Token

/-! ## Writing -/

/-- Whether a left operand stands in parentheses: an *or* in front of an *and*. -/
def Connective.enclosesLeft : Connective → Filter → Bool
  | .and, .join .or _ _ => true
  | _, _ => false

/-- Whether a right operand stands in parentheses: everything joined behind an *and*, and an *or*
behind an *or*. -/
def Connective.enclosesRight : Connective → Filter → Bool
  | .and, .join _ _ _ => true
  | .or, .join .or _ _ => true
  | _, _ => false

/-- Lexemes with or without parentheses around them. -/
def enclosed (parens : Bool) (ls : List Lexeme) : List Lexeme :=
  if parens then .mark '(' :: (ls ++ [.mark ')']) else ls

/-- A literal as it is written; a text stands between quotes. -/
def literalLexeme : Literal → String → Lexeme
  | .text _, raw => .quoted raw
  | _, raw => .word raw

/-- **A filter as it is written**, with no more parentheses than it needs. -/
def lexemes : Filter → List Lexeme
  | .compare field op v raw => [.word field, .keyword op.keyword, literalLexeme v raw]
  | .join op l r =>
    enclosed (op.enclosesLeft l) l.lexemes ++
      .keyword op.keyword :: enclosed (op.enclosesRight r) r.lexemes

/-- **A text that writes a filter**, after any white space in front. -/
def IsWrittenAs (e : Filter) (s : String) : Prop :=
  ∃ gap cs, (∀ c ∈ gap, isSpace c = true) ∧ LaysOut e.lexemes cs ∧ s.toList = gap ++ cs

/-- **The texts that denote a literal**: a text without quotes denotes itself, and a word of the
literal's kind the value that it converts to. -/
def Denotes (raw : String) : Literal → Prop
  | .text s => raw = s ∧ '\'' ∉ raw.toList
  | v => isWord raw.toList = true ∧ classify raw.toList = v.kind ∧
      ∀ span, Token.literal? ⟨v.kind, raw, span⟩ = some v

/-- **A filter that can be written**: its properties are words that are no literals, its literals
are denoted by their texts, and only texts are contained. -/
def IsWritable : Filter → Prop
  | .compare field op v raw =>
    isWord field.toList = true ∧ classify field.toList = .ident ∧ Denotes raw v ∧
      (op = .contains → ∃ s, v = .text s)
  | .join _ l r => l.IsWritable ∧ r.IsWritable

/-! ## Lexemes that can be written -/

theorem isProper_literalLexeme {raw : String} {v : Literal} (h : Denotes raw v) :
    (literalLexeme v raw).IsProper := by
  cases v with
  | text s => exact h.2
  | integer | float | guid | time => exact h.1

theorem isProper_enclosed (parens : Bool) {ls : List Lexeme} (h : ∀ l ∈ ls, l.IsProper) :
    ∀ l ∈ enclosed parens ls, l.IsProper := by
  have hleft : (Lexeme.mark '(').IsProper := by
    change isMark '(' = true
    decide
  have hright : (Lexeme.mark ')').IsProper := by
    change isMark ')' = true
    decide
  unfold enclosed
  split
  · simpa [hleft, hright, or_imp, forall_and] using h
  · exact h

theorem isProper_operator (op : Operator) : (Lexeme.keyword op.keyword).IsProper := by
  change isKeywordText op.keyword.toList = true
  cases op <;> decide

theorem isProper_connective (op : Connective) : (Lexeme.keyword op.keyword).IsProper := by
  change isKeywordText op.keyword.toList = true
  cases op <;> decide

/-- **A filter that can be written has lexemes that can be.** -/
theorem isProper_lexemes {e : Filter} (h : e.IsWritable) : ∀ l ∈ e.lexemes, l.IsProper := by
  induction e with
  | compare field op v raw =>
    obtain ⟨hfield, -, hraw, -⟩ := h
    simpa [lexemes] using ⟨hfield, isProper_operator op, isProper_literalLexeme hraw⟩
  | join op l r ihl ihr =>
    intro x hx
    rw [lexemes, List.mem_append, List.mem_cons] at hx
    rcases hx with hx | rfl | hx
    · exact isProper_enclosed _ (ihl h.1) x hx
    · exact isProper_connective op
    · exact isProper_enclosed _ (ihr h.2) x hx

/-! ## What is written derives the filter -/

/-- The symbol that a filter is written as. -/
def symbol : Filter → Symbol
  | .compare .. => .term
  | .join .and _ _ => .conjunction
  | .join .or _ _ => .disjunction

/-- What is related to two lists one behind the other falls into two parts. -/
theorem exists_append_of_forall₂ {α β : Type} {R : α → β → Prop} {xs ys : List α} {zs : List β}
    (h : List.Forall₂ R (xs ++ ys) zs) :
    ∃ us vs, zs = us ++ vs ∧ List.Forall₂ R xs us ∧ List.Forall₂ R ys vs := by
  refine ⟨zs.take xs.length, zs.drop xs.length, (List.take_append_drop _ zs).symm, ?_, ?_⟩
  · simpa using List.forall₂_take xs.length h
  · simpa using List.forall₂_drop xs.length h

/-- **A literal is read as the value that its text denotes.** -/
theorem literal?_of_makes {raw : String} {v : Literal} {t : Token} (h : Denotes raw v)
    (ht : (literalLexeme v raw).Makes t) :
    t.kind = v.kind ∧ t.text = raw ∧ t.literal? = some v := by
  obtain ⟨kind, text, span⟩ := t
  cases v with
  | text s =>
    obtain ⟨rfl, -⟩ := h
    obtain ⟨rfl, rfl⟩ : kind = .string ∧ text = raw := ht
    exact ⟨rfl, rfl, rfl⟩
  | integer | float | guid | time =>
    obtain ⟨-, hkind, hvalue⟩ := h
    obtain ⟨hclassify, rfl⟩ : kind = classify raw.toList ∧ text = raw := ht
    obtain rfl := hclassify.trans hkind
    exact ⟨rfl, rfl, hvalue span⟩

theorem compares_of_makes {field raw : String} {op : Operator} {v : Literal} {ts : List Token}
    (h : (compare field op v raw).IsWritable)
    (hts : List.Forall₂ Lexeme.Makes (compare field op v raw).lexemes ts) :
    Compares ts (.compare field op v raw) := by
  obtain ⟨-, hident, hraw, hcontains⟩ := h
  simp only [lexemes, List.forall₂_cons_left_iff, List.forall₂_nil_left_iff] at hts
  obtain ⟨name, -, ⟨hname, rfl⟩, ⟨sign, -, hsign, ⟨value, -, hvalue, rfl, rfl⟩, rfl⟩, rfl⟩ := hts
  obtain ⟨hkind, rfl, hliteral⟩ := literal?_of_makes hraw hvalue
  refine .intro (hname.trans hident) hsign ?_ hliteral ?_
  · rw [hkind]
    cases v <;> rfl
  · intro hop
    obtain ⟨s, rfl⟩ := hcontains hop
    exact hkind

/-- **In parentheses a filter is a term, whatever it holds.** -/
theorem derives_enclosed {e : Filter} {parens : Bool} {ts : List Token}
    (he : ∀ {us}, List.Forall₂ Lexeme.Makes e.lexemes us → Derives vocabulary e.symbol us e)
    (hts : List.Forall₂ Lexeme.Makes (enclosed parens e.lexemes) ts) :
    Derives vocabulary (if parens then .term else e.symbol) ts e := by
  cases parens with
  | false => exact he hts
  | true =>
    obtain ⟨o, vs, ho, hvs, rfl⟩ := List.forall₂_cons_left_iff.mp hts
    obtain ⟨us, ws, rfl, hus, hws⟩ := exists_append_of_forall₂ hvs
    obtain ⟨c, _, hc, hend, rfl⟩ := List.forall₂_cons_left_iff.mp hws
    obtain rfl := List.forall₂_nil_left_iff.mp hend
    exact .group ho.1 (he hus).toDisjunction hc.1

/-- An *and* encloses on its left what an *or* encloses on its right. -/
theorem enclosesLeft_and (e : Filter) :
    Connective.and.enclosesLeft e = Connective.or.enclosesRight e := by
  rcases e with _ | ⟨_ | _, l, r⟩ <;> rfl

/-- Behind an *and* stands a term. -/
theorem derives_right_of_and {e : Filter} {ts : List Token}
    (h : Derives vocabulary (if Connective.and.enclosesRight e then .term else e.symbol) ts e) :
    Derives vocabulary .term ts e := by
  rcases e with _ | _ <;> exact h

/-- Behind an *or* stands a conjunction, and so it does wherever just an *or* is enclosed. -/
theorem derives_right_of_or {e : Filter} {ts : List Token}
    (h : Derives vocabulary (if Connective.or.enclosesRight e then .term else e.symbol) ts e) :
    Derives vocabulary .conjunction ts e := by
  rcases e with _ | ⟨_ | _, l, r⟩
  · exact .term h
  · exact h
  · exact .term h

/-- **What is written derives the filter.** -/
theorem derives_of_makes {e : Filter} (h : e.IsWritable) {ts : List Token}
    (hts : List.Forall₂ Lexeme.Makes e.lexemes ts) : Derives vocabulary e.symbol ts e := by
  induction e generalizing ts with
  | compare field op v raw => exact .leaf (compares_of_makes h hts)
  | join op l r ihl ihr =>
    obtain ⟨ls, vs, rfl, hls, hvs⟩ := exists_append_of_forall₂ hts
    obtain ⟨t, rs, ht, hrs, rfl⟩ := List.forall₂_cons_left_iff.mp hvs
    have hl := derives_enclosed (ihl h.1) hls
    have hr := derives_enclosed (ihr h.2) hrs
    cases op with
    | and =>
      rw [enclosesLeft_and] at hl
      exact .and (derives_right_of_or hl) ht (derives_right_of_and hr)
    | or => exact .or hl.toDisjunction ht (derives_right_of_or hr)

/-- **A filter that is written is read as itself.**  Every filter that can be written has a text
that writes it; and however it is written, in letters of either case for its keywords and with any
white space, what is read is that filter. -/
theorem read_of_isWrittenAs (e : Filter) (h : e.IsWritable) :
    (∃ s, e.IsWrittenAs s) ∧ ∀ s, e.IsWrittenAs s → read s = .ok e := by
  constructor
  · obtain ⟨cs, hcs⟩ := exists_laysOut e.lexemes
    exact ⟨String.ofList cs, [], cs, by simp, hcs, String.toList_ofList⟩
  · rintro s ⟨gap, cs, hgap, hcs, hs⟩
    refine run_finish_eq_ok_iff.mpr (Derives.toDisjunction (derives_of_makes h ?_))
    rw [tokenize, hs, scan_spaces cs hgap]
    exact scan_of_laysOut hcs (isProper_lexemes h) _

/-- Properties with the names of keywords, keywords in mixed case, white space of three kinds and
none at parentheses and quotes; the *or* and the right *and* keep the parentheses they need. -/
theorem read_of_cramped_and_spread :
    ∃ e s, e = join .and
        (join .or (compare "and" .eq (.text "x (") "x (") (compare "EQ" .gt (.integer 7) "7"))
        (join .and (compare "desc" .contains (.text "") "")
          (compare "or" .lt (.float (.ofRatio false 3 2)) "1.5f")) ∧
      s = "  (and\tEq'x ('OR EQ gt 7)and( desc\ncontains '' aNd or lt 1.5f )" ∧
      e.IsWrittenAs s ∧ read s = .ok e := by
  have hinteger : Literal.readInteger "7" = some 7 := by decide +kernel
  have hfloat : Literal.readFloat "1.5f" = some (.ofRatio false 3 2) := by decide +kernel
  refine ⟨_, _, rfl, rfl, ?_⟩
  suffices h : IsWritable _ ∧ IsWrittenAs _ _ from ⟨h.2, (read_of_isWrittenAs _ h.1).2 _ h.2⟩
  refine ⟨⟨⟨⟨rfl, rfl, ⟨rfl, by simp⟩, nofun⟩, rfl, rfl, ⟨rfl, rfl, fun _ => ?_⟩, nofun⟩,
    ⟨rfl, rfl, ⟨rfl, by simp⟩, fun _ => ⟨_, rfl⟩⟩, rfl, rfl, ⟨rfl, rfl, fun _ => ?_⟩, nofun⟩,
    [' ', ' '], _, by simp [isSpace], ?_, rfl⟩
  · exact congrArg (Option.map Literal.integer) hinteger
  · exact congrArg (Option.map Literal.float) hfloat
  · exact .tight ['('] rfl rfl <|
      .spaced "and".toList '\t' rfl rfl <| .tight "Eq".toList rfl rfl <|
      .tight "'x ('".toList rfl rfl <| .spaced "OR".toList ' ' rfl rfl <|
      .spaced "EQ".toList ' ' rfl rfl <| .spaced "gt".toList ' ' rfl rfl <|
      .tight "7".toList rfl rfl <| .tight [')'] rfl rfl <| .tight "and".toList rfl rfl <|
      .spaced ['('] ' ' rfl rfl <| .spaced "desc".toList '\n' rfl rfl <|
      .spaced "contains".toList ' ' rfl rfl <| .spaced "''".toList ' ' rfl rfl <|
      .spaced "aNd".toList ' ' rfl rfl <| .spaced "or".toList ' ' rfl rfl <|
      .spaced "lt".toList ' ' rfl rfl <| .spaced "1.5f".toList ' ' rfl rfl <|
      .tight [')'] rfl rfl .nil

end Filter

end TableQuery
