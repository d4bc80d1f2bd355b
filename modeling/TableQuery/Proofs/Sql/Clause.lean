import TableQuery.Proofs.Grammar
import TableQuery.Proofs.Sql.Lexeme

/-!
# Proofs/Sql/Clause — the condition of a statement means its predicate

The condition of a statement is read back from the text: the lexemes of `Proofs/Sql/Lexeme`, in the
grammar of `Proofs/Grammar`.  **The text of a filtered statement has one reading, and that is a
combination of the comparisons of the predicate, in their order, with the truth value of the
predicate** — with values written out, and with placeholders.

A left operand stands in parentheses if it is joined by the other word, a right operand if it is
joined at all.  This is what the grammar asks for: a chain of one word nests to the left, and its
operands on the right are terms.
-/

namespace TableQuery

open TableQuery.Filter (Connective)

/-- What a connective makes of two truth values. -/
def Filter.Connective.truth : Connective → Bool → Bool → Bool
  | .and, a, b => a && b
  | .or, a, b => a || b

/-- The truth value of a predicate, given those of its comparisons by their numbers; the first one
has number `n`. -/
def Predicate.truth (v : Nat → Bool) : Nat → Predicate → Bool
  | n, .compare _ => v n
  | n, .and l r => Connective.and.truth (l.truth v n) (r.truth v (n + l.comparisons.length))
  | n, .or l r => Connective.or.truth (l.truth v n) (r.truth v (n + l.comparisons.length))

namespace Predicate

/-- Both connectives at once. -/
@[elab_as_elim]
theorem join_induction {motive : Predicate → Prop} (compare : ∀ c, motive (.compare c))
    (join : ∀ op l r, motive l → motive r → motive (join op l r)) : ∀ p, motive p
  | .compare c => compare c
  | .and l r => join .and l r (join_induction compare join l) (join_induction compare join r)
  | .or l r => join .or l r (join_induction compare join l) (join_induction compare join r)

theorem comparisons_join (op : Connective) (l r : Predicate) :
    (join op l r).comparisons = l.comparisons ++ r.comparisons := by
  cases op <;> rfl

theorem truth_join (v : Nat → Bool) (n : Nat) (op : Connective) (l r : Predicate) :
    (join op l r).truth v n = op.truth (l.truth v n) (r.truth v (n + l.comparisons.length)) := by
  cases op <;> rfl

end Predicate

namespace Sql

open Grammar Lexeme
open Predicate (Comparator Comparison literalText)
open Text (eqIgnoreCase)

/-! ## Clauses -/

/-- A comparison as a statement writes it. -/
structure Leaf where
  column : String
  op : Comparator
  operand : String
  /-- The string that names the escape character of a pattern. -/
  escape : Option String
  deriving DecidableEq

/-- The condition that a statement spells. -/
inductive Clause where
  | leaf (l : Leaf)
  | join (op : Connective) (left right : Clause)
  deriving DecidableEq

namespace Clause

/-- The comparisons of a clause, from left to right. -/
def leaves : Clause → List Leaf
  | leaf l => [l]
  | join _ l r => l.leaves ++ r.leaves

/-- The truth value of a clause, given those of its comparisons by their numbers; the first one has
number `n`. -/
def truth (v : Nat → Bool) : Nat → Clause → Bool
  | n, leaf _ => v n
  | n, join op l r => op.truth (l.truth v n) (r.truth v (n + l.leaves.length))

/-- **The lexemes of a comparison**: a name, a sign or *like*, and what is compared with.  A pattern
may have an escape character. -/
inductive Compares : List Lexeme → Clause → Prop where
  | plain {column sign operand : String} {op : Comparator} {l : Lexeme} :
      eqIgnoreCase sign op.sign = true → l.operand? = some operand →
      Compares [.name column, .word sign, l] (leaf ⟨column, op, operand, none⟩)
  | escaped {column sign operand keyword escape : String} {l : Lexeme} :
      eqIgnoreCase sign Comparator.like.sign = true → l.operand? = some operand →
      eqIgnoreCase keyword "ESCAPE" = true →
      Compares [.name column, .word sign, l, .word keyword, .string escape]
        (leaf ⟨column, .like, operand, some escape⟩)

/-- The lexemes of conditions, words in letters of either case. -/
def vocabulary : Vocabulary Lexeme Clause where
  opens l := l = .opening
  closes l := l = .closing
  joins op l := ∃ s, l = .word s ∧ eqIgnoreCase s op.keyword = true
  leaf := Compares
  join := join

theorem comparator_unique {s : String} {op op' : Comparator} (h : eqIgnoreCase s op.sign = true)
    (h' : eqIgnoreCase s op'.sign = true) : op = op' := by
  have hlower := lower_eq_of_eqIgnoreCase h h'
  revert hlower
  cases op <;> cases op' <;> decide

/-- The word in front of an escape character does not end a term. -/
theorem not_ends_escape {s : String} (h : eqIgnoreCase s "ESCAPE" = true) (ls : List Lexeme) :
    ¬ vocabulary.Ends .term (.word s :: ls) := by
  intro hends
  rcases hends _ rfl with hclose | ⟨op, t, ht, hop⟩
  · cases hclose
  · cases ht
    have hlower := lower_eq_of_eqIgnoreCase h hop
    revert hlower
    cases op <;> decide

/-- Comparisons begin with a name, and have three lexemes, or five if an escape follows. -/
theorem vocabulary_separated : vocabulary.Separated where
  joins_unique := by
    rintro op op' _ ⟨s, rfl, h⟩ ⟨_, ⟨rfl⟩, h'⟩
    exact connective_unique h h'
  not_closes := by
    rintro op _ ⟨s, rfl, -⟩ hc
    cases hc
  leaf_ne_nil := by
    rintro _ _ (_ | _) <;> exact List.cons_ne_nil _ _
  not_opens := by
    rintro _ _ _ (_ | _) ho <;> cases ho
  leaf_unique := by
    rintro _ _ xs ys _ _ (⟨hop, hl⟩ | ⟨hop, hl, hesc⟩) (⟨hop', hl'⟩ | ⟨hop', hl', hesc'⟩) heq hx hy
    all_goals
      simp only [List.cons_append, List.nil_append, List.cons.injEq, Lexeme.name.injEq,
        Lexeme.word.injEq, Lexeme.string.injEq] at heq
    · obtain ⟨rfl, rfl, rfl, -⟩ := heq
      rw [comparator_unique hop hop', Option.some.inj (hl.symm.trans hl')]
      exact ⟨rfl, rfl⟩
    · obtain ⟨rfl, rfl, rfl, rfl⟩ := heq
      exact absurd hx (not_ends_escape hesc' _)
    · obtain ⟨rfl, rfl, rfl, rfl⟩ := heq
      exact absurd hy (not_ends_escape hesc _)
    · obtain ⟨rfl, rfl, rfl, rfl, rfl, -⟩ := heq
      rw [Option.some.inj (hl.symm.trans hl')]
      exact ⟨rfl, rfl⟩

/-- The symbol of the chains of a connective. -/
def chain : Connective → Symbol
  | .and => .conjunction
  | .or => .disjunction

theorem derives_chain (op : Connective) {ls : List Lexeme} {c : Clause}
    (h : Derives vocabulary .term ls c) : Derives vocabulary (chain op) ls c := by
  cases op with
  | and => exact .term h
  | or => exact .conjunction (.term h)

end Clause

/-! ## The pieces of a predicate -/

/-- The group that a connective makes. -/
def junction : Connective → Junction
  | .and => .all
  | .or => .any

/-- The value that a comparison is written with. -/
def comparedValue (c : Comparison) : Value :=
  if c.op = .like then .string (literalText c.value) else .ofLiteral c.value

/-- The number of values in pieces. -/
def valueCount (ps : List Piece) : Nat := (ps.filterMap Statement.pieceValue?).length

theorem fold_asItem (c : Condition) : c.asItem.fold = c.fold := by
  unfold Condition.asItem
  split
  · rw [Condition.fold, Condition.foldFrom]
  · rfl

theorem fold_compare (c : Comparison) :
    (Condition.ofPredicate (.compare c)).fold = (Condition.ofComparison c).fold := by
  rw [Condition.ofPredicate, Condition.fold, Condition.foldFrom]

/-- **A predicate is folded as it is nested.** -/
theorem fold_join (op : Connective) (l r : Predicate) :
    (Condition.ofPredicate (Predicate.join op l r)).fold =
      .binary (junction op) (Condition.ofPredicate l).fold (Condition.ofPredicate r).fold := by
  cases op <;>
    rw [Predicate.join, Condition.ofPredicate, Condition.fold, Condition.foldFrom,
      Condition.foldFrom, fold_asItem, fold_asItem, junction]

/-- The pieces of a comparison: its column and sign, its value, and for a pattern the escape. -/
theorem pieces_ofComparison (c : Comparison) :
    (Condition.ofComparison c).fold.pieces =
      [.text (quoteName c.column ++ " " ++ c.op.sign ++ " "), .value (comparedValue c)] ++
        if c.op = .like then [.text " ESCAPE ", .escapeChar] else [] := by
  obtain ⟨column, op, value⟩ := c
  cases op with
  | like =>
    have htext : quoteName column ++ " LIKE " = quoteName column ++ " " ++ "LIKE" ++ " " := by
      rw [String.append_assoc, String.append_assoc]
      rfl
    simp [Condition.ofComparison, Condition.fold, Formula.pieces, Atom.pieces, comparedValue,
      Comparator.sign, htext]
  | equal | notEqual | less | lessEqual | greater | greaterEqual =>
    simp [Condition.ofComparison, Condition.fold, Formula.pieces, Atom.pieces, comparedValue]

/-- Parentheses hold no value. -/
theorem values_operand (b : Prop) [Decidable b] (ps : List Piece) :
    (if b then parenthesized ps else ps).filterMap Statement.pieceValue? =
      ps.filterMap Statement.pieceValue? := by
  split
  · rw [parenthesized, List.filterMap_append, List.filterMap_cons_none rfl,
      List.filterMap_cons_none rfl, List.filterMap_nil, List.append_nil]
  · rfl

theorem values_binary (j : Junction) (l r : Formula) :
    (Formula.binary j l r).pieces.filterMap Statement.pieceValue? =
      l.pieces.filterMap Statement.pieceValue? ++ r.pieces.filterMap Statement.pieceValue? := by
  rw [Formula.pieces, List.filterMap_append, List.filterMap_cons_none rfl, values_operand,
    values_operand]

/-- **The values of a predicate's pieces are those of its comparisons, in their order.** -/
theorem values_pieces (p : Predicate) :
    (Condition.ofPredicate p).fold.pieces.filterMap Statement.pieceValue? =
      p.comparisons.map comparedValue := by
  induction p using Predicate.join_induction with
  | compare c =>
    rw [fold_compare, pieces_ofComparison]
    split <;> rfl
  | join op l r ihl ihr =>
    rw [fold_join, values_binary, ihl, ihr, Predicate.comparisons_join, List.map_append]

theorem valueCount_pieces (p : Predicate) :
    valueCount (Condition.ofPredicate p).fold.pieces = p.comparisons.length := by
  rw [valueCount, values_pieces, List.length_map]

theorem valueCount_operand (b : Prop) [Decidable b] (ps : List Piece) :
    valueCount (if b then parenthesized ps else ps) = valueCount ps := by
  rw [valueCount, values_operand, valueCount]

/-! ## Pieces as text -/

section Written

variable (d : Dialect) (shown : Nat → Value → String)

/-- The characters of pieces, given the texts of values by their numbers; the next value has number
`n`. -/
def written : Nat → List Piece → List Char
  | _, [] => []
  | n, .text s :: ps => s.toList ++ written n ps
  | n, .value v :: ps => (shown n v).toList ++ written (n + 1) ps
  | n, .escapeChar :: ps => (Statement.escapeText d).toList ++ written n ps

theorem written_append (qs : List Piece) : ∀ (n : Nat) (ps : List Piece),
    written d shown n (ps ++ qs) =
      written d shown n ps ++ written d shown (n + valueCount ps) qs
  | _, [] => rfl
  | n, .text s :: ps => by
    rw [List.cons_append, written, written_append qs n ps, written, List.append_assoc]
    rfl
  | n, .escapeChar :: ps => by
    rw [List.cons_append, written, written_append qs n ps, written, List.append_assoc]
    rfl
  | n, .value v :: ps => by
    have hcount : valueCount (.value v :: ps) = valueCount ps + 1 := rfl
    rw [List.cons_append, written, written_append qs (n + 1) ps, written, List.append_assoc,
      hcount, Nat.add_assoc, Nat.add_comm 1]

theorem written_parenthesized (n : Nat) (ps : List Piece) :
    written d shown n (parenthesized ps) = '(' :: written d shown n ps ++ [')'] := by
  rw [parenthesized, List.cons_append, written, written_append]
  rfl

end Written

/-- The text with values written out. -/
theorem toList_inlined (s : Statement) (d : Dialect) :
    (s.inlined d).toList = written d (fun _ v => d.valueText v) 1 s.pieces := by
  have hpieces : ∀ (n : Nat) (ps : List Piece),
      (ps.map (Statement.inlinedPiece d)).flatMap String.toList =
        written d (fun _ v => d.valueText v) n ps := by
    intro n ps
    induction ps generalizing n with
    | nil => rfl
    | cons piece ps ih =>
      rw [List.map_cons, List.flatMap_cons]
      cases piece with
      | text s => rw [written, ih n]; rfl
      | value v => rw [written, ih (n + 1)]; rfl
      | escapeChar => rw [written, ih n]; rfl
  rw [Statement.inlined, String.toList_join, hpieces 1]

/-- The text with placeholders. -/
theorem toList_parameterized (s : Statement) (d : Dialect) :
    (s.parameterized d).toList = written d (fun n _ => d.placeholder n) 1 s.pieces := by
  have hpieces : ∀ (n : Nat) (ps : List Piece),
      (Statement.placeholderText d n ps).toList = written d (fun n _ => d.placeholder n) n ps := by
    intro n ps
    induction ps generalizing n with
    | nil => rfl
    | cons piece ps ih =>
      cases piece <;> rw [written, Statement.placeholderText, String.toList_append, ih]
  exact hpieces 1 s.pieces

/-! ## What pieces spell -/

namespace Clause

section Spells

variable (d : Dialect) (shown : Nat → Value → String)

/-- A comparison as it is written with the value of number `n`. -/
def ofComparison (n : Nat) (c : Comparison) : Leaf :=
  ⟨c.column, c.op, shown n (comparedValue c),
    if c.op = .like then some (Statement.escapeText d) else none⟩

/-- The clause of a predicate whose first value has number `n`. -/
def ofPredicate : Nat → Predicate → Clause
  | n, .compare c => leaf (ofComparison d shown n c)
  | n, .and l r => join .and (ofPredicate n l) (ofPredicate (n + l.comparisons.length) r)
  | n, .or l r => join .or (ofPredicate n l) (ofPredicate (n + l.comparisons.length) r)

theorem ofPredicate_join (n : Nat) (op : Connective) (l r : Predicate) :
    ofPredicate d shown n (Predicate.join op l r) =
      join op (ofPredicate d shown n l) (ofPredicate d shown (n + l.comparisons.length) r) := by
  cases op <;> rfl

theorem leaves_ofPredicate (n : Nat) (p : Predicate) : (ofPredicate d shown n p).leaves =
    (p.comparisons.zipIdx n).map fun (l, k) => ofComparison d shown k l := by
  induction p using Predicate.join_induction generalizing n with
  | compare c => rfl
  | join op l r ihl ihr =>
    rw [ofPredicate_join, leaves, ihl, ihr, Predicate.comparisons_join, List.zipIdx_append,
      List.map_append]

theorem truth_ofPredicate (v : Nat → Bool) (n : Nat) (p : Predicate) :
    (ofPredicate d shown n p).truth v n = p.truth v n := by
  induction p using Predicate.join_induction generalizing n with
  | compare c => rfl
  | join op l r ihl ihr =>
    have hlength : (ofPredicate d shown n l).leaves.length = l.comparisons.length := by
      rw [leaves_ofPredicate, List.length_map, List.length_zipIdx]
    rw [ofPredicate_join, truth, hlength, ihl, ihr, Predicate.truth_join]

/-- The clauses that pieces spell, as a part of a symbol of the grammar. -/
def Spells (n : Nat) (ps : List Piece) (s : Symbol) (c : Clause) : Prop :=
  ∃ ls, Writes d (written d shown n ps) ls ∧ Derives vocabulary s ls c

variable {d shown}

theorem Spells.parenthesized {n : Nat} {ps : List Piece} {s : Symbol} {c : Clause}
    (h : Spells d shown n ps s c) : Spells d shown n (parenthesized ps) .term c := by
  obtain ⟨ls, hls, hc⟩ := h
  refine ⟨opening :: ls ++ [closing], ?_, .group rfl hc.toDisjunction rfl⟩
  rw [written_parenthesized]
  exact hls.parenthesized

/-- Two operands with a word between them go on with a chain. -/
theorem Spells.join {n : Nat} {ps qs : List Piece} {op : Connective} {a b : Clause}
    (ha : Spells d shown n ps (chain op) a)
    (hb : Spells d shown (n + valueCount ps) qs .term b) :
    Spells d shown n (ps ++ .text (" " ++ (junction op).keyword ++ " ") :: qs) (chain op)
      (.join op a b) := by
  obtain ⟨ls, hls, ha⟩ := ha
  obtain ⟨ms, hms, hb⟩ := hb
  have hword : Writes d (junction op).keyword.toList [.word (junction op).keyword] := by
    cases op <;> exact writes_word (by decide) (by decide)
  refine ⟨ls ++ ([.word (junction op).keyword] ++ ms), ?_, ?_⟩
  · have htext := hls.blank (hword.blank hms)
    rw [written_append, written]
    simpa using htext
  · cases op with
    | and => exact Derives.and (V := vocabulary) ha ⟨_, rfl, by decide⟩ hb
    | or => exact Derives.or (V := vocabulary) ha ⟨_, rfl, by decide⟩ (.term hb)

/-- The symbol of the grammar that a formula is written as. -/
def symbol (f : Formula) : Symbol :=
  match f.junction? with
  | none => .term
  | some .all => .conjunction
  | some .any => .disjunction

/-- **A left operand of a chain**, in parentheses if it is a chain of the other word. -/
theorem Spells.left {n : Nat} {f : Formula} {c : Clause}
    (h : Spells d shown n f.pieces (symbol f) c) (op : Connective) :
    Spells d shown n (if f.junction?.any (· ≠ junction op) then Sql.parenthesized f.pieces
      else f.pieces) (chain op) c := by
  split
  · obtain ⟨ls, hls, hc⟩ := h.parenthesized
    exact ⟨ls, hls, derives_chain op hc⟩
  · rename_i hsame
    obtain ⟨ls, hls, hc⟩ := h
    refine ⟨ls, hls, ?_⟩
    unfold symbol at hc
    split at hc
    · exact derives_chain op hc
    · rename_i hall
      cases op with
      | and => exact hc
      | or => exact absurd (by rw [hall]; rfl) hsame
    · rename_i hany
      cases op with
      | and => exact absurd (by rw [hany]; rfl) hsame
      | or => exact hc

/-- **A right operand of a chain**, in parentheses if it is a chain itself. -/
theorem Spells.right {n : Nat} {f : Formula} {c : Clause}
    (h : Spells d shown n f.pieces (symbol f) c) :
    Spells d shown n (if f.junction?.isSome then Sql.parenthesized f.pieces else f.pieces)
      .term c := by
  split
  · exact h.parenthesized
  · rename_i hnone
    rw [Bool.not_eq_true, Option.isSome_eq_false_iff, Option.isNone_iff_eq_none] at hnone
    simpa only [symbol, hnone] using h

/-- The pieces of a comparison spell it. -/
theorem spells_ofComparison (hshown : ∀ n v, WritesOperand d (shown n v)) (n : Nat)
    (c : Comparison) : Spells d shown n (Condition.ofComparison c).fold.pieces .term
      (leaf (ofComparison d shown n c)) := by
  obtain ⟨l, hl, hoperand⟩ := hshown n (comparedValue c)
  have hsign : Writes d c.op.sign.toList [.word c.op.sign] := by
    cases c.op <;> exact writes_word (by decide) (by decide)
  have hplain := (writes_quoteName d c.column).blank (hsign.blank hl)
  have hsame (s : String) : eqIgnoreCase s s = true := by simp [eqIgnoreCase]
  rw [pieces_ofComparison, ofComparison]
  split
  · rename_i hlike
    have hescape : Writes d "ESCAPE".toList [.word "ESCAPE"] :=
      writes_word (by decide) (by decide)
    have htext := hplain.blank (hescape.blank
      (writes_quoteString d (String.singleton Pattern.escapeChar)))
    rw [hlike] at htext ⊢
    refine ⟨_, ?_, .leaf (.escaped (hsame _) hoperand (hsame "ESCAPE"))⟩
    simpa [written, Statement.escapeText] using htext
  · refine ⟨_, ?_, .leaf (.plain (hsame _) hoperand)⟩
    simpa [written] using hplain

/-- **The pieces of a predicate spell its clause.** -/
theorem spells_ofPredicate (hshown : ∀ n v, WritesOperand d (shown n v)) (n : Nat)
    (p : Predicate) : Spells d shown n (Condition.ofPredicate p).fold.pieces
      (symbol (Condition.ofPredicate p).fold) (ofPredicate d shown n p) := by
  induction p using Predicate.join_induction generalizing n with
  | compare c =>
    have hsymbol : symbol (Condition.ofComparison c).fold = .term := by
      unfold Condition.ofComparison
      split <;> rfl
    rw [fold_compare, hsymbol]
    exact spells_ofComparison hshown n c
  | join op l r ihl ihr =>
    have hsymbol (f g : Formula) : symbol (.binary (junction op) f g) = chain op := by
      cases op <;> rfl
    rw [fold_join, hsymbol, Formula.pieces, ofPredicate_join]
    refine ((ihl n).left op).join ?_
    rw [valueCount_operand, valueCount_pieces]
    exact (ihr _).right

end Spells

/-! ## Statements -/

/-- **The readings of a statement with a condition**: all rows of a table, and behind *where* a
disjunction of the grammar. -/
def States (d : Dialect) (text table : String) (c : Clause) : Prop :=
  ∃ ls, ofText? d text = some
      ([.word "SELECT", .word "*", .word "FROM", .name table, .word "WHERE"] ++ ls) ∧
    Derives vocabulary .disjunction ls c

/-- **A text asks for the rows that meet a predicate**: it has one reading, which compares what the
predicate compares, from left to right, and is true when the predicate is, whichever comparisons
are. -/
def AsksFor (d : Dialect) (text table : String) (p : Predicate) (shown : Nat → Value → String) :
    Prop :=
  ∃ c, (∀ c', States d text table c' ↔ c' = c) ∧
    c.leaves = (p.comparisons.zipIdx 1).map (fun (l, k) => ofComparison d shown k l) ∧
    ∀ v, c.truth v 1 = p.truth v 1

theorem States.unique {d : Dialect} {text table : String} {c c' : Clause}
    (h : States d text table c) (h' : States d text table c') : c = c' := by
  obtain ⟨ls, hls, hc⟩ := h
  obtain ⟨ls', hls', hc'⟩ := h'
  obtain rfl : ls = ls' := List.append_cancel_left (Option.some.inj (hls.symm.trans hls'))
  exact hc.unique vocabulary_separated hc'

theorem pieces_filter (table : String) (p : Predicate) :
    (Statement.backend.filter (.select table) p).pieces =
      .text ("SELECT * FROM " ++ quoteName table) :: .text " WHERE " ::
        (Condition.ofPredicate p).fold.pieces := by
  change _ :: (.text " WHERE " :: (Condition.ofPredicate p).fold.pieces ++ [] ++ [] ++ []) = _
  rw [List.append_nil, List.append_nil, List.append_nil]
  rfl

/-- The text of a filtered statement states the clause of the predicate. -/
theorem states_filter {d : Dialect} {shown : Nat → Value → String}
    (hshown : ∀ n v, WritesOperand d (shown n v)) {text table : String} {p : Predicate}
    (htext : text.toList =
      written d shown 1 (Statement.backend.filter (.select table) p).pieces) :
    States d text table (ofPredicate d shown 1 p) := by
  obtain ⟨ls, hls, hc⟩ := spells_ofPredicate hshown 1 p
  have hselect : Writes d "SELECT".toList [.word "SELECT"] := writes_word (by decide) (by decide)
  have hall : Writes d "*".toList [.word "*"] := writes_word (by decide) (by decide)
  have hfrom : Writes d "FROM".toList [.word "FROM"] := writes_word (by decide) (by decide)
  have hwhere : Writes d "WHERE".toList [.word "WHERE"] := writes_word (by decide) (by decide)
  have hwrites := hselect.blank (hall.blank (hfrom.blank
    ((writes_quoteName d table).blank (hwhere.blank hls))))
  refine ⟨ls, ofText?_of_writes ?_, hc.toDisjunction⟩
  rw [htext, pieces_filter]
  simpa [written] using hwrites

theorem asksFor_filter {d : Dialect} {shown : Nat → Value → String}
    (hshown : ∀ n v, WritesOperand d (shown n v)) {text table : String} {p : Predicate}
    (htext : text.toList =
      written d shown 1 (Statement.backend.filter (.select table) p).pieces) :
    AsksFor d text table p shown := by
  have hstates := states_filter hshown htext
  refine ⟨ofPredicate d shown 1 p, fun c' => ⟨fun h => h.unique hstates, ?_⟩,
    leaves_ofPredicate d shown 1 p, fun v => truth_ofPredicate d shown v 1 p⟩
  rintro rfl
  exact hstates

/-- **The condition of a filtered statement means the predicate**, in both dialects, with values
written out and with placeholders. -/
theorem filtered_statement_asks_for_predicate (d : Dialect) (table : String) (p : Predicate) :
    AsksFor d ((Statement.backend.filter (.select table) p).inlined d) table p
        (fun _ v => d.valueText v) ∧
      AsksFor d ((Statement.backend.filter (.select table) p).parameterized d) table p
        (fun n _ => d.placeholder n) :=
  ⟨asksFor_filter (fun _ v => writesOperand_valueText d v) (toList_inlined _ d),
    asksFor_filter (fun n _ => writesOperand_placeholder d n) (toList_parameterized _ d)⟩

end Clause

end Sql

end TableQuery
