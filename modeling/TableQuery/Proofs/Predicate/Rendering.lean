import TableQuery.Proofs.Grammar
import TableQuery.Row.Cell

/-!
# Proofs/Predicate/Rendering — the text of a predicate can be read back

The text of a predicate is written in the grammar of `Proofs/Grammar`, over these lexemes:

    '('    ')'    ' AND '    ' OR '    column ' ' sign ' ?'

If no column holds a blank or a parenthesis, a text is cut into lexemes in one way only
(`eq_of_chars_eq`), so it is read in one way only.  What is read is the predicate itself but for the
nesting of its chains of *and*, which the text leaves open (`exists_derives`); and the nesting of
such a chain is no matter when a row is tested (`Reassociates.holds_eq`).
-/

namespace TableQuery.Predicate

open Grammar
open TableQuery.Filter (Connective)

/-! ## Lexemes -/

/-- What the text of a predicate is made of.  A comparison has the value that its question mark
stands for. -/
inductive Lexeme where
  | opening
  | closing
  | connective (op : Connective)
  | comparison (c : Comparison)

/-- Whether a name can be told from what stands around it: there is one, and it holds neither a
blank nor a parenthesis. -/
def IsColumn (name : String) : Prop :=
  name ≠ "" ∧ ∀ c ∈ name.toList, c ≠ ' ' ∧ c ≠ '(' ∧ c ≠ ')'

namespace Lexeme

/-- The characters of a lexeme. -/
def chars : Lexeme → List Char
  | .opening => ['(']
  | .closing => [')']
  | .connective .and => " AND ".toList
  | .connective .or => " OR ".toList
  | .comparison c => c.column.toList ++ ' ' :: (c.op.sign.toList ++ [' ', '?'])

/-- The value of a comparison. -/
def value? : Lexeme → Option Literal
  | .comparison c => some c.value
  | _ => none

/-- Whether the column of a comparison can be told from what stands around it. -/
def IsProper : Lexeme → Prop
  | .comparison c => IsColumn c.column
  | _ => True

end Lexeme

/-- The lexemes of predicates. -/
def vocabulary : Vocabulary Lexeme Predicate where
  opens l := l = .opening
  closes l := l = .closing
  joins op l := l = .connective op
  leaf ls p := ∃ c, ls = [.comparison c] ∧ p = .compare c
  join := join

theorem vocabulary_separated : vocabulary.Separated where
  joins_unique h h' := Lexeme.connective.inj (h.symm.trans h')
  not_closes h hc := by cases h.symm.trans hc
  leaf_ne_nil := by
    rintro _ _ ⟨c, rfl, -⟩
    exact List.cons_ne_nil _ _
  not_opens := by
    rintro _ _ _ ⟨c, h, -⟩ ho
    cases (List.cons.inj h).1.symm.trans ho
  leaf_unique := by
    rintro _ _ _ _ _ _ ⟨c, rfl, rfl⟩ ⟨d, rfl, rfl⟩ heq _ _
    obtain rfl : c = d := Lexeme.comparison.inj (List.cons.inj heq).1
    exact ⟨rfl, rfl⟩

/-- **The predicates that a text reads as**, its question marks filled with the given values, one
after the other. -/
def Reads (text : String) (values : List Literal) (p : Predicate) : Prop :=
  ∃ ls, (∀ l ∈ ls, l.IsProper) ∧ ls.flatMap Lexeme.chars = text.toList ∧
    ls.filterMap Lexeme.value? = values ∧ Derives vocabulary .disjunction ls p

/-! ## Cutting a text into lexemes -/

theorem eq_of_append_blank {xs ys us vs : List Char} (hxs : ' ' ∉ xs) (hys : ' ' ∉ ys)
    (h : xs ++ ' ' :: us = ys ++ ' ' :: vs) : xs = ys ∧ us = vs := by
  induction xs generalizing ys with
  | nil =>
    cases ys with
    | nil => exact ⟨rfl, (List.cons.inj h).2⟩
    | cons y ys => exact absurd (List.cons.inj h).1 (List.ne_of_not_mem_cons hys)
  | cons x xs ih =>
    cases ys with
    | nil => exact absurd (List.cons.inj h).1.symm (List.ne_of_not_mem_cons hxs)
    | cons y ys =>
      obtain ⟨rfl, htail⟩ := List.cons.inj h
      obtain ⟨rfl, rfl⟩ := ih (List.not_mem_of_not_mem_cons hxs)
        (List.not_mem_of_not_mem_cons hys) htail
      exact ⟨rfl, rfl⟩

theorem blank_not_mem_sign (op : Comparator) : ' ' ∉ op.sign.toList := by
  cases op <;> decide

theorem sign_injective {op op' : Comparator} (h : op.sign.toList = op'.sign.toList) : op = op' := by
  revert h
  cases op <;> cases op' <;> decide

theorem IsColumn.exists_cons {name : String} (h : IsColumn name) :
    ∃ c cs, name.toList = c :: cs ∧ c ≠ ' ' ∧ c ≠ '(' ∧ c ≠ ')' := by
  cases hname : name.toList with
  | nil => exact absurd (String.toList_eq_nil_iff.mp hname) h.1
  | cons c cs => exact ⟨c, cs, rfl, h.2 c (by simp [hname])⟩

/-- A comparison starts like no other lexeme. -/
theorem chars_comparison_ne {c : Comparison} {l : Lexeme} {xs ys : List Char}
    (hc : IsColumn c.column) (hl : ∀ d, l ≠ .comparison d) :
    (Lexeme.comparison c).chars ++ xs ≠ l.chars ++ ys := by
  obtain ⟨d, ds, hname, hblank, hopen, hclose⟩ := hc.exists_cons
  cases l with
  | opening | closing => simp [Lexeme.chars, hname, hopen, hclose]
  | connective op => cases op <;> simp [Lexeme.chars, hname, hblank]
  | comparison d => exact absurd rfl (hl d)

/-- A comparison is told from its characters, but for its value. -/
theorem comparison_eq_of_chars {c d : Comparison} {xs ys : List Char} (hc : IsColumn c.column)
    (hd : IsColumn d.column)
    (h : (Lexeme.comparison c).chars ++ xs = (Lexeme.comparison d).chars ++ ys) :
    c = { d with value := c.value } ∧ xs = ys := by
  obtain ⟨column, op, value⟩ := c
  obtain ⟨column', op', value'⟩ := d
  simp only [Lexeme.chars, List.append_assoc, List.cons_append, List.nil_append] at h
  obtain ⟨hcolumn, hbehind⟩ := eq_of_append_blank (fun hmem => (hc.2 _ hmem).1 rfl)
    (fun hmem => (hd.2 _ hmem).1 rfl) h
  obtain ⟨hsign, hrest⟩ :=
    eq_of_append_blank (blank_not_mem_sign op) (blank_not_mem_sign op') hbehind
  obtain rfl : column = column' := String.toList_inj.mp hcolumn
  obtain rfl := sign_injective hsign
  exact ⟨rfl, (List.cons.inj hrest).2⟩

/-- The lexemes without a column are told from their characters. -/
theorem mark_eq_of_chars {l m : Lexeme} {xs ys : List Char} (hl : ∀ c, l ≠ .comparison c)
    (hm : ∀ c, m ≠ .comparison c) (h : l.chars ++ xs = m.chars ++ ys) : l = m ∧ xs = ys := by
  rcases l with _ | _ | ⟨_ | _⟩ | c <;> rcases m with _ | _ | ⟨_ | _⟩ | d <;>
    simp_all [Lexeme.chars]

/-- **The first lexeme of a text is determined**, but for the value of a comparison. -/
theorem head_eq_of_chars {l m : Lexeme} {xs ys : List Char} (hl : l.IsProper) (hm : m.IsProper)
    (h : l.chars ++ xs = m.chars ++ ys) :
    (l = m ∨ ∃ c d, l = .comparison c ∧ m = .comparison d ∧ c = { d with value := c.value }) ∧
      xs = ys := by
  by_cases hcomparison : ∃ c, l = .comparison c
  · obtain ⟨c, rfl⟩ := hcomparison
    by_cases hcomparison' : ∃ d, m = .comparison d
    · obtain ⟨d, rfl⟩ := hcomparison'
      obtain ⟨hcd, hrest⟩ := comparison_eq_of_chars hl hm h
      exact ⟨Or.inr ⟨c, d, rfl, rfl, hcd⟩, hrest⟩
    · exact absurd h (chars_comparison_ne hl (not_exists.mp hcomparison'))
  · by_cases hcomparison' : ∃ d, m = .comparison d
    · obtain ⟨d, rfl⟩ := hcomparison'
      exact absurd h.symm (chars_comparison_ne hm (not_exists.mp hcomparison))
    · obtain ⟨hlm, hrest⟩ :=
        mark_eq_of_chars (not_exists.mp hcomparison) (not_exists.mp hcomparison') h
      exact ⟨Or.inl hlm, hrest⟩

theorem chars_ne_nil (l : Lexeme) : l.chars ≠ [] := by
  rcases l with _ | _ | ⟨_ | _⟩ | c <;> simp [Lexeme.chars]

/-- **A text is cut into lexemes in one way only**, given the values of its question marks. -/
theorem eq_of_chars_eq {ls ms : List Lexeme} (hls : ∀ l ∈ ls, l.IsProper)
    (hms : ∀ m ∈ ms, m.IsProper) (hchars : ls.flatMap Lexeme.chars = ms.flatMap Lexeme.chars)
    (hvalues : ls.filterMap Lexeme.value? = ms.filterMap Lexeme.value?) : ls = ms := by
  induction ls generalizing ms with
  | nil =>
    cases ms with
    | nil => rfl
    | cons m ms => simp [chars_ne_nil] at hchars
  | cons l ls ih =>
    cases ms with
    | nil => simp [chars_ne_nil] at hchars
    | cons m ms =>
      rw [List.forall_mem_cons] at hls hms
      obtain ⟨hhead, htail⟩ := head_eq_of_chars hls.1 hms.1 hchars
      rcases hhead with rfl | ⟨c, d, rfl, rfl, hcd⟩
      · have hrest : ls.filterMap Lexeme.value? = ms.filterMap Lexeme.value? := by
          cases hvalue : l.value? <;> simpa [hvalue] using hvalues
        rw [ih hls.2 hms.2 htail hrest]
      · obtain ⟨hvalue, hrest⟩ := List.cons.inj hvalues
        obtain rfl : c = d := by rw [hcd, hvalue]
        rw [ih hls.2 hms.2 htail hrest]

/-- **A text reads as one predicate at most.** -/
theorem Reads.unique {text : String} {values : List Literal} {p q : Predicate}
    (hp : Reads text values p) (hq : Reads text values q) : p = q := by
  obtain ⟨ls, hls, hchars, hvalues, hp⟩ := hp
  obtain ⟨ms, hms, hchars', hvalues', hq⟩ := hq
  obtain rfl := eq_of_chars_eq hls hms (hchars.trans hchars'.symm) (hvalues.trans hvalues'.symm)
  exact hp.unique vocabulary_separated hq

/-! ## The lexemes of a predicate -/

/-- Lexemes with or without parentheses around them. -/
def grouped (parens : Bool) (ls : List Lexeme) : List Lexeme :=
  if parens then .opening :: ls ++ [.closing] else ls

/-- The lexemes of a predicate, in the order in which they are written. -/
def lexemes : Predicate → List Lexeme
  | .compare c => [.comparison c]
  | .and l r => grouped l.isOr l.lexemes ++ .connective .and :: grouped r.isOr r.lexemes
  | .or l r => grouped true l.lexemes ++ .connective .or :: grouped true r.lexemes

/-- The characters of pieces, with a question mark for each value. -/
def pieceChars (ps : List Piece) : List Char :=
  (ps.map (Piece.textWith fun _ => "?")).flatMap String.toList

theorem pieceChars_append (ps qs : List Piece) :
    pieceChars (ps ++ qs) = pieceChars ps ++ pieceChars qs := by
  rw [pieceChars, List.map_append, List.flatMap_append]
  rfl

theorem pieceChars_grouped {ps : List Piece} {ls : List Lexeme}
    (h : pieceChars ps = ls.flatMap Lexeme.chars) (parens : Bool) :
    pieceChars (if parens then parenthesized ps else ps) =
      (grouped parens ls).flatMap Lexeme.chars := by
  cases parens with
  | false => exact h
  | true =>
    have hparens : pieceChars (parenthesized ps) = '(' :: (pieceChars ps ++ [')']) := by
      rw [parenthesized, pieceChars_append]
      rfl
    rw [if_pos rfl, hparens, h, grouped, if_pos rfl, List.flatMap_append]
    rfl

theorem pieceChars_pieces (p : Predicate) :
    pieceChars p.pieces = p.lexemes.flatMap Lexeme.chars := by
  induction p with
  | compare c => simp [pieces, lexemes, pieceChars, Piece.textWith, Lexeme.chars]
  | and l r ihl ihr =>
    rw [pieces, lexemes, pieceChars_append, List.flatMap_append, List.flatMap_cons,
      pieceChars_grouped ihl, ← pieceChars_grouped ihr]
    rfl
  | or l r ihl ihr =>
    rw [pieces, lexemes, pieceChars_append, List.flatMap_append, List.flatMap_cons,
      ← pieceChars_grouped ihl true, ← pieceChars_grouped ihr true]
    rfl

/-- **The text of a predicate is that of its lexemes.** -/
theorem toList_render (p : Predicate) : p.render.toList = p.lexemes.flatMap Lexeme.chars := by
  rw [render, String.toList_join]
  exact pieceChars_pieces p

theorem filterMap_value?_grouped (parens : Bool) (ls : List Lexeme) :
    (grouped parens ls).filterMap Lexeme.value? = ls.filterMap Lexeme.value? := by
  cases parens with
  | false => rfl
  | true =>
    rw [grouped, if_pos rfl, List.filterMap_append, List.filterMap_cons_none rfl,
      List.filterMap_cons_none rfl, List.filterMap_nil, List.append_nil]

/-- The values of a predicate's lexemes are those of its comparisons. -/
theorem filterMap_value?_lexemes (p : Predicate) :
    p.lexemes.filterMap Lexeme.value? = p.comparisons.map Comparison.value := by
  induction p with
  | compare c => rfl
  | and l r ihl ihr | or l r ihl ihr =>
    rw [lexemes, List.filterMap_append, List.filterMap_cons_none rfl, filterMap_value?_grouped,
      filterMap_value?_grouped, ihl, ihr, comparisons, List.map_append]

theorem filterMap_value?_parenthesized (ps : List Piece) :
    (parenthesized ps).filterMap Piece.value? = ps.filterMap Piece.value? := by
  rw [parenthesized, List.filterMap_append, List.filterMap_cons_none rfl,
    List.filterMap_cons_none rfl, List.filterMap_nil, List.append_nil]

/-- **The values of the question marks are those of the comparisons, in their order.** -/
theorem params_eq (p : Predicate) : p.params = p.comparisons.map Comparison.value := by
  have hoperand (p : Predicate) : (if p.isOr then parenthesized p.pieces else p.pieces).filterMap
      Piece.value? = p.pieces.filterMap Piece.value? := by
    split
    · exact filterMap_value?_parenthesized _
    · rfl
  rw [params]
  induction p with
  | compare c => rfl
  | and l r ihl ihr =>
    rw [pieces, List.filterMap_append, List.filterMap_cons_none rfl, hoperand, hoperand, ihl, ihr,
      comparisons, List.map_append]
  | or l r ihl ihr =>
    rw [pieces, List.filterMap_append, List.filterMap_cons_none rfl,
      filterMap_value?_parenthesized, filterMap_value?_parenthesized, ihl, ihr, comparisons,
      List.map_append]

theorem isProper_grouped {ls : List Lexeme} (h : ∀ l ∈ ls, l.IsProper) (parens : Bool) :
    ∀ l ∈ grouped parens ls, l.IsProper := by
  cases parens with
  | false => exact h
  | true => simpa [grouped, Lexeme.IsProper, or_imp, forall_and] using h

theorem isProper_lexemes {p : Predicate} (h : ∀ c ∈ p.comparisons, IsColumn c.column) :
    ∀ l ∈ p.lexemes, l.IsProper := by
  induction p with
  | compare c => simpa [lexemes, Lexeme.IsProper, comparisons] using h
  | and l r ihl ihr | or l r ihl ihr =>
    rw [comparisons, List.forall_mem_append] at h
    rw [lexemes, List.forall_mem_append, List.forall_mem_cons]
    exact ⟨isProper_grouped (ihl h.1) _, trivial, isProper_grouped (ihr h.2) _⟩

/-! ## Chains of *and* -/

/-- **Predicates that differ in the nesting of their chains of *and* at most.** -/
inductive Reassociates : Predicate → Predicate → Prop where
  | refl (p : Predicate) : Reassociates p p
  | symm {p q : Predicate} : Reassociates p q → Reassociates q p
  | trans {p q r : Predicate} : Reassociates p q → Reassociates q r → Reassociates p r
  | assoc (p q r : Predicate) : Reassociates (.and (.and p q) r) (.and p (.and q r))
  | and {p p' q q' : Predicate} :
      Reassociates p p' → Reassociates q q' → Reassociates (.and p q) (.and p' q')
  | or {p p' q q' : Predicate} :
      Reassociates p p' → Reassociates q q' → Reassociates (.or p q) (.or p' q')

/-- **The nesting of a chain of *and* is not written.** -/
theorem Reassociates.lexemes_eq {p q : Predicate} (h : Reassociates p q) :
    p.lexemes = q.lexemes ∧ p.isOr = q.isOr := by
  induction h with
  | refl => exact ⟨rfl, rfl⟩
  | symm _ ih => exact ⟨ih.1.symm, ih.2.symm⟩
  | trans _ _ ih ih' => exact ⟨ih.1.trans ih'.1, ih.2.trans ih'.2⟩
  | assoc p q r => simp [lexemes, isOr, grouped]
  | and _ _ ih ih' => exact ⟨by rw [lexemes, lexemes, ih.1, ih.2, ih'.1, ih'.2], rfl⟩
  | or _ _ ih ih' => exact ⟨by rw [lexemes, lexemes, ih.1, ih'.1], rfl⟩

/-- **The nesting of a chain of *and* is no matter to a row.** -/
theorem Reassociates.holds_eq {p q : Predicate} (h : Reassociates p q) (row : Json) :
    p.holds row = q.holds row := by
  induction h with
  | refl => rfl
  | symm _ ih => exact ih.symm
  | trans _ _ ih ih' => exact ih.trans ih'
  | assoc p q r => exact Bool.and_assoc _ _ _
  | and _ _ ih ih' | or _ _ ih ih' => rw [holds, holds, ih, ih']

/-! ## Reading back -/

/-- The symbol of the grammar that a predicate is written as. -/
def symbol : Predicate → Symbol
  | .compare _ => .term
  | .and _ _ => .conjunction
  | .or _ _ => .disjunction

theorem derives_grouped {s : Symbol} {ls : List Lexeme} {p : Predicate}
    (h : Derives vocabulary s ls p) : Derives vocabulary .term (grouped true ls) p :=
  .group rfl h.toDisjunction rfl

/-- An operand of *and* is a conjunction as it stands, or in the parentheses of an *or*. -/
theorem derives_operand {p q : Predicate} (h : Derives vocabulary p.symbol p.lexemes q) :
    Derives vocabulary .conjunction (grouped p.isOr p.lexemes) q := by
  cases p with
  | compare c => exact .term h
  | and l r => exact h
  | or l r => exact .term (derives_grouped h)

/-- **Two conjunctions with an *and* between them are one**, nested to the left. -/
theorem exists_conjunction {ls ms : List Lexeme} {p q : Predicate}
    (hp : Derives vocabulary .conjunction ls p) (hq : Derives vocabulary .conjunction ms q) :
    ∃ r, Derives vocabulary .conjunction (ls ++ .connective .and :: ms) r ∧
      Reassociates (.and p q) r := by
  generalize hs : Symbol.conjunction = s at hq
  induction hq with
  | term hq => exact ⟨_, .and hp rfl hq, .refl _⟩
  | @and ms us t a b _ ht hb ih =>
    -- The last operand of the right chain becomes the last one of the whole.
    obtain ⟨r, hr, hreassociates⟩ := ih hs
    refine ⟨.and r b, ?_, .trans (.symm (.assoc p a b)) (.and hreassociates (.refl b))⟩
    rw [← List.cons_append, ← List.append_assoc]
    exact .and hr ht hb
  | conjunction | or | group | leaf => cases hs

/-- **A predicate is derived from its lexemes**, but for the nesting of its chains of *and*. -/
theorem exists_derives (p : Predicate) :
    ∃ q, Derives vocabulary p.symbol p.lexemes q ∧ Reassociates p q := by
  induction p with
  | compare c => exact ⟨.compare c, .leaf ⟨c, rfl, rfl⟩, .refl _⟩
  | and l r ihl ihr =>
    obtain ⟨p, hp, hlp⟩ := ihl
    obtain ⟨q, hq, hrq⟩ := ihr
    obtain ⟨t, ht, hreassociates⟩ := exists_conjunction (derives_operand hp) (derives_operand hq)
    exact ⟨t, ht, .trans (.and hlp hrq) hreassociates⟩
  | or l r ihl ihr =>
    obtain ⟨p, hp, hlp⟩ := ihl
    obtain ⟨q, hq, hrq⟩ := ihr
    have hleft := Derives.term (derives_grouped hp)
    have hright := Derives.term (derives_grouped hq)
    exact ⟨.or p q, .or (.conjunction hleft) rfl hright, .or hlp hrq⟩

theorem exists_reads {p : Predicate} (h : ∀ c ∈ p.comparisons, IsColumn c.column) :
    ∃ q, Reads p.render p.params q ∧ Reassociates p q := by
  obtain ⟨q, hq, hreassociates⟩ := exists_derives p
  refine ⟨q, ⟨p.lexemes, isProper_lexemes h, (toList_render p).symm, ?_, hq.toDisjunction⟩,
    hreassociates⟩
  rw [filterMap_value?_lexemes, params_eq]

/-- **The text of a predicate says all of it but the nesting of its chains of *and*.**  It reads as
one predicate, which differs in that nesting at most.  So two predicates have one text and the same
values exactly if they differ in that nesting at most, and then they hold on the same rows. -/
theorem render_reads_back (p : Predicate) (h : ∀ c ∈ p.comparisons, IsColumn c.column) :
    (∃ q, (∀ q', Reads p.render p.params q' ↔ q' = q) ∧ Reassociates p q) ∧
    ∀ p' : Predicate, (∀ c ∈ p'.comparisons, IsColumn c.column) →
      (p.render = p'.render ∧ p.params = p'.params ↔ Reassociates p p') ∧
      (p.render = p'.render → p.params = p'.params → ∀ row, p.holds row = p'.holds row) := by
  obtain ⟨q, hq, hpq⟩ := exists_reads h
  refine ⟨⟨q, fun q' => ⟨fun h => h.unique hq, ?_⟩, hpq⟩, fun p' h' => ?_⟩
  · rintro rfl
    exact hq
  have hreassociates (htext : p.render = p'.render) (hvalues : p.params = p'.params) :
      Reassociates p p' := by
    obtain ⟨q', hq', hpq'⟩ := exists_reads h'
    rw [htext, hvalues] at hq
    obtain rfl := hq.unique hq'
    exact hpq.trans hpq'.symm
  refine ⟨⟨fun heq => hreassociates heq.1 heq.2, fun hpp' => ?_⟩,
    fun htext hvalues => (hreassociates htext hvalues).holds_eq⟩
  have hlexemes := hpp'.lexemes_eq.1
  constructor
  · rw [← String.toList_inj, toList_render, toList_render, hlexemes]
  · rw [params_eq, params_eq, ← filterMap_value?_lexemes, ← filterMap_value?_lexemes, hlexemes]

/-- Columns named like the words and signs of the grammar, in two nestings of one chain. -/
theorem chain_of_keywords_reads_back :
    ∃ p p' : Predicate,
      p = .and (.compare ⟨"AND", .less, .integer 1⟩) (.and (.compare ⟨"?", .equal, .text "x"⟩)
        (.or (.compare ⟨"=", .like, .text "%"⟩) (.compare ⟨"OR", .notEqual, .integer 2⟩))) ∧
      p' = .and (.and (.compare ⟨"AND", .less, .integer 1⟩) (.compare ⟨"?", .equal, .text "x"⟩))
        (.or (.compare ⟨"=", .like, .text "%"⟩) (.compare ⟨"OR", .notEqual, .integer 2⟩)) ∧
      (∀ c ∈ p.comparisons, IsColumn c.column) ∧ (∀ c ∈ p'.comparisons, IsColumn c.column) ∧
      p.render = "AND < ? AND ? = ? AND ((= LIKE ?) OR (OR <> ?))" ∧ p.render = p'.render ∧
      (∃ q, (∀ q', Reads p.render p.params q' ↔ q' = q) ∧ Reassociates p q) ∧
      ∀ row, p.holds row = p'.holds row := by
  refine ⟨_, _, rfl, rfl, ?_⟩
  suffices h : (∀ c ∈ comparisons _, IsColumn c.column) ∧ ∀ c ∈ comparisons _, IsColumn c.column by
    obtain ⟨hread, hsame⟩ := render_reads_back _ h.1
    exact ⟨h.1, h.2, rfl, rfl, hread, (hsame _ h.2).2 rfl rfl⟩
  constructor <;> simp [comparisons, IsColumn]

end TableQuery.Predicate
