import Mathlib
import TableQuery.Proofs.Filter.Acceptance

/-!
# Proofs/Filter/LetterCase — the reader does not see the case of words

Two tokens are alike if they differ in their places only, words also in the case of their letters
(`Token.Alike`).  Folding forgets just that: the place of a token, and the case of a word
(`Token.folded`).  Whatever the reader holds, expects or complains of folds with its tokens, and
each of its steps commutes with folding (`Reader.step_folded`).  So do its runs, and what it reads
from alike tokens is the same up to folding (`read_folded_of_alike`).
-/

namespace TableQuery

open Text (eqIgnoreCase)

/-! ## Words and tokens -/

theorem eqIgnoreCase_iff_toLower_eq {s t : String} :
    eqIgnoreCase s t = true ↔ s.toLower = t.toLower := by
  rw [← String.toList_inj]
  simp [eqIgnoreCase, String.toLower]

theorem map_toLower_toList_toLower (s : String) :
    s.toLower.toList.map Char.toLower = s.toList.map Char.toLower := by
  simp [String.toLower, Function.comp_def]

@[simp] theorem eqIgnoreCase_toLower_left (s t : String) :
    eqIgnoreCase s.toLower t = eqIgnoreCase s t := by
  rw [eqIgnoreCase, map_toLower_toList_toLower, eqIgnoreCase]

@[simp] theorem eqIgnoreCase_toLower_right (s t : String) :
    eqIgnoreCase s t.toLower = eqIgnoreCase s t := by
  rw [eqIgnoreCase, map_toLower_toList_toLower, eqIgnoreCase]

namespace Token

/-- Tokens of one kind with the same text; the case of a word does not count, nor does the place of
any token. -/
def Alike (t u : Token) : Prop :=
  t.kind = u.kind ∧ if t.kind = .ident then eqIgnoreCase t.text u.text = true else t.text = u.text

instance : DecidableRel Alike := fun t u => by unfold Alike; infer_instance

/-- A token without its place, a word in small letters. -/
def folded (t : Token) : Token :=
  ⟨t.kind, if t.kind = .ident then t.text.toLower else t.text, ⟨0, 0⟩⟩

@[simp] theorem kind_folded (t : Token) : t.folded.kind = t.kind := rfl

theorem text_folded_of_ne {t : Token} (h : t.kind ≠ .ident) : t.folded.text = t.text := if_neg h

/-- **Folding forgets what alike tokens may differ in, and nothing else.** -/
theorem folded_eq_iff_alike {t u : Token} : t.folded = u.folded ↔ t.Alike u := by
  simp only [folded, Alike, mk.injEq, and_true]
  refine and_congr_right fun hkind => ?_
  rw [← hkind]
  split
  · exact eqIgnoreCase_iff_toLower_eq.symm
  · exact Iff.rfl

theorem map_folded_eq_of_alike {ts us : List Token} (h : List.Forall₂ Alike ts us) :
    ts.map folded = us.map folded := by
  induction h with
  | nil => rfl
  | cons htoken _ ih => rw [List.map_cons, List.map_cons, folded_eq_iff_alike.mpr htoken, ih]

@[simp] theorem literal?_folded (t : Token) : t.folded.literal? = t.literal? := by
  cases hkind : t.kind <;> simp [literal?, folded, hkind]

end Token

namespace Filter

@[simp] theorem operator?_folded (t : Token) : operator? t.folded = operator? t := by
  by_cases hkind : t.kind = .ident <;> simp [operator?, Operator.ofKeyword?, Token.folded, hkind]

@[simp] theorem connective?_folded (t : Token) : connective? t.folded = connective? t := by
  by_cases hkind : t.kind = .ident <;>
    simp [connective?, Connective.ofKeyword?, Token.folded, hkind]

/-! ## Filters and readers -/

/-- A filter with its properties in small letters. -/
def folded : Filter → Filter
  | .compare field op value raw => .compare field.toLower op value raw
  | .join op l r => .join op l.folded r.folded

/-- An error without its place, words in small letters. -/
def ReadError.folded (e : ReadError) : ReadError where
  cause := match e.cause with
    | .operator field => .operator field.toLower
    | cause => cause
  found := e.found.folded

/-- A level of folded filters. -/
def Level.folded (level : Level) : Level :=
  ⟨level.alternatives.map Filter.folded, level.factors.map Filter.folded⟩

/-- A phase with what it holds folded. -/
def Phase.folded : Phase → Phase
  | .operand => .operand
  | .operator field => .operator field.toLower
  | .literal field op => .literal field.toLower op
  | .connective e => .connective e.folded

/-- A reader with all that it holds folded. -/
def Reader.folded (r : Reader) : Reader :=
  ⟨r.level.folded, r.outer.map Level.folded, r.phase.folded⟩

theorem joinLeft_folded (op : Connective) (l : Option Filter) (r : Filter) :
    joinLeft op (l.map folded) r.folded = (joinLeft op l r).folded := by
  cases l <;> rfl

theorem Level.close_folded (level : Level) (e : Filter) :
    level.folded.close e.folded = (level.close e).folded := by
  simp only [close, withFactor, folded, joinLeft_folded]

theorem Level.join_folded (level : Level) (op : Connective) (e : Filter) :
    level.folded.join op e.folded = (level.join op e).folded := by
  cases op with
  | and => simp [join, withFactor, folded, joinLeft_folded]
  | or =>
    simp only [join, close_folded]
    rfl

/-! ## Steps and runs -/

/-- What a computation yields, or its error, folded. -/
def foldedOutcome {α : Type} (fold : α → α) (x : Except ReadError α) : Except ReadError α :=
  (x.map fold).mapError ReadError.folded

@[simp] theorem foldedOutcome_ok {α : Type} (fold : α → α) (a : α) :
    foldedOutcome fold (.ok a) = .ok (fold a) := rfl

@[simp] theorem foldedOutcome_error {α : Type} (fold : α → α) (e : ReadError) :
    foldedOutcome fold (.error e) = .error e.folded := rfl

theorem comparison_folded (field : String) (op : Operator) (t : Token) :
    comparison field.toLower op t.folded = foldedOutcome folded (comparison field op t) := by
  simp only [comparison, Token.kind_folded, Token.literal?_folded]
  split
  · rfl
  split
  · rfl
  cases t.literal? with
  | none => rfl
  | some v =>
    have hkind : t.kind ≠ .ident := fun hkind => by simp_all [Token.Kind.isLiteral]
    simp [folded, Token.text_folded_of_ne hkind]

/-- **A step commutes with folding.** -/
theorem Reader.step_folded (r : Reader) (t : Token) :
    r.folded.step t.folded = foldedOutcome folded (r.step t) := by
  obtain ⟨level, outer, phase⟩ := r
  cases phase with
  | operand =>
    cases hkind : t.kind <;>
      simp [step, folded, Phase.folded, hkind, Level.empty, Level.folded, ReadError.folded,
        Token.folded]
  | operator field =>
    simp only [step, folded, Phase.folded, operator?_folded]
    cases operator? t <;> rfl
  | literal field op =>
    simp only [step, folded, Phase.folded, comparison_folded]
    cases comparison field op t <;> rfl
  | connective e =>
    simp only [step, folded, Phase.folded, connective?_folded, Token.kind_folded,
      Level.join_folded, Level.close_folded]
    cases connective? t with
    | some op => rfl
    | none =>
      cases outer with
      | nil => rfl
      | cons around outer =>
        simp only [List.map_cons]
        split <;> rfl

theorem Reader.run_folded (r : Reader) (ts : List Token) :
    r.folded.run (ts.map Token.folded) = foldedOutcome folded (r.run ts) := by
  induction ts generalizing r with
  | nil => rfl
  | cons t ts ih =>
    rw [List.map_cons, run_cons, run_cons, step_folded]
    cases r.step t with
    | error e => rfl
    | ok r' => exact ih r'

theorem Reader.finish_folded (r : Reader) (eof : Token) :
    r.folded.finish eof.folded = foldedOutcome Filter.folded (r.finish eof) := by
  obtain ⟨level, outer, phase⟩ := r
  cases phase with
  | connective e =>
    cases outer with
    | nil => simp [finish, folded, Phase.folded, Level.close_folded]
    | cons => rfl
  | _ => rfl

theorem run_finish_folded (ts : List Token) (eof : Token) :
    (do (← Reader.start.run (ts.map Token.folded)).finish eof.folded) =
      foldedOutcome folded (do (← Reader.start.run ts).finish eof) := by
  have hrun : Reader.start.run (ts.map Token.folded)
      = foldedOutcome Reader.folded (Reader.start.run ts) := Reader.start.run_folded ts
  rw [hrun]
  cases Reader.start.run ts with
  | error e => rfl
  | ok r => exact r.finish_folded eof

/-- **From alike tokens the same filter is read, or the same error arises, up to folding.** -/
theorem read_folded_of_alike {s t : String}
    (h : List.Forall₂ Token.Alike (Token.tokenize s) (Token.tokenize t)) :
    foldedOutcome folded (read s) = foldedOutcome folded (read t) := by
  have hend : (Token.endOf s).folded = (Token.endOf t).folded := rfl
  rw [read, read, ← run_finish_folded, ← run_finish_folded, Token.map_folded_eq_of_alike h, hend]

end Filter

end TableQuery
