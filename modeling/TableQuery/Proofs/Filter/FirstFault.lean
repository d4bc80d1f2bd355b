import TableQuery.Proofs.Filter.Acceptance
import TableQuery.Proofs.Token.Scanning

/-!
# Proofs/Filter/FirstFault — an error stands at the first token that no filter continues with

A reader takes a list of tokens exactly if more tokens can make a filter of them.  One direction is
a property of grammars: who takes a whole filter takes its beginnings (`exists_run_of_completes`).
The other is one of this reader: whatever state it is in, there is a text that completes it
(`Reader.finish_rest`) — a comparison if an operand is missing, then a parenthesis for each
level.  So the token that a reader refuses is the first one that cannot be completed, and a reader
that misses a token at the end has been given nothing wrong.
-/

namespace TableQuery.Filter

open Grammar Token

/-- **Tokens `us` complete tokens `ts`** if both together spell a filter. -/
def Completes (us ts : List Token) : Prop := ∃ e, Derives vocabulary .disjunction (ts ++ us) e

/-! ## Completing what has been read -/

/-- What is missing from the operand that is being read. -/
def Phase.rest : Phase → List Char
  | .operand => ['x', ' ', 'e', 'q', ' ', '\'', '\'']
  | .operator _ => ['e', 'q', ' ', '\'', '\'']
  | .literal .. => ['\'', '\'']
  | .connective _ => []

/-- A text that completes what a reader holds: the rest of the operand, and a parenthesis for each
level around. -/
def Reader.rest (r : Reader) : String :=
  String.ofList (r.phase.rest ++ List.replicate r.outer.length ')')

variable (level : Level) (outer : List Level)

/-- An empty text is a literal for every operator. -/
theorem Reader.run_literal_rest (field : String) (op : Operator) (pos : Nat) (cs : List Char) :
    ∃ e, Reader.run ⟨level, outer, .literal field op⟩ (scan .none pos ('\'' :: '\'' :: cs))
      = Reader.run ⟨level, outer, .connective e⟩ (scan .none (pos + 2) cs) := by
  have hscan : scan .none pos ('\'' :: '\'' :: cs)
      = ⟨.string, "", ⟨pos, pos + 2⟩⟩ :: scan .none (pos + 2) cs := rfl
  have hvalue : comparison field op ⟨.string, "", ⟨pos, pos + 2⟩⟩
      = .ok (.compare field op (.text "") "") :=
    comparison_eq_ok_iff.mpr ⟨rfl, fun _ => rfl, .text "", rfl, rfl⟩
  refine ⟨.compare field op (.text "") "", ?_⟩
  rw [hscan, Reader.run_cons]
  change (comparison field op _ >>= _) >>= _ = _
  rw [hvalue]
  rfl

theorem Reader.run_operator_rest (field : String) (pos : Nat) (cs : List Char) :
    Reader.run ⟨level, outer, .operator field⟩ (scan .none pos ('e' :: 'q' :: ' ' :: cs))
      = Reader.run ⟨level, outer, .literal field .eq⟩ (scan .none (pos + 3) cs) := by
  have hscan : scan .none pos ('e' :: 'q' :: ' ' :: cs)
      = ⟨.ident, "eq", ⟨pos, pos + 2⟩⟩ :: scan .none (pos + 3) cs := rfl
  have hop : operator? ⟨.ident, "eq", ⟨pos, pos + 2⟩⟩ = some .eq :=
    operator?_eq_some_iff.mpr (by simp [isKeyword_iff, Text.eqIgnoreCase, Operator.keyword])
  rw [hscan, Reader.run_cons]
  simp only [Reader.step, hop]
  rfl

theorem Reader.run_operand_rest (pos : Nat) (cs : List Char) :
    Reader.run ⟨level, outer, .operand⟩ (scan .none pos ('x' :: ' ' :: cs))
      = Reader.run ⟨level, outer, .operator "x"⟩ (scan .none (pos + 2) cs) := by
  have hscan : scan .none pos ('x' :: ' ' :: cs)
      = ⟨.ident, "x", ⟨pos, pos + 1⟩⟩ :: scan .none (pos + 2) cs := rfl
  rw [hscan, Reader.run_cons]
  rfl

/-- **The operand that is being read can be completed.** -/
theorem Reader.run_phase_rest (phase : Phase) (cs : List Char) :
    ∃ e pos, Reader.run ⟨level, outer, phase⟩ (scan .none 0 (phase.rest ++ cs))
      = Reader.run ⟨level, outer, .connective e⟩ (scan .none pos cs) := by
  cases phase with
  | operand =>
    obtain ⟨e, he⟩ := Reader.run_literal_rest level outer "x" .eq 5 cs
    refine ⟨e, 7, ?_⟩
    change Reader.run _ (scan .none 0 ('x' :: ' ' :: 'e' :: 'q' :: ' ' :: '\'' :: '\'' :: cs)) = _
    rw [Reader.run_operand_rest, Reader.run_operator_rest]
    exact he
  | operator field =>
    obtain ⟨e, he⟩ := Reader.run_literal_rest level outer field .eq 3 cs
    refine ⟨e, 5, ?_⟩
    change Reader.run _ (scan .none 0 ('e' :: 'q' :: ' ' :: '\'' :: '\'' :: cs)) = _
    rw [Reader.run_operator_rest]
    exact he
  | literal field op =>
    obtain ⟨e, he⟩ := Reader.run_literal_rest level outer field op 0 cs
    exact ⟨e, 2, he⟩
  | connective e => exact ⟨e, 0, rfl⟩

/-- **Behind an operand, one parenthesis closes one level.** -/
theorem Reader.run_parens (e : Filter) (pos : Nat) :
    ∃ level' e', Reader.run ⟨level, outer, .connective e⟩
      (scan .none pos (List.replicate outer.length ')')) = .ok ⟨level', [], .connective e'⟩ := by
  induction outer generalizing level e pos with
  | nil => exact ⟨level, e, rfl⟩
  | cons level' outer ih =>
    have hscan : scan .none pos (')' :: List.replicate outer.length ')')
        = ofChar .rightParen pos ')' :: scan .none (pos + 1) (List.replicate outer.length ')') :=
      rfl
    rw [List.length_cons, List.replicate_succ, hscan, Reader.run_cons, Reader.step_close rfl]
    exact ih level' (level.close e) (pos + 1)

/-- **Whatever has been read can be completed.** -/
theorem Reader.finish_rest (r : Reader) (eof : Token) :
    ∃ e, (r.run (tokenize r.rest) >>= fun r => r.finish eof) = .ok e := by
  obtain ⟨level, outer, phase⟩ := r
  obtain ⟨e, pos, hphase⟩ := Reader.run_phase_rest level outer phase
    (List.replicate outer.length ')')
  obtain ⟨level', e', hparens⟩ := Reader.run_parens level outer e pos
  refine ⟨level'.close e', ?_⟩
  rw [tokenize, Reader.rest, String.toList_ofList, hphase, hparens]
  rfl

/-! ## The tokens that a reader takes -/

/-- **What a reader has taken can be completed**, by the tokens of a text. -/
theorem completes_of_run {ts : List Token} {r : Reader} (h : Reader.start.run ts = .ok r) :
    Completes (tokenize r.rest) ts := by
  obtain ⟨e, he⟩ := r.finish_rest (endOf r.rest)
  refine ⟨e, (@run_finish_eq_ok_iff _ (endOf r.rest) _).mp ?_⟩
  rw [Reader.run_append, h]
  exact he

/-- **What can be completed is taken.** -/
theorem exists_run_of_completes {ts us : List Token} (h : Completes us ts) :
    ∃ r, Reader.start.run ts = .ok r := by
  obtain ⟨e, he⟩ := h
  have hrun := (@run_finish_eq_ok_iff _ (endOf "") _).mpr he
  rw [Reader.run_append] at hrun
  cases hts : Reader.start.run ts with
  | ok r => exact ⟨r, rfl⟩
  | error => rw [hts] at hrun; cases hrun

/-! ## The token that a reader refuses -/

/-- **A run that fails has taken the tokens in front of the one that it fails at.** -/
theorem Reader.run_eq_error {r : Reader} {ts : List Token} {error : ReadError}
    (h : r.run ts = .error error) : ∃ k t r', ts[k]? = some t ∧ r.run (ts.take k) = .ok r' ∧
      r'.step t = .error error ∧ r.run (ts.take (k + 1)) = .error error := by
  induction ts generalizing r with
  | nil => cases h
  | cons t ts ih =>
    rw [Reader.run_cons] at h
    cases hstep : r.step t with
    | error error' =>
      rw [hstep] at h
      cases h
      refine ⟨0, t, r, rfl, rfl, hstep, ?_⟩
      rw [List.take_succ_cons, Reader.run_cons, hstep]
      rfl
    | ok r₁ =>
      rw [hstep] at h
      obtain ⟨k, u, r', hk, htaken, hu, hfails⟩ := ih h
      refine ⟨k + 1, u, r', hk, ?_, hu, ?_⟩
      · rw [List.take_succ_cons, Reader.run_cons, hstep]
        exact htaken
      · rw [List.take_succ_cons, Reader.run_cons, hstep]
        exact hfails

/-- **An error is about a token** if it names it; about its value, only if the token is a literal
that denotes none. -/
structure ReadError.IsAbout (error : ReadError) (t : Token) : Prop where
  found : error.found = t
  value : error.cause = .value → t.kind.isLiteral = true ∧ t.literal? = none

theorem isAbout_of_comparison_eq_error {field : String} {op : Operator} {t : Token}
    {error : ReadError} (h : comparison field op t = .error error) : error.IsAbout t := by
  unfold comparison at h
  split at h
  · cases h
    exact ⟨rfl, by simp⟩
  rename_i hkind
  split at h
  · cases h
    exact ⟨rfl, by simp⟩
  split at h
  · rename_i hnone
    cases h
    exact ⟨rfl, fun _ => ⟨by simpa using hkind, hnone⟩⟩
  · cases h

/-- **A reader blames the token that it refuses.** -/
theorem Reader.isAbout_of_step_eq_error {r : Reader} {t : Token} {error : ReadError}
    (h : r.step t = .error error) : error.IsAbout t := by
  obtain ⟨level, outer, phase⟩ := r
  cases phase with
  | operand =>
    simp only [Reader.step] at h
    split at h <;> cases h
    exact ⟨rfl, by simp⟩
  | operator field =>
    simp only [Reader.step] at h
    split at h <;> cases h
    exact ⟨rfl, by simp⟩
  | literal field op =>
    simp only [Reader.step] at h
    cases hc : comparison field op t with
    | error error' =>
      rw [hc] at h
      cases h
      exact isAbout_of_comparison_eq_error hc
    | ok e => rw [hc] at h; cases h
  | connective e =>
    simp only [Reader.step] at h
    split at h
    · cases h
    cases outer with
    | nil =>
      cases h
      exact ⟨rfl, by simp⟩
    | cons =>
      simp only at h
      split at h <;> cases h
      exact ⟨rfl, by simp⟩

/-- What is missing at the end is missing at the end. -/
theorem Reader.isAbout_of_finish_eq_error {r : Reader} {eof : Token} {error : ReadError}
    (h : r.finish eof = .error error) : error.IsAbout eof := by
  obtain ⟨level, outer, phase⟩ := r
  cases phase with
  | operand | operator | literal =>
    cases h
    exact ⟨rfl, by simp⟩
  | connective e =>
    cases outer with
    | nil => cases h
    | cons =>
      cases h
      exact ⟨rfl, by simp⟩

/-- **A run fails at the first token that cannot be completed**, and blames it. -/
theorem first_fault_of_run {ts : List Token} {error : ReadError}
    (hkinds : ∀ t ∈ ts, t.kind ≠ .eof) (h : Reader.start.run ts = .error error) :
    ∃ k t, ts[k]? = some t ∧ error.span = some t.span ∧
      (∃ more, Completes (tokenize more) (ts.take k)) ∧ ∀ us, ¬ Completes us (ts.take (k + 1)) := by
  obtain ⟨k, t, r, hk, htaken, hstep, hfails⟩ := Reader.run_eq_error h
  have hkind : t.kind ≠ .eof := hkinds t (List.mem_of_getElem? hk)
  refine ⟨k, t, hk, ?_, ⟨r.rest, completes_of_run htaken⟩, fun us hus => ?_⟩
  · rw [ReadError.span, (Reader.isAbout_of_step_eq_error hstep).found, if_neg hkind]
  · obtain ⟨r', hr'⟩ := exists_run_of_completes hus
    cases hfails.symm.trans hr'

/-- A reader that misses a token at the end blames none. -/
theorem span_of_finish_eq_error {r : Reader} {s : String} {error : ReadError}
    (h : r.finish (endOf s) = .error error) : error.span = none := by
  rw [ReadError.span, (Reader.isAbout_of_finish_eq_error h).found]
  rfl

/-- **An error stands at the first token that no filter continues with.**  The tokens in front of
it are completed by the tokens of some text; together with it, they are completed by none.  An error
without a place blames no token: all of them are completed by the tokens of some text. -/
theorem error_stands_at_first_fault (s : String) (error : ReadError) (h : read s = .error error) :
    (∀ span, error.span = some span → ∃ k t, (tokenize s)[k]? = some t ∧ t.span = span ∧
        (∃ more, Completes (tokenize more) ((tokenize s).take k)) ∧
        ∀ us, ¬ Completes us ((tokenize s).take (k + 1))) ∧
      (error.span = none → ∃ more, Completes (tokenize more) (tokenize s)) := by
  cases hrun : Reader.start.run (tokenize s) with
  | error error' =>
    rw [read, hrun] at h
    cases h
    obtain ⟨k, t, hk, hspan, hfault⟩ :=
      first_fault_of_run (fun _ => kind_ne_eof_of_mem_tokenize) hrun
    refine ⟨fun span hs => ⟨k, t, hk, Option.some.inj (hspan.symm.trans hs), hfault⟩, fun hs => ?_⟩
    cases hspan.symm.trans hs
  | ok r =>
    rw [read, hrun] at h
    refine ⟨fun span hs => ?_, fun _ => ⟨r.rest, completes_of_run hrun⟩⟩
    cases (span_of_finish_eq_error h).symm.trans hs

/-- A misspelt connective is where the first text goes wrong; the second, with a parenthesis open,
only ends too early. -/
theorem error_stands_at_misspelt_connective :
    (∃ k t, (tokenize "first eq 'John' andd (age eq 2")[k]? = some t ∧ t.span = ⟨16, 20⟩ ∧
        (∃ more, Completes (tokenize more) ((tokenize "first eq 'John' andd (age eq 2").take k)) ∧
        ∀ us, ¬ Completes us ((tokenize "first eq 'John' andd (age eq 2").take (k + 1))) ∧
      ∃ more, Completes (tokenize more) (tokenize "first eq 'John' and (age") :=
  ⟨(error_stands_at_first_fault "first eq 'John' andd (age eq 2"
      ⟨.trailing, ⟨.ident, "andd", ⟨16, 20⟩⟩⟩ rfl).1 _ rfl,
    (error_stands_at_first_fault "first eq 'John' and (age"
      ⟨.operator "age", ⟨.eof, "", ⟨24, 24⟩⟩⟩ rfl).2 rfl⟩

end TableQuery.Filter
