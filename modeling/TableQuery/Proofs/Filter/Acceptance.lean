import TableQuery.Filter.Reading
import TableQuery.Proofs.Grammar

/-!
# Proofs/Filter/Acceptance — the reader accepts exactly the filters of the grammar

The reader of `Filter/Reading` takes one token at a time and keeps the operands that wait; the
grammar of `Proofs/Grammar` is a set of derivations.  Two facts tie them together:

* what a reader holds spells the tokens it has taken (`Reader.Spells.step`), so the filter it ends
  with is derived from all of them;
* a derivation drives the reader through its tokens (`Reads.of_derives`), whatever waits around it.
-/

namespace TableQuery.Filter

open Grammar TableQuery.Text

/-! ## The vocabulary of filters -/

/-- **The tokens of a comparison**: a property, an operator and a literal that denotes a value.
Only a text can be contained. -/
inductive Compares : List Token → Filter → Prop where
  | intro {name sign value : Token} {op : Operator} {v : Literal} :
      name.kind = .ident → sign.isKeyword op.keyword = true → value.kind.isLiteral = true →
      value.literal? = some v → (op = .contains → value.kind = .string) →
      Compares [name, sign, value] (.compare name.text op v value.text)

/-- The tokens of filters.  Connectives and operators are identifiers, in letters of either case, so
a property may have the name of a connective. -/
def vocabulary : Vocabulary Token Filter where
  opens t := t.kind = .leftParen
  closes t := t.kind = .rightParen
  joins op t := t.isKeyword op.keyword = true
  leaf := Compares
  join := .join

theorem isKeyword_iff {t : Token} {keyword : String} :
    t.isKeyword keyword = true ↔ t.kind = .ident ∧ eqIgnoreCase t.text keyword = true := by
  simp [Token.isKeyword]

theorem Operator.eq_of_lower_keyword {op op' : Operator}
    (h : op.keyword.toList.map Char.toLower = op'.keyword.toList.map Char.toLower) : op = op' := by
  revert h
  cases op <;> cases op' <;> decide

/-- A search finds what it is asked for, if nothing else answers. -/
theorem find?_eq_some_iff_of_unique {β : Type} {p : β → Bool} {l : List β} {b : β} (hb : b ∈ l)
    (hunique : ∀ c, p c = true → p b = true → c = b) : l.find? p = some b ↔ p b = true := by
  refine ⟨List.find?_some, fun h => ?_⟩
  obtain ⟨c, hc⟩ := Option.isSome_iff_exists.mp (List.find?_isSome.mpr ⟨b, hb, h⟩)
  rw [hc, hunique c (List.find?_some hc) h]

theorem operator?_eq_some_iff {t : Token} {op : Operator} :
    operator? t = some op ↔ t.isKeyword op.keyword = true := by
  have hmem : op ∈ Operator.all := by cases op <;> decide
  rw [isKeyword_iff, operator?]
  split <;> rename_i h
  · rw [Operator.ofKeyword?, find?_eq_some_iff_of_unique hmem fun _ hc hb =>
      Operator.eq_of_lower_keyword (lower_eq_of_eqIgnoreCase hc hb)]
    simp [h]
  · simp [h]

theorem connective?_eq_some_iff {t : Token} {op : Connective} :
    connective? t = some op ↔ t.isKeyword op.keyword = true := by
  have hmem : op ∈ [Connective.and, Connective.or] := by cases op <;> decide
  rw [isKeyword_iff, connective?]
  split <;> rename_i h
  · rw [Connective.ofKeyword?, find?_eq_some_iff_of_unique hmem fun _ => connective_unique]
    simp [h]
  · simp [h]

/-- Parentheses and words are told apart by their kinds, and comparisons have three tokens. -/
theorem vocabulary_separated : vocabulary.Separated where
  joins_unique h h' := connective_unique (isKeyword_iff.mp h).2 (isKeyword_iff.mp h').2
  not_closes h hc := by
    have hkind : _ = Token.Kind.rightParen := hc
    rw [(isKeyword_iff.mp h).1] at hkind
    cases hkind
  leaf_ne_nil h := by cases h; simp
  not_opens h ho := by
    have hkind : _ = Token.Kind.leftParen := ho
    cases h with
    | intro hname => rw [hname] at hkind; cases hkind
  leaf_unique h h' heq _ _ := by
    cases h with
    | @intro _ _ _ op v _ hop _ hv _ =>
      cases h' with
      | @intro _ _ _ op' v' _ hop' _ hv' _ =>
        simp only [List.cons_append, List.nil_append, List.cons.injEq] at heq
        obtain ⟨rfl, rfl, rfl, -⟩ := heq
        obtain rfl : op = op' := Option.some.inj
          ((operator?_eq_some_iff.mpr hop).symm.trans (operator?_eq_some_iff.mpr hop'))
        obtain rfl : v = v' := Option.some.inj (hv.symm.trans hv')
        exact ⟨rfl, rfl⟩

/-- A literal completes exactly the comparisons of the grammar. -/
theorem comparison_eq_ok_iff {field : String} {op : Operator} {t : Token} {e : Filter} :
    comparison field op t = .ok e ↔ t.kind.isLiteral = true ∧
      (op = .contains → t.kind = .string) ∧
      ∃ v, t.literal? = some v ∧ e = .compare field op v t.text := by
  unfold comparison
  split <;> rename_i hkind
  · simp_all
  split <;> rename_i hcontains
  · simp_all
  split
  · rename_i hv
    simp [hv]
  · rename_i v hv
    constructor
    · exact fun h => ⟨by simpa using hkind, by simpa using hcontains, v, hv, (Except.ok.inj h).symm⟩
    · rintro ⟨-, -, v', hv', rfl⟩
      rw [Option.some.inj (hv.symm.trans hv')]

/-! ## What a reader holds

A level is a conjunction that waits for a term inside a disjunction that waits for that conjunction:
it **spells** tokens if every operand makes of them what the level makes of that operand. -/

/-- The tokens whose operands wait in a level. -/
def Level.Spells (level : Level) (ts : List Token) : Prop :=
  ∃ as fs, ts = as ++ fs ∧
    (∀ {us e}, Derives vocabulary .conjunction us e →
      Derives vocabulary .disjunction (as ++ us) (joinLeft .or level.alternatives e)) ∧
    ∀ {us e}, Derives vocabulary .term us e →
      Derives vocabulary .conjunction (fs ++ us) (level.withFactor e)

theorem Level.spells_empty : Level.empty.Spells [] :=
  ⟨[], [], rfl, fun h => .conjunction h, fun h => .term h⟩

/-- **A level closed behind a term is a disjunction.** -/
theorem Level.Spells.close {level : Level} {ts us : List Token} {e : Filter} (h : level.Spells ts)
    (he : Derives vocabulary .term us e) :
    Derives vocabulary .disjunction (ts ++ us) (level.close e) := by
  obtain ⟨as, fs, rfl, hor, hand⟩ := h
  rw [List.append_assoc]
  exact hor (hand he)

/-- **A connective behind a term leaves a level that spells all of it.** -/
theorem Level.Spells.join {level : Level} {ts us : List Token} {t : Token} {e : Filter}
    {op : Connective} (h : level.Spells ts) (he : Derives vocabulary .term us e)
    (ht : t.isKeyword op.keyword = true) : (level.join op e).Spells (ts ++ us ++ [t]) := by
  cases op with
  | and =>
    obtain ⟨as, fs, rfl, hor, hand⟩ := h
    refine ⟨as, fs ++ us ++ [t], by simp, hor, fun hb => ?_⟩
    rw [List.append_assoc, List.singleton_append]
    exact Derives.and (hand he) ht hb
  | or =>
    refine ⟨ts ++ us ++ [t], [], by simp, fun hb => ?_, fun hb => .term hb⟩
    rw [List.append_assoc, List.singleton_append]
    exact Derives.or (h.close he) ht hb

/-- The tokens of the levels around a parenthesis, innermost level first. -/
inductive Enclosing : List Level → List Token → Prop where
  | nil : Enclosing [] []
  | cons {outer : List Level} {level : Level} {ts us : List Token} {o : Token} :
      Enclosing outer ts → level.Spells us → o.kind = .leftParen →
      Enclosing (level :: outer) (ts ++ us ++ [o])

/-- The tokens of the operand that is being read. -/
inductive Phase.Spells : Phase → List Token → Prop where
  | operand : Spells .operand []
  | operator {name : Token} : name.kind = .ident → Spells (.operator name.text) [name]
  | literal {name sign : Token} {op : Operator} :
      name.kind = .ident → sign.isKeyword op.keyword = true →
      Spells (.literal name.text op) [name, sign]
  | connective {ts : List Token} {e : Filter} :
      Derives vocabulary .term ts e → Spells (.connective e) ts

/-- **The tokens that a reader has taken.** -/
def Reader.Spells (r : Reader) (ts : List Token) : Prop :=
  ∃ us vs ws, ts = us ++ vs ++ ws ∧ Enclosing r.outer us ∧ r.level.Spells vs ∧ r.phase.Spells ws

theorem Reader.spells_start : Reader.start.Spells [] :=
  ⟨[], [], [], rfl, .nil, Level.spells_empty, .operand⟩

/-- **A token taken is a token spelled.** -/
theorem Reader.Spells.step {r r' : Reader} {ts : List Token} {t : Token} (h : r.Spells ts)
    (hs : r.step t = .ok r') : r'.Spells (ts ++ [t]) := by
  obtain ⟨level, outer, phase⟩ := r
  obtain ⟨us, vs, ws, rfl, houter, hlevel, hphase⟩ := h
  simp only at houter hlevel hphase
  cases hphase with
  | operand =>
    simp only [Reader.step] at hs
    split at hs <;> cases hs <;> rename_i hkind
    · exact ⟨us ++ vs ++ [t], [], [], by simp, .cons houter hlevel hkind, Level.spells_empty,
        .operand⟩
    · exact ⟨us, vs, [t], by simp, houter, hlevel, .operator hkind⟩
  | @operator name hname =>
    simp only [Reader.step] at hs
    split at hs <;> cases hs
    rename_i op hop
    exact ⟨us, vs, [name, t], by simp, houter, hlevel,
      .literal hname (operator?_eq_some_iff.mp hop)⟩
  | @literal name sign op hname hop =>
    simp only [Reader.step] at hs
    cases hc : comparison name.text op t with
    | error => rw [hc] at hs; cases hs
    | ok e =>
      rw [hc] at hs
      cases hs
      obtain ⟨hkind, hcontains, v, hv, rfl⟩ := comparison_eq_ok_iff.mp hc
      exact ⟨us, vs, [name, sign, t], by simp, houter, hlevel,
        .connective (.leaf (.intro hname hop hkind hv hcontains))⟩
  | connective he =>
    simp only [Reader.step] at hs
    split at hs
    · cases hs
      rename_i op hop
      exact ⟨us, vs ++ ws ++ [t], [], by simp, houter,
        hlevel.join he (connective?_eq_some_iff.mp hop), .operand⟩
    · cases houter with
      | nil => cases hs
      | @cons outer level' us' vs' o houter hlevel' ho =>
        simp only at hs
        split at hs <;> cases hs
        rename_i hkind
        exact ⟨us', vs', o :: (vs ++ ws) ++ [t], by simp, houter, hlevel',
          .connective (.group ho (hlevel.close he) hkind)⟩

theorem Reader.run_cons (r : Reader) (t : Token) (ts : List Token) :
    r.run (t :: ts) = r.step t >>= fun r => r.run ts := List.foldlM_cons

theorem Reader.run_append (r : Reader) (ts us : List Token) :
    r.run (ts ++ us) = r.run ts >>= fun r => r.run us := List.foldlM_append

theorem Reader.Spells.run {r r' : Reader} {ts us : List Token} (h : r.Spells ts)
    (hr : r.run us = .ok r') : r'.Spells (ts ++ us) := by
  induction us generalizing r ts with
  | nil =>
    cases hr
    simpa using h
  | cons t us ih =>
    rw [Reader.run_cons] at hr
    cases hstep : r.step t with
    | error => rw [hstep] at hr; cases hr
    | ok r₁ =>
      rw [hstep] at hr
      simpa using ih (h.step hstep) hr

/-- **A filter that has been read is derived from all tokens.** -/
theorem Reader.Spells.finish {r : Reader} {ts : List Token} {eof : Token} {e : Filter}
    (h : r.Spells ts) (hf : r.finish eof = .ok e) : Derives vocabulary .disjunction ts e := by
  obtain ⟨level, outer, phase⟩ := r
  obtain ⟨us, vs, ws, rfl, houter, hlevel, hphase⟩ := h
  simp only at houter hlevel hphase
  cases hphase with
  | operand | operator | literal => cases hf
  | connective he =>
    cases houter with
    | nil =>
      cases hf
      exact hlevel.close he
    | cons => cases hf

/-! ## Derivations drive the reader -/

/-- **What the reader makes of the tokens of a symbol**, wherever it meets them: a term becomes the
last operand; a conjunction becomes the factors of its level and the last operand; a disjunction
becomes all that its level holds. -/
def Reads : Symbol → List Token → Filter → Prop
  | .term, ts, e => ∀ level outer,
      Reader.run ⟨level, outer, .operand⟩ ts = .ok ⟨level, outer, .connective e⟩
  | .conjunction, ts, e => ∀ alternatives outer, ∃ factors x,
      Reader.run ⟨⟨alternatives, none⟩, outer, .operand⟩ ts
        = .ok ⟨⟨alternatives, factors⟩, outer, .connective x⟩ ∧ joinLeft .and factors x = e
  | .disjunction, ts, e => ∀ outer, ∃ level x,
      Reader.run ⟨.empty, outer, .operand⟩ ts = .ok ⟨level, outer, .connective x⟩ ∧
        level.close x = e

theorem Reads.of_compares {ts : List Token} {e : Filter} (h : Compares ts e) :
    Reads .term ts e := by
  intro level outer
  cases h with
  | @intro name sign value op v hname hop hkind hv hcontains =>
    have hvalue : comparison name.text op value = .ok (.compare name.text op v value.text) :=
      comparison_eq_ok_iff.mpr ⟨hkind, hcontains, v, hv, rfl⟩
    simp only [Reader.run_cons, Reader.step, hname, operator?_eq_some_iff.mpr hop]
    change (comparison name.text op value >>= _) >>= _ = _
    rw [hvalue]
    rfl

/-- Behind an operand, a connective opens the next one. -/
theorem Reader.run_connective {r : Reader} {level : Level} {outer : List Level}
    {ts us : List Token} {t : Token} {e : Filter} {op : Connective}
    (hrun : r.run ts = .ok ⟨level, outer, .connective e⟩) (ht : t.isKeyword op.keyword = true) :
    r.run (ts ++ t :: us) = Reader.run ⟨level.join op e, outer, .operand⟩ us := by
  have hstep : Reader.step ⟨level, outer, .connective e⟩ t =
      .ok ⟨level.join op e, outer, .operand⟩ := by
    simp [Reader.step, connective?_eq_some_iff.mpr ht]
  rw [Reader.run_append, hrun]
  change Reader.run _ _ = _
  rw [Reader.run_cons, hstep]
  rfl

/-- A parenthesis that closes a level. -/
theorem Reader.step_close {level level' : Level} {outer : List Level} {t : Token} {e : Filter}
    (h : t.kind = .rightParen) :
    Reader.step ⟨level, level' :: outer, .connective e⟩ t
      = .ok ⟨level', outer, .connective (level.close e)⟩ := by
  simp [Reader.step, connective?, h]

/-- **A derivation drives the reader through its tokens.** -/
theorem Reads.of_derives {s : Symbol} {ts : List Token} {e : Filter}
    (h : Derives vocabulary s ts e) : Reads s ts e := by
  induction h with
  | conjunction _ ih =>
    intro outer
    obtain ⟨factors, x, hrun, rfl⟩ := ih none outer
    exact ⟨⟨none, factors⟩, x, hrun, rfl⟩
  | or _ ht _ ihl ihr =>
    intro outer
    obtain ⟨level, x, hrun, rfl⟩ := ihl outer
    obtain ⟨factors, y, hrun', rfl⟩ := ihr (some (level.close x)) outer
    refine ⟨⟨some (level.close x), factors⟩, y, ?_, rfl⟩
    rw [Reader.run_connective hrun ht]
    exact hrun'
  | term _ ih => exact fun alternatives outer => ⟨none, _, ih ⟨alternatives, none⟩ outer, rfl⟩
  | and _ ht _ ihl ihr =>
    intro alternatives outer
    obtain ⟨factors, x, hrun, rfl⟩ := ihl alternatives outer
    refine ⟨some (joinLeft .and factors x), _, ?_, rfl⟩
    rw [Reader.run_connective hrun ht]
    exact ihr _ outer
  | @group ts o c _ ho _ hc ih =>
    intro level outer
    obtain ⟨inner, x, hrun, rfl⟩ := ih (level :: outer)
    have hopen : Reader.step ⟨level, outer, .operand⟩ o =
        .ok ⟨.empty, level :: outer, .operand⟩ := by
      have hkind : o.kind = .leftParen := ho
      simp [Reader.step, hkind]
    rw [List.cons_append, Reader.run_cons, hopen]
    change Reader.run _ (ts ++ [c]) = _
    rw [Reader.run_append, hrun]
    change Reader.run _ [c] = _
    rw [Reader.run_cons, Reader.step_close hc]
    rfl
  | leaf h => exact Reads.of_compares h

/-- **Reading all tokens gives a filter exactly if they derive it.** -/
theorem run_finish_eq_ok_iff {ts : List Token} {eof : Token} {e : Filter} :
    (Reader.start.run ts >>= fun r => r.finish eof) = .ok e ↔
      Derives vocabulary .disjunction ts e := by
  constructor
  · intro h
    cases hrun : Reader.start.run ts with
    | error => rw [hrun] at h; cases h
    | ok r =>
      rw [hrun] at h
      exact (Reader.spells_start.run hrun).finish h
  · intro h
    obtain ⟨level, x, hrun, rfl⟩ := Reads.of_derives h []
    rw [Reader.start, hrun]
    rfl

/-- **The reader accepts exactly the grammar, and builds the one tree of it.**  A text is read as a
filter if and only if its tokens, all of them, derive that filter; and no list of tokens derives
two. -/
theorem read_eq_ok_iff_derives (s : String) :
    (∀ e, read s = .ok e ↔ Derives vocabulary .disjunction (Token.tokenize s) e) ∧
      ∀ ts e e', Derives vocabulary .disjunction ts e → Derives vocabulary .disjunction ts e' →
        e = e' :=
  ⟨fun _ => run_finish_eq_ok_iff, fun _ _ _ => Derives.unique vocabulary_separated⟩

/-- Properties may have the names of connectives and operators; and there is no second tree, in
which the *or* in front would bind tighter. -/
theorem read_properties_named_as_keywords :
    Derives vocabulary .disjunction
        (Token.tokenize "and EQ 1 or (or eq 'x' OR eq lt 2) And eq gt 3")
        (.join .or (.compare "and" .eq (.integer 1) "1")
          (.join .and (.join .or (.compare "or" .eq (.text "x") "x")
            (.compare "eq" .lt (.integer 2) "2")) (.compare "eq" .gt (.integer 3) "3"))) ∧
      ¬ Derives vocabulary .disjunction
        (Token.tokenize "and EQ 1 or (or eq 'x' OR eq lt 2) And eq gt 3")
        (.join .and (.join .or (.compare "and" .eq (.integer 1) "1")
          (.join .or (.compare "or" .eq (.text "x") "x") (.compare "eq" .lt (.integer 2) "2")))
          (.compare "eq" .gt (.integer 3) "3")) := by
  have hgrammar := read_eq_ok_iff_derives "and EQ 1 or (or eq 'x' OR eq lt 2) And eq gt 3"
  have hread := (hgrammar.1 _).mp rfl
  refine ⟨hread, fun h => ?_⟩
  cases hgrammar.2 _ _ _ hread h

end TableQuery.Filter
