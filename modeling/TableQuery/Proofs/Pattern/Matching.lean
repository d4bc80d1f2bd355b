import TableQuery.Pattern

/-!
# Proofs/Pattern/Matching — the walk decides whether a pattern matches

`Matches` says without any walk which texts a pattern matches.  A walk may still **succeed** in two
ways: what is left of the pattern matches what is left of the text, or the last `%` takes more than
it has taken.  No step changes whether the walk succeeds (`Walk.Valid.step`): when a `%` is reached
the one before it can be forgotten, since what stands between was taken at the earliest place.
-/

namespace TableQuery.Pattern

/-- **Whether a pattern matches a text.**  A `%` takes any run of characters, so what is behind it
matches some end of the text. -/
def Matches : List Token → List Char → Prop
  | [], cs => cs = []
  | .char d :: ps, cs => ∃ rest, cs = d :: rest ∧ Matches ps rest
  | .one :: ps, cs => ∃ c rest, cs = c :: rest ∧ Matches ps rest
  | .any :: ps, cs => ∃ rest, rest <:+ cs ∧ Matches ps rest

/-- All parts but `%` take one character. -/
theorem matches_cons {token : Token} (h : token ≠ .any) (ps : List Token) (cs : List Char) :
    Matches (token :: ps) cs ↔
      ∃ c rest, cs = c :: rest ∧ token.takes c = true ∧ Matches ps rest := by
  cases token with
  | char d =>
    constructor
    · rintro ⟨rest, rfl, hrest⟩
      exact ⟨d, rest, rfl, by simp [Token.takes], hrest⟩
    · rintro ⟨c, rest, rfl, htakes, hrest⟩
      obtain rfl : d = c := by simpa [Token.takes] using htakes
      exact ⟨rest, rfl, hrest⟩
  | one => simp [Matches, Token.takes]
  | any => exact absurd rfl h

/-- A `%` takes what stands in front as well. -/
theorem Matches.any_of_suffix {ps : List Token} {cs ds : List Char} (h : Matches (.any :: ps) cs)
    (hs : cs <:+ ds) : Matches (.any :: ps) ds := by
  obtain ⟨rest, hrest, hps⟩ := h
  exact ⟨rest, hrest.trans hs, hps⟩

/-- Parts without `%` take as many characters as they are. -/
theorem Matches.drop {ps : List Token} : ∀ {segment : List Token} {cs : List Char},
    (∀ token ∈ segment, token ≠ .any) → Matches (segment ++ ps) cs →
      segment.length ≤ cs.length ∧ Matches ps (cs.drop segment.length)
  | [], _, _, h => ⟨Nat.zero_le _, h⟩
  | token :: segment, cs, hany, h => by
    obtain ⟨c, rest, rfl, -, hrest⟩ := (matches_cons (hany token (by simp)) _ cs).mp h
    have := hrest.drop fun t ht => hany t (List.mem_cons_of_mem _ ht)
    simpa using this

/-- A pattern matches no text at all exactly if it holds nothing but `%`. -/
theorem matches_nil_iff (ps : List Token) : Matches ps [] ↔ ps.all (· == .any) = true := by
  induction ps with
  | nil => simp [Matches]
  | cons token ps ih => cases token <;> simp [Matches, ih]

/-! ## Places in text and pattern -/

section Walk

variable {text : Array Char} {pattern : Array Token}

/-- Whether the pattern from `p` on matches the text from `t` on. -/
def MatchesFrom (text : Array Char) (pattern : Array Token) (p t : Nat) : Prop :=
  Matches (pattern.toList.drop p) (text.toList.drop t)

theorem drop_eq_cons {β : Type} {xs : Array β} {i : Nat} {x : β} (h : xs[i]? = some x) :
    xs.toList.drop i = x :: xs.toList.drop (i + 1) := by
  obtain ⟨hi, rfl⟩ := Array.getElem?_eq_some_iff.mp h
  rw [List.drop_eq_getElem_cons (by simpa using hi), Array.getElem_toList]

theorem matchesFrom_takes {p t : Nat} {token : Token} {c : Char} (hp : pattern[p]? = some token)
    (hany : token ≠ .any) (ht : text[t]? = some c) :
    MatchesFrom text pattern p t ↔
      token.takes c = true ∧ MatchesFrom text pattern (p + 1) (t + 1) := by
  rw [MatchesFrom, drop_eq_cons hp, drop_eq_cons ht, matches_cons hany]
  constructor
  · rintro ⟨c', rest, h, htakes, hrest⟩
    obtain ⟨rfl, rfl⟩ := List.cons.inj h
    exact ⟨htakes, hrest⟩
  · rintro ⟨htakes, hrest⟩
    exact ⟨c, _, rfl, htakes, hrest⟩

theorem matchesFrom_any {p t : Nat} (hp : pattern[p]? = some .any) (ht : t ≤ text.size) :
    MatchesFrom text pattern p t ↔
      ∃ t', t ≤ t' ∧ t' ≤ text.size ∧ MatchesFrom text pattern (p + 1) t' := by
  rw [MatchesFrom, drop_eq_cons hp]
  constructor
  · rintro ⟨rest, hsuffix, hrest⟩
    have hlen : rest.length ≤ text.size - t := by simpa using hsuffix.length_le
    have heq : rest = text.toList.drop (text.size - rest.length) :=
      List.suffix_iff_eq_drop.mp (hsuffix.trans (List.drop_suffix _ _))
    rw [heq] at hrest
    exact ⟨text.size - rest.length, by omega, Nat.sub_le _ _, hrest⟩
  · rintro ⟨t', htt', -, hrest⟩
    exact ⟨_, List.drop_suffix_drop_left _ htt', hrest⟩

theorem not_matchesFrom_end {p t : Nat} {c : Char} (hp : pattern[p]? = none)
    (ht : text[t]? = some c) : ¬ MatchesFrom text pattern p t := by
  have hsize : pattern.toList.length ≤ p := by simpa using hp
  rw [MatchesFrom, List.drop_eq_nil_of_le hsize, drop_eq_cons ht]
  simp [Matches]

/-! ## Walks -/

/-- The place a walk returns to: a `%` behind which every part has taken one character. -/
structure Walk.Returns (pattern : Array Token) (w : Walk) (p t : Nat) : Prop where
  isAny : pattern[p]? = some .any
  pattern_lt : p < w.pattern
  text_le : t ≤ w.text
  taken : w.text - t = w.pattern - (p + 1)
  between : ∀ i, p < i → i < w.pattern → pattern[i]? ≠ some .any

/-- A walk stays inside text and pattern, and so does the place it returns to. -/
structure Walk.Valid (text : Array Char) (pattern : Array Token) (w : Walk) : Prop where
  text_le : w.text ≤ text.size
  pattern_le : w.pattern ≤ pattern.size
  returns : ∀ {p t}, w.back = some (p, t) → w.Returns pattern p t

/-- **Whether a walk succeeds**: where it stands, or after its last `%` has taken more. -/
def Walk.Succeeds (text : Array Char) (pattern : Array Token) (w : Walk) : Prop :=
  MatchesFrom text pattern w.pattern w.text ∨
    ∃ p t, w.back = some (p, t) ∧
      ∃ t', t < t' ∧ t' ≤ text.size ∧ MatchesFrom text pattern (p + 1) t'

/-- What is left of the steps: retreats by the place of the last `%`, other steps by the places in
text and pattern. -/
def Walk.rank (text : Array Char) (pattern : Array Token) (w : Walk) : Nat :=
  (text.size - w.back.elim 0 Prod.snd) * (text.size + pattern.size + 1) +
    (text.size + pattern.size - (w.text + w.pattern))

/-- **All that a step can do**: a `%` is remembered, a part takes a character, or the walk cannot
succeed where it stands and retreats. -/
theorem Walk.step_cases (pattern : Array Token) {w : Walk} {c : Char}
    (hc : text[w.text]? = some c) :
    (pattern[w.pattern]? = some .any ∧
      w.step pattern c = some ⟨w.text, w.pattern + 1, some (w.pattern, w.text)⟩) ∨
    (∃ token, pattern[w.pattern]? = some token ∧ token ≠ .any ∧ token.takes c = true ∧
      w.step pattern c = some ⟨w.text + 1, w.pattern + 1, w.back⟩) ∨
    (¬ MatchesFrom text pattern w.pattern w.text ∧ w.step pattern c = w.retreat) := by
  cases hp : pattern[w.pattern]? with
  | none => exact Or.inr (Or.inr ⟨not_matchesFrom_end hp hc, by simp [Walk.step, hp]⟩)
  | some token =>
    by_cases hany : token = .any
    · subst hany
      exact Or.inl ⟨rfl, by simp [Walk.step, hp]⟩
    · have hstep : w.step pattern c =
          if token.takes c then some ⟨w.text + 1, w.pattern + 1, w.back⟩ else w.retreat := by
        cases token <;> simp_all [Walk.step]
      refine Or.inr ?_
      by_cases htakes : token.takes c = true
      · exact Or.inl ⟨token, rfl, hany, htakes, by rw [hstep, if_pos htakes]⟩
      · refine Or.inr ⟨fun h => htakes ((matchesFrom_takes hp hany hc).mp h).1, ?_⟩
        rw [hstep, if_neg htakes]

/-- If the last `%` takes more, the walk comes to the same part of the pattern further on. -/
theorem Walk.Returns.matchesFrom {w : Walk} {p t t' : Nat} (h : w.Returns pattern p t)
    (hw : w.pattern ≤ pattern.size) (ht : t' ≤ text.size)
    (hm : MatchesFrom text pattern (p + 1) t') :
    t' + (w.text - t) ≤ text.size ∧ MatchesFrom text pattern w.pattern (t' + (w.text - t)) := by
  obtain ⟨k, hk⟩ := Nat.exists_eq_add_of_lt h.pattern_lt
  have hsplit : pattern.toList.drop (p + 1)
      = (pattern.toList.drop (p + 1)).take k ++ pattern.toList.drop w.pattern := by
    have hwhole := (List.take_append_drop k (pattern.toList.drop (p + 1))).symm
    rwa [List.drop_drop, show p + 1 + k = w.pattern by omega] at hwhole
  have hany : ∀ token ∈ (pattern.toList.drop (p + 1)).take k, token ≠ .any := by
    intro token htoken
    obtain ⟨i, hi, rfl⟩ := List.getElem_of_mem htoken
    simp only [List.length_take, List.length_drop, Array.length_toList] at hi
    intro heq
    refine h.between (p + 1 + i) (by omega) (by omega) ?_
    rw [Array.getElem?_eq_some_iff]
    exact ⟨by omega, by simpa using heq⟩
  have hlen : ((pattern.toList.drop (p + 1)).take k).length = w.text - t := by
    rw [h.taken]
    simp only [List.length_take, List.length_drop, Array.length_toList]
    omega
  rw [MatchesFrom, hsplit] at hm
  have hdrop := hm.drop hany
  rw [hlen, List.drop_drop] at hdrop
  simp only [List.length_drop, Array.length_toList] at hdrop
  exact ⟨by omega, hdrop.2⟩

/-- **At a `%` the one before can be forgotten.** -/
theorem Walk.Valid.succeeds_at_any {w : Walk} (h : w.Valid text pattern)
    (hp : pattern[w.pattern]? = some .any) :
    w.Succeeds text pattern ↔ MatchesFrom text pattern w.pattern w.text := by
  refine ⟨?_, Or.inl⟩
  rintro (hm | ⟨p, t, hback, t', htt', ht', hm⟩)
  · exact hm
  · obtain ⟨-, hm⟩ := (h.returns hback).matchesFrom h.pattern_le ht' hm
    have hle := (h.returns hback).text_le
    rw [MatchesFrom, drop_eq_cons hp] at hm ⊢
    exact hm.any_of_suffix (List.drop_suffix_drop_left _ (by omega))

/-- **At the end of the text nothing more can be taken.** -/
theorem Walk.Valid.succeeds_at_end {w : Walk} (h : w.Valid text pattern)
    (ht : text[w.text]? = none) :
    w.Succeeds text pattern ↔ restIsAny pattern w.pattern = true := by
  have hsize : text.toList.length ≤ w.text := by simpa using ht
  have hhere : MatchesFrom text pattern w.pattern w.text ↔ restIsAny pattern w.pattern = true := by
    rw [MatchesFrom, List.drop_eq_nil_of_le hsize, matches_nil_iff, restIsAny]
  rw [← hhere]
  refine ⟨?_, Or.inl⟩
  rintro (hm | ⟨p, t, hback, t', htt', ht', hm⟩)
  · exact hm
  · have := (h.returns hback).matchesFrom h.pattern_le ht' hm
    have hle := (h.returns hback).text_le
    simp only [Array.length_toList] at hsize
    omega

/-! ## One step -/

/-- A walk that has just passed a `%` stays inside. -/
theorem Walk.valid_behind_any {p t : Nat} (hp : pattern[p]? = some .any) (ht : t ≤ text.size) :
    Walk.Valid text pattern ⟨t, p + 1, some (p, t)⟩ := by
  obtain ⟨hsize, -⟩ := Array.getElem?_eq_some_iff.mp hp
  refine ⟨ht, hsize, ?_⟩
  rintro p' t' hback
  obtain ⟨rfl, rfl⟩ : p = p' ∧ t = t' := by simpa using hback
  exact ⟨hp, by simp, Nat.le_refl _, by simp, fun i hi hi' => by simp at hi'; omega⟩

/-- A walk that has just passed a `%` succeeds exactly if what is behind it matches further on. -/
theorem Walk.succeeds_behind_any {p t : Nat} (ht : t ≤ text.size) :
    Walk.Succeeds text pattern ⟨t, p + 1, some (p, t)⟩ ↔
      ∃ t', t ≤ t' ∧ t' ≤ text.size ∧ MatchesFrom text pattern (p + 1) t' := by
  constructor
  · rintro (hm | ⟨p', t', hback, t'', htt', ht', hm⟩)
    · exact ⟨t, Nat.le_refl _, ht, hm⟩
    · obtain ⟨rfl, rfl⟩ : p = p' ∧ t = t' := by simpa using hback
      exact ⟨t'', by omega, ht', hm⟩
  · rintro ⟨t', htt', ht', hm⟩
    rcases Nat.eq_or_lt_of_le htt' with rfl | hlt
    · exact Or.inl hm
    · exact Or.inr ⟨_, _, rfl, t', hlt, ht', hm⟩

theorem Walk.Valid.remember {w : Walk} {c : Char} (h : w.Valid text pattern)
    (hc : text[w.text]? = some c) (hp : pattern[w.pattern]? = some .any) :
    Walk.Valid text pattern ⟨w.text, w.pattern + 1, some (w.pattern, w.text)⟩ ∧
      (Walk.Succeeds text pattern ⟨w.text, w.pattern + 1, some (w.pattern, w.text)⟩ ↔
        w.Succeeds text pattern) ∧
      Walk.rank text pattern ⟨w.text, w.pattern + 1, some (w.pattern, w.text)⟩
        < w.rank text pattern := by
  obtain ⟨hpattern, -⟩ := Array.getElem?_eq_some_iff.mp hp
  obtain ⟨htext, -⟩ := Array.getElem?_eq_some_iff.mp hc
  refine ⟨Walk.valid_behind_any hp h.text_le, ?_, ?_⟩
  · rw [h.succeeds_at_any hp, matchesFrom_any hp h.text_le, Walk.succeeds_behind_any h.text_le]
  · have hback : w.back.elim 0 Prod.snd ≤ w.text := by
      cases hb : w.back with
      | none => simp
      | some b => exact (h.returns (p := b.1) (t := b.2) hb).text_le
    have hmul : (text.size - w.text) * (text.size + pattern.size + 1)
        ≤ (text.size - w.back.elim 0 Prod.snd) * (text.size + pattern.size + 1) :=
      Nat.mul_le_mul_right _ (by omega)
    simp only [Walk.rank, Option.elim_some]
    omega

theorem Walk.Valid.take {w : Walk} {c : Char} {token : Token} (h : w.Valid text pattern)
    (hc : text[w.text]? = some c) (hp : pattern[w.pattern]? = some token) (hany : token ≠ .any)
    (htakes : token.takes c = true) :
    Walk.Valid text pattern ⟨w.text + 1, w.pattern + 1, w.back⟩ ∧
      (Walk.Succeeds text pattern ⟨w.text + 1, w.pattern + 1, w.back⟩ ↔
        w.Succeeds text pattern) ∧
      Walk.rank text pattern ⟨w.text + 1, w.pattern + 1, w.back⟩ < w.rank text pattern := by
  obtain ⟨hpattern, -⟩ := Array.getElem?_eq_some_iff.mp hp
  obtain ⟨htext, -⟩ := Array.getElem?_eq_some_iff.mp hc
  refine ⟨⟨htext, hpattern, fun {p t} hback => ?_⟩, ?_, ?_⟩
  · obtain ⟨hisAny, hlt, hle, htaken, hbetween⟩ := h.returns hback
    refine ⟨hisAny, Nat.lt_succ_of_lt hlt, Nat.le_succ_of_le hle, ?_, fun i hi hi' => ?_⟩
    · simp only
      omega
    · rcases Nat.eq_or_lt_of_le (Nat.le_of_lt_succ hi') with rfl | hlt
      · rw [hp]
        simpa using hany
      · exact hbetween i hi hlt
  · simp only [Walk.Succeeds, matchesFrom_takes hp hany hc, htakes, true_and]
  · simp only [Walk.rank]
    omega

theorem Walk.Valid.retreat {w w' : Walk} {c : Char} (h : w.Valid text pattern)
    (hc : text[w.text]? = some c) (hm : ¬ MatchesFrom text pattern w.pattern w.text)
    (hr : w.retreat = some w') :
    w'.Valid text pattern ∧ (w'.Succeeds text pattern ↔ w.Succeeds text pattern) ∧
      w'.rank text pattern < w.rank text pattern := by
  obtain ⟨⟨p, t⟩, hback, rfl⟩ := Option.map_eq_some_iff.mp hr
  obtain ⟨htext, -⟩ := Array.getElem?_eq_some_iff.mp hc
  obtain ⟨hisAny, hlt, hle, -, -⟩ := h.returns hback
  have hwp := h.pattern_le
  refine ⟨Walk.valid_behind_any hisAny (by omega), ?_, ?_⟩
  · rw [Walk.succeeds_behind_any (by omega)]
    constructor
    · rintro ⟨t', htt', ht', hm'⟩
      exact Or.inr ⟨p, t, hback, t', htt', ht', hm'⟩
    · rintro (hm' | ⟨p', t', hback', t'', htt, htt', hm'⟩)
      · exact absurd hm' hm
      · obtain ⟨rfl, rfl⟩ : p = p' ∧ t = t' := by
          simpa using Option.some.inj (hback.symm.trans hback')
        exact ⟨t'', htt, htt', hm'⟩
  · have hmul : (text.size - t) * (text.size + pattern.size + 1)
        = (text.size - (t + 1)) * (text.size + pattern.size + 1)
          + (text.size + pattern.size + 1) := by
      rw [show text.size - t = text.size - (t + 1) + 1 by omega, Nat.succ_mul]
    simp only [Walk.rank, hback, Option.elim_some]
    omega

/-- **A step keeps a walk inside, keeps whether it succeeds, and leaves fewer steps to go.** -/
theorem Walk.Valid.step {w w' : Walk} {c : Char} (h : w.Valid text pattern)
    (hc : text[w.text]? = some c) (hs : w.step pattern c = some w') :
    w'.Valid text pattern ∧ (w'.Succeeds text pattern ↔ w.Succeeds text pattern) ∧
      w'.rank text pattern < w.rank text pattern := by
  obtain ⟨hp, hstep⟩ | ⟨token, hp, hany, htakes, hstep⟩ | ⟨hm, hstep⟩ :=
    Walk.step_cases pattern hc
  · cases hstep.symm.trans hs
    exact h.remember hc hp
  · cases hstep.symm.trans hs
    exact h.take hc hp hany htakes
  · exact h.retreat hc hm (hstep.symm.trans hs)

/-- A walk that cannot go on does not succeed. -/
theorem Walk.not_succeeds_of_step {w : Walk} {c : Char} (hc : text[w.text]? = some c)
    (hs : w.step pattern c = none) : ¬ w.Succeeds text pattern := by
  obtain ⟨-, hstep⟩ | ⟨_, -, -, -, hstep⟩ | ⟨hm, hstep⟩ :=
    Walk.step_cases pattern hc
  · cases hstep.symm.trans hs
  · cases hstep.symm.trans hs
  · have hback : w.back = none := Option.map_eq_none_iff.mp (hstep.symm.trans hs)
    rintro (hm' | ⟨p, t, hback', -⟩)
    · exact hm hm'
    · cases hback.symm.trans hback'

/-! ## The whole walk -/

/-- **A walk with steps enough ends, and finds out whether it succeeds.** -/
theorem Walk.Valid.run {steps : Nat} {w : Walk} (h : w.Valid text pattern)
    (hsteps : w.rank text pattern < steps) :
    ∃ b, w.run text pattern steps = some b ∧ (b = true ↔ w.Succeeds text pattern) := by
  induction steps generalizing w with
  | zero => exact absurd hsteps (Nat.not_lt_zero _)
  | succ steps ih =>
    rw [Walk.run]
    split
    · rename_i ht
      exact ⟨_, rfl, (h.succeeds_at_end ht).symm⟩
    · rename_i c hc
      split
      · rename_i hs
        exact ⟨false, rfl, by simpa using Walk.not_succeeds_of_step hc hs⟩
      · rename_i w' hs
        obtain ⟨hvalid, hsucceeds, hrank⟩ := h.step hc hs
        obtain ⟨b, hrun, hb⟩ := ih hvalid (by omega)
        exact ⟨b, hrun, hb.trans hsucceeds⟩

theorem Walk.valid_start : Walk.start.Valid text pattern :=
  ⟨Nat.zero_le _, Nat.zero_le _, fun h => by cases h⟩

theorem Walk.succeeds_start :
    Walk.start.Succeeds text pattern ↔ Matches pattern.toList text.toList := by
  simp [Walk.Succeeds, Walk.start, MatchesFrom]

theorem Walk.rank_start_lt (text : Array Char) (pattern : Array Token) :
    Walk.start.rank text pattern < enoughSteps text.size pattern.size := by
  simp only [Walk.rank, Walk.start, enoughSteps, Option.elim_none, Nat.sub_zero, Nat.add_zero,
    Nat.succ_mul, Nat.mul_add, Nat.mul_one]
  omega

end Walk

/-- **A text matches a pattern exactly if the parts of the pattern match its characters.** -/
theorem isMatch_eq_true_iff (text pattern : String) :
    isMatch text pattern = true ↔ Matches (tokens pattern.toList) text.toList := by
  obtain ⟨b, hrun, hb⟩ := Walk.valid_start.run
    (Walk.rank_start_lt text.toList.toArray (tokens pattern.toList).toArray)
  rw [Walk.succeeds_start] at hb
  simp only [isMatch, hrun, Option.getD_some]
  exact hb

/-! ## Texts that contain a text -/

/-- A character that stands for itself is one part of the pattern. -/
theorem tokens_literalChar_append (c : Char) (cs : List Char) :
    tokens (literalChar c ++ cs) = .char c :: tokens cs := by
  unfold literalChar
  split
  · rfl
  · rename_i h
    simp only [isSpecial, escapeChar, Bool.or_eq_true, beq_iff_eq, not_or] at h
    obtain ⟨⟨hpercent, hunderscore⟩, hescape⟩ := h
    rw [List.singleton_append, tokens]
    · exact hpercent
    · exact hunderscore
    · exact fun h _ => hescape h
    · exact fun _ _ h _ => hescape h

/-- **A text whose characters stand for themselves is read back**, whatever stands behind it. -/
theorem tokens_flatMap_literalChar (cs rest : List Char) :
    tokens (cs.flatMap literalChar ++ rest) = cs.map .char ++ tokens rest := by
  induction cs with
  | nil => rfl
  | cons c cs ih =>
    rw [List.flatMap_cons, List.append_assoc, tokens_literalChar_append, ih]
    rfl

/-- **The parts of the pattern for *contains***: the characters, between two `%`. -/
theorem tokens_containing (s : String) :
    tokens (containing s).toList = .any :: s.toList.map .char ++ [.any] := by
  rw [containing, String.toList_ofList, List.cons_append, tokens, tokens_flatMap_literalChar]
  rfl

theorem matches_chars_any (s cs : List Char) :
    Matches (s.map .char ++ [.any]) cs ↔ s <+: cs := by
  induction s generalizing cs with
  | nil => simp [Matches]
  | cons c s ih =>
    rw [List.map_cons, List.cons_append, Matches]
    constructor
    · rintro ⟨rest, rfl, hrest⟩
      exact (List.prefix_cons_inj c).mpr ((ih rest).mp hrest)
    · rintro ⟨rest, rfl⟩
      exact ⟨s ++ rest, rfl, (ih _).mpr (List.prefix_append s rest)⟩

/-- **A text matches the pattern for *contains* exactly if it contains the text**, whatever
characters the two hold. -/
theorem isMatch_containing (text s : String) :
    isMatch text (containing s) = true ↔ s.toList <:+: text.toList := by
  rw [isMatch_eq_true_iff, tokens_containing, List.cons_append, Matches,
    List.infix_iff_prefix_suffix]
  simp only [matches_chars_any]
  exact exists_congr fun _ => and_comm

end TableQuery.Pattern
