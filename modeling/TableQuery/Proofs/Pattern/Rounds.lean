import TableQuery.Proofs.Pattern.Matching

/-!
# Proofs/Pattern/Rounds — the walk never leaves text and pattern, and it ends

A match is a loop of **rounds**, each a step of the walk.  A retreat moves the walk backwards in
text and pattern, so neither place says how far the match has come; the place of the last `%` does,
and behind it the two places together (`Walk.rank`).  Hence the rounds are bounded, and the walk of
every round stands inside (`Reached.valid`).  The bound on the steps of `Walk.run` is never used up:
what it runs through is exactly the walks of the rounds (`Reached.run_eq`).
-/

namespace TableQuery.Pattern

namespace Walk

/-- One round of a match: while there is text left, a step. -/
def Round (text : Array Char) (pattern : Array Token) (w w' : Walk) : Prop :=
  ∃ c, text[w.text]? = some c ∧ w.step pattern c = some w'

/-- **The walk after a number of rounds.** -/
inductive Reached (text : Array Char) (pattern : Array Token) : Nat → Walk → Prop where
  | start : Reached text pattern 0 Walk.start
  | round {n : Nat} {w w' : Walk} :
      Reached text pattern n w → Round text pattern w w' → Reached text pattern (n + 1) w'

/-- A walk behind which there is no round, and its answer: the text is used up, and the rest of the
pattern decides; or there is nothing to return to. -/
def Ends (text : Array Char) (pattern : Array Token) (w : Walk) (answer : Bool) : Prop :=
  (text[w.text]? = none ∧ answer = restIsAny pattern w.pattern) ∨
    ∃ c, text[w.text]? = some c ∧ w.step pattern c = none ∧ answer = false

variable {text : Array Char} {pattern : Array Token} {n : Nat} {w w' : Walk}

theorem round_or_ends (text : Array Char) (pattern : Array Token) (w : Walk) :
    (∃ w', Round text pattern w w') ∨ ∃ answer, Ends text pattern w answer := by
  cases hc : text[w.text]? with
  | none => exact Or.inr ⟨_, Or.inl ⟨hc, rfl⟩⟩
  | some c =>
    cases hs : w.step pattern c with
    | none => exact Or.inr ⟨_, Or.inr ⟨c, hc, hs, rfl⟩⟩
    | some w' => exact Or.inl ⟨w', c, hc, hs⟩

theorem Round.run_eq (h : Round text pattern w w') (steps : Nat) :
    w.run text pattern (steps + 1) = w'.run text pattern steps := by
  obtain ⟨c, hc, hs⟩ := h
  simp only [run, hc, hs]

theorem Ends.run_eq {answer : Bool} (h : Ends text pattern w answer) (steps : Nat) :
    w.run text pattern (steps + 1) = some answer := by
  obtain ⟨hc, rfl⟩ | ⟨c, hc, hs, rfl⟩ := h
  · simp only [run, hc]
  · simp only [run, hc, hs]

/-! ## All rounds -/

/-- **The walk of every round stands inside text and pattern.** -/
theorem Reached.valid (h : Reached text pattern n w) : w.Valid text pattern := by
  induction h with
  | start => exact valid_start
  | round _ hround ih =>
    obtain ⟨c, hc, hs⟩ := hround
    exact (ih.step hc hs).1

/-- The rounds made and the rounds left are never more than those left at the beginning. -/
theorem Reached.add_rank_le (h : Reached text pattern n w) :
    n + w.rank text pattern ≤ Walk.start.rank text pattern := by
  induction h with
  | start => exact Nat.le_of_eq (Nat.zero_add _)
  | round hreached hround ih =>
    obtain ⟨c, hc, hs⟩ := hround
    have hrank := (hreached.valid.step hc hs).2.2
    omega

/-- **A match runs through the walks of its rounds.** -/
theorem Reached.run_eq (h : Reached text pattern n w) (steps : Nat) :
    Walk.start.run text pattern (n + steps) = w.run text pattern steps := by
  induction h generalizing steps with
  | start => rw [Nat.zero_add]
  | round _ hround ih => rw [Nat.add_assoc, Nat.add_comm 1, ih, hround.run_eq]

/-- **The rounds come to an end**, since each leaves fewer to go. -/
theorem Reached.exists_ends (h : Reached text pattern n w) :
    ∃ m w' answer, Reached text pattern m w' ∧ Ends text pattern w' answer := by
  induction hr : w.rank text pattern using Nat.strongRecOn generalizing n w with
  | ind r ih =>
    obtain ⟨w', hround⟩ | ⟨answer, hends⟩ := round_or_ends text pattern w
    · obtain ⟨c, hc, hs⟩ := hround
      have hrank := (h.valid.step hc hs).2.2
      exact ih _ (hr ▸ hrank) (h.round ⟨c, hc, hs⟩) rfl
    · exact ⟨n, w, answer, h, hends⟩

end Walk

/-- **A match never leaves text and pattern, and it ends.**  After every round the walk stands at
the end of each at most, and what it returns to is a `%` that it has passed and a place of the text
that it has not come short of.  There are fewer rounds than `enoughSteps`, and the match has the
answer of the walk behind the last. -/
theorem rounds_stay_inside_and_end (text pattern : String) :
    let cs := text.toList.toArray
    let ps := (tokens pattern.toList).toArray
    (∀ n w, Walk.Reached cs ps n w →
      w.text ≤ cs.size ∧ w.pattern ≤ ps.size ∧
      (∀ p t, w.back = some (p, t) → ps[p]? = some .any ∧ p < w.pattern ∧ t ≤ w.text) ∧
      n < enoughSteps cs.size ps.size) ∧
    ∃ n w answer, Walk.Reached cs ps n w ∧ w.Ends cs ps answer ∧ isMatch text pattern = answer := by
  intro cs ps
  have hbound {n : Nat} {w : Walk} (h : Walk.Reached cs ps n w) :
      n < enoughSteps cs.size ps.size := by
    have hle := h.add_rank_le
    have hlt := Walk.rank_start_lt cs ps
    omega
  refine ⟨fun n w h => ⟨h.valid.text_le, h.valid.pattern_le, fun p t hback => ?_, hbound h⟩, ?_⟩
  · obtain ⟨hany, hp, ht, -, -⟩ := h.valid.returns hback
    exact ⟨hany, hp, ht⟩
  · obtain ⟨n, w, answer, hreached, hends⟩ := Walk.Reached.start.exists_ends
    obtain ⟨k, hk⟩ := Nat.exists_eq_add_of_lt (hbound hreached)
    have hrun : Walk.start.run cs ps (enoughSteps cs.size ps.size) = some answer := by
      rw [hk, Nat.add_assoc, hreached.run_eq, hends.run_eq]
    refine ⟨n, w, answer, hreached, hends, ?_⟩
    change (Walk.start.run cs ps (enoughSteps cs.size ps.size)).getD false = answer
    rw [hrun, Option.getD_some]

/-- A round that goes back in text and pattern, behind which the match still ends. -/
theorem round_goes_back_in_both :
    ∃ (cs : Array Char) (ps : Array Token) (n : Nat) (w w' : Walk),
      cs = "aaab".toList.toArray ∧ ps = (tokens "%aab".toList).toArray ∧
      Walk.Reached cs ps n w ∧ Walk.Round cs ps w w' ∧
      w'.text < w.text ∧ w'.pattern < w.pattern ∧
      w'.text ≤ cs.size ∧ w'.pattern ≤ ps.size ∧ n + 1 < enoughSteps cs.size ps.size := by
  have hfirst : Walk.Reached "aaab".toList.toArray (tokens "%aab".toList).toArray 1
      ⟨0, 1, some (0, 0)⟩ := .round .start ⟨'a', rfl, rfl⟩
  have hthird : Walk.Reached "aaab".toList.toArray (tokens "%aab".toList).toArray 3
      ⟨2, 3, some (0, 0)⟩ := .round (.round hfirst ⟨'a', rfl, rfl⟩) ⟨'a', rfl, rfl⟩
  have hback : Walk.Round "aaab".toList.toArray (tokens "%aab".toList).toArray
      ⟨2, 3, some (0, 0)⟩ ⟨1, 1, some (0, 1)⟩ := ⟨'a', rfl, rfl⟩
  obtain ⟨htext, hpattern, -, hrounds⟩ :=
    (rounds_stay_inside_and_end "aaab" "%aab").1 _ _ (hthird.round hback)
  exact ⟨_, _, _, _, _, rfl, rfl, hthird, hback, by decide, by decide, htext, hpattern, hrounds⟩

end TableQuery.Pattern
