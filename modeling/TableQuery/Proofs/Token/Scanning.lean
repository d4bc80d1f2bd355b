import TableQuery.Text.Characters
import TableQuery.Token.Lexer

/-!
# Proofs/Token/Scanning — the kinds of the tokens of a text

A token is a string, a mark or a word (`kind_of_mem_scan`); the end of a text is no token of it
(`kind_ne_eof_of_mem_tokenize`).  A text of nothing but white space has no words: what the lexer
does not skip there it cannot use (`kind_of_mem_tokenize_blank`).  Whether a text is blank can be
told from its tokens (`isBlankText_iff_forall_mem_tokenize`).
-/

namespace TableQuery.Token

open TableQuery.Text

theorem scan_none_cons {pos : Nat} {c : Char} {ts : List Token} {p : Pending}
    (h : enter pos c = (ts, p)) (cs : List Char) :
    scan .none pos (c :: cs) = ts ++ scan p (pos + c.utf8Size) cs := by
  rw [scan, h]

/-! ## Kinds -/

theorem classify_mem (word : List Char) :
    classify word ∈ [Kind.ident, .int, .float, .guid, .dateTime] := by
  unfold classify
  dsimp only
  split
  · simp
  split
  · simp
  split
  · simp
  split
  · simp
  split <;> simp

theorem kind_of_mem_enter {pos : Nat} {c : Char} {t : Token} (h : t ∈ (enter pos c).1) :
    t.kind ∈ [Kind.string, .leftParen, .rightParen, .illegal] := by
  unfold enter at h
  split at h
  · simp at h
  split at h
  · simp_all [ofChar]
  split at h
  · simp_all [ofChar]
  split at h
  · simp at h
  split at h
  · simp at h
  · simp_all [ofChar]

theorem kind_ofWord (start stop : Nat) (rev : List Char) :
    (ofWord start stop rev).kind = classify (ofWord start stop rev).text.toList := by
  simp [ofWord]

/-- **A token is a string, a mark, or a word of the class that its text has.** -/
theorem kind_of_mem_scan {p : Pending} {pos : Nat} {cs : List Char} {t : Token}
    (h : t ∈ scan p pos cs) :
    t.kind = classify t.text.toList ∨
      t.kind ∈ [Kind.string, .leftParen, .rightParen, .illegal] := by
  fun_induction scan p pos cs with
  | case1 => simp at h
  | case2 =>
    rw [List.mem_singleton.mp h]
    exact Or.inl (kind_ofWord _ _ _)
  | case3 =>
    rw [List.mem_singleton.mp h]
    exact Or.inr (by simp [ofQuote])
  | case4 pos c cs ts p hp ih =>
    rcases List.mem_append.mp h with h | h
    · exact Or.inr (kind_of_mem_enter (by rwa [hp]))
    · exact ih h
  | case5 start rev pos c cs _ ih => exact ih h
  | case6 start rev pos c cs _ ts p hp ih =>
    rcases List.mem_append.mp h with h | h
    · rcases List.mem_cons.mp h with rfl | h
      · exact Or.inl (kind_ofWord _ _ _)
      · exact Or.inr (kind_of_mem_enter (by rwa [hp]))
    · exact ih h
  | case7 start rev pos c cs _ ih =>
    rcases List.mem_cons.mp h with rfl | h
    · exact Or.inr (by simp [ofQuote])
    · exact ih h
  | case8 start rev pos c cs _ ih => exact ih h

theorem classify_ne_eof (word : List Char) : classify word ≠ .eof :=
  ne_of_mem_of_not_mem (classify_mem word) (by decide)

/-- **The end of a text is no token of it.** -/
theorem kind_ne_eof_of_mem_tokenize {s : String} {t : Token} (h : t ∈ tokenize s) :
    t.kind ≠ .eof := by
  rcases kind_of_mem_scan h with hword | hmark
  · exact hword ▸ classify_ne_eof t.text.toList
  · exact ne_of_mem_of_not_mem hmark (by decide)

/-! ## White space

Words open with letters, numbers and underscores, and none of these is white space. -/

/-- The white space code points, one by one. -/
def blankCodes : List Nat := blankRanges.flatMap fun (lo, hi) => List.range' lo (hi + 1 - lo)

theorem mem_of_inRanges {ranges : List (Nat × Nat)} {n : Nat} (h : inRanges ranges n = true) :
    n ∈ ranges.flatMap fun (lo, hi) => List.range' lo (hi + 1 - lo) := by
  induction ranges with
  | nil => simp [inRanges] at h
  | cons r rest ih =>
    obtain ⟨lo, hi⟩ := r
    simp only [inRanges] at h
    split at h
    · cases h
    · rw [List.flatMap_cons, List.mem_append]
      rcases Bool.or_eq_true_iff.mp h with h | h
      · have hle : n ≤ hi := of_decide_eq_true h
        refine Or.inl (List.mem_range'_1.mpr ?_)
        omega
      · exact Or.inr (ih h)

/-- **White space opens no token but an unusable one.** -/
theorem enter_of_isBlank {c : Char} (h : isBlank c = true) (pos : Nat) :
    enter pos c = ([], .none) ∨ enter pos c = ([ofChar .illegal pos c], .none) := by
  have hcodes : blankCodes.all (fun n => !opensWord (Char.ofNat n) && Char.ofNat n != '(' &&
      Char.ofNat n != ')' && Char.ofNat n != '\'') = true := by decide +kernel
  have hc := List.all_eq_true.mp hcodes c.toNat (mem_of_inRanges h)
  simp only [Char.ofNat_toNat] at hc
  unfold enter
  split
  · exact Or.inl rfl
  · simp_all

theorem isBlank_of_isSpace {c : Char} (h : isSpace c = true) : isBlank c = true := by
  simp only [isSpace, Bool.or_eq_true, beq_iff_eq, or_assoc] at h
  rcases h with rfl | rfl | rfl | rfl <;> rfl

theorem classify_ne_illegal (word : List Char) : classify word ≠ .illegal :=
  ne_of_mem_of_not_mem (classify_mem word) (by decide)

/-- What is pending becomes a word or a string in the end. -/
theorem exists_mem_scan_of_pending {p : Pending} (hp : p ≠ .none) (pos : Nat) (cs : List Char) :
    ∃ t ∈ scan p pos cs, t.kind ≠ .illegal := by
  fun_induction scan p pos cs with
  | case1 => exact absurd rfl hp
  | case2 => exact ⟨_, List.mem_singleton_self _, classify_ne_illegal _⟩
  | case3 => exact ⟨_, List.mem_singleton_self _, by simp [ofQuote]⟩
  | case4 => exact absurd rfl hp
  | case5 start rev pos c cs _ ih => exact ih nofun
  | case6 => exact ⟨_, List.mem_cons_self, classify_ne_illegal _⟩
  | case7 => exact ⟨_, List.mem_cons_self, by simp [ofQuote]⟩
  | case8 start rev pos c cs _ ih => exact ih nofun

/-- A character that is no white space leaves a token that is not blank. -/
theorem exists_mem_scan_of_not_isBlank {c : Char} (h : ¬ isBlank c = true) (pos : Nat)
    (cs : List Char) : ∃ t ∈ scan .none pos (c :: cs),
      ¬ (t.kind = .illegal ∧ isBlankText t.text.toList = true) := by
  rw [scan_none_cons (Prod.eta _).symm, enter]
  split
  · exact absurd (isBlank_of_isSpace ‹_›) h
  split
  · exact ⟨_, List.mem_cons_self, by simp [ofChar]⟩
  split
  · exact ⟨_, List.mem_cons_self, by simp [ofChar]⟩
  split
  · obtain ⟨t, ht, hkind⟩ := exists_mem_scan_of_pending (p := .quote pos []) nofun _ cs
    exact ⟨t, ht, fun hblank => hkind hblank.1⟩
  split
  · obtain ⟨t, ht, hkind⟩ := exists_mem_scan_of_pending (p := .word pos [c]) nofun _ cs
    exact ⟨t, ht, fun hblank => hkind hblank.1⟩
  · exact ⟨_, List.mem_cons_self, by simp [ofChar, isBlankText, h]⟩

theorem isBlankText_iff_forall_mem_scan (pos : Nat) (cs : List Char) : isBlankText cs = true ↔
    ∀ t ∈ scan .none pos cs, t.kind = .illegal ∧ isBlankText t.text.toList = true := by
  induction cs generalizing pos with
  | nil => simp [isBlankText, scan]
  | cons c cs ih =>
    by_cases hc : isBlank c = true
    · have hcons : isBlankText (c :: cs) = isBlankText cs := by simp [isBlankText, hc]
      rw [hcons, ih (pos + c.utf8Size)]
      rcases enter_of_isBlank hc pos with he | he
      · rw [scan_none_cons he, List.nil_append]
      · have hchar : (ofChar .illegal pos c).kind = .illegal ∧
            isBlankText (ofChar .illegal pos c).text.toList = true := by
          simp [ofChar, isBlankText, hc]
        rw [scan_none_cons he, List.singleton_append, List.forall_mem_cons, and_iff_right hchar]
    · refine iff_of_false (by simp [isBlankText, hc]) fun hall => ?_
      obtain ⟨t, ht, hblank⟩ := exists_mem_scan_of_not_isBlank hc pos cs
      exact hblank (hall t ht)

/-- **A text is blank if its tokens are**, and only then. -/
theorem isBlankText_iff_forall_mem_tokenize {s : String} : isBlankText s.toList = true ↔
    ∀ t ∈ tokenize s, t.kind = .illegal ∧ isBlankText t.text.toList = true :=
  isBlankText_iff_forall_mem_scan 0 s.toList

/-- **A text of nothing but white space has no words.** -/
theorem kind_of_mem_tokenize_blank {s : String} {t : Token} (h : isBlankText s.toList = true)
    (ht : t ∈ tokenize s) : t.kind = .illegal := (isBlankText_iff_forall_mem_tokenize.mp h t ht).1

end TableQuery.Token
