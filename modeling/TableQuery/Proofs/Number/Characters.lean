import TableQuery.Guid
import TableQuery.Number.Integer
import TableQuery.Number.Layout
import TableQuery.Time.Timestamp

/-!
# Proofs/Number/Characters — the characters that values are written with

Numbers, identifiers and points of time are written with digits and a few signs.  Each statement
takes a property of characters that the digits and those signs have, and carries it to the whole
text.
-/

namespace TableQuery

open Number Text Time

variable {P : Char → Prop}

/-! ## Digits -/

theorem decimal_chars (hdigit : ∀ c : Char, c.isDigit = true → P c) (n : Nat) :
    ∀ c ∈ decimal n, P c :=
  fun c hc => hdigit c (Nat.isDigit_of_mem_toDigits (by decide) (by decide) hc)

theorem paddedDecimal_chars (hdigit : ∀ c : Char, c.isDigit = true → P c) (width n : Nat) :
    ∀ c ∈ paddedDecimal width n, P c := by
  rw [paddedDecimal, List.forall_mem_append]
  refine ⟨fun c hc => ?_, decimal_chars hdigit n⟩
  rw [List.eq_of_mem_replicate hc]
  exact hdigit _ (by decide)

/-! ## Numbers -/

theorem integerText_chars (hdigit : ∀ c : Char, c.isDigit = true → P c) (hminus : P '-') (n : Int) :
    ∀ c ∈ (integerText n).toList, P c := by
  rw [integerText, String.toList_ofList]
  split
  · exact List.forall_mem_cons.mpr ⟨hminus, decimal_chars hdigit _⟩
  · exact decimal_chars hdigit _

theorem integerText_ne_nil (n : Int) : (integerText n).toList ≠ [] := by
  rw [integerText, String.toList_ofList]
  split
  · exact List.cons_ne_nil _ _
  · exact Nat.toDigits_ne_nil

theorem shortest_chars (hdigit : ∀ c : Char, c.isDigit = true → P c) (x : Binary64) (tie : Tie) :
    ∀ c ∈ (x.shortest tie).digits, P c := by
  unfold Binary64.shortest
  split
  · exact List.forall_mem_singleton.mpr (hdigit _ (by decide))
  · intro c hc
    have hmem := (List.dropWhile_suffix _).mem (List.mem_reverse.mp hc)
    exact decimal_chars hdigit _ c (List.mem_reverse.mp hmem)

theorem positionalText_chars (hdigit : ∀ c : Char, c.isDigit = true → P c) (hpoint : P '.')
    (l : Layout) {d : Digits} (hd : ∀ c ∈ d.digits, P c) : ∀ c ∈ l.positionalText d, P c := by
  have hzero : P '0' := hdigit _ (by decide)
  have hzeros (n : Nat) : ∀ c ∈ List.replicate n '0', P c := fun c hc => by
    rwa [List.eq_of_mem_replicate hc]
  unfold Layout.positionalText
  split
  · simp only [List.forall_mem_append, List.forall_mem_cons]
    exact ⟨⟨hzero, hpoint, hzeros _⟩, hd⟩
  · simp only
    split
    · simp only [List.forall_mem_append]
      refine ⟨⟨hd, hzeros _⟩, ?_⟩
      split <;> simp [hpoint, hzero]
    · simp only [List.forall_mem_append, List.forall_mem_cons]
      exact ⟨fun c hc => hd c (List.mem_of_mem_take hc), hpoint,
        fun c hc => hd c (List.mem_of_mem_drop hc)⟩

theorem positionalText_ne_nil (l : Layout) (d : Digits) : l.positionalText d ≠ [] := by
  unfold Layout.positionalText
  split
  · simp
  · simp only
    split
    · rename_i hpoint hlen
      intro h
      have hlength := congrArg List.length h
      simp only [List.length_append, List.length_replicate, List.length_nil] at hlength
      omega
    · simp

/-- A number in the plain layout is a word, or digits with a sign and a point. -/
theorem plainText_chars (hdigit : ∀ c : Char, c.isDigit = true → P c) (hminus : P '-')
    (hpoint : P '.') (hnan : ∀ c ∈ ['N', 'a', 'N'], P c) (hinf : ∀ c ∈ ['i', 'n', 'f'], P c)
    (x : Binary64) : ∀ c ∈ (Layout.plain.text x).toList, P c := by
  have hbody : ∀ c ∈ if x.isInfinite then ['i', 'n', 'f']
      else Layout.plain.digitsText (x.shortest Layout.plain.tie), P c := by
    split
    · exact hinf
    · exact positionalText_chars hdigit hpoint _ (shortest_chars hdigit x _)
  unfold Layout.text
  split
  · exact hnan
  · rw [String.toList_ofList]
    split
    · exact List.forall_mem_cons.mpr ⟨hminus, hbody⟩
    · exact hbody

theorem plainText_ne_nil (x : Binary64) : (Layout.plain.text x).toList ≠ [] := by
  unfold Layout.text
  split
  · simp
  · rw [String.toList_ofList]
    split
    · exact List.cons_ne_nil _ _
    · split
      · simp
      · exact positionalText_ne_nil _ _

/-! ## Identifiers and points of time -/

theorem hexDigits_chars (hhex : ∀ v < 16, P (hexDigit v)) :
    ∀ n v : Nat, ∀ c ∈ Guid.hexDigits n v, P c
  | 0, _ => by simp [Guid.hexDigits]
  | n + 1, v => by
    rw [Guid.hexDigits, List.forall_mem_append, List.forall_mem_singleton]
    exact ⟨hexDigits_chars hhex n (v / 16), hhex _ (Nat.mod_lt _ (by decide))⟩

theorem guidText_chars (hhex : ∀ v < 16, P (hexDigit v)) (hminus : P '-') (g : Guid) :
    ∀ c ∈ g.text.toList, P c := by
  have hdigits := hexDigits_chars hhex 32 g.value.toNat
  have hdrop (n : Nat) : ∀ c ∈ (Guid.hexDigits 32 g.value.toNat).drop n, P c :=
    fun c hc => hdigits c (List.mem_of_mem_drop hc)
  have htake (n k : Nat) : ∀ c ∈ ((Guid.hexDigits 32 g.value.toNat).drop n).take k, P c :=
    fun c hc => hdrop n c (List.mem_of_mem_take hc)
  rw [Guid.text, String.toList_ofList, Guid.hyphenate]
  simp only [List.forall_mem_append, List.forall_mem_cons]
  exact ⟨⟨⟨⟨htake 0 8, hminus, htake 8 4⟩, hminus, htake 12 4⟩, hminus, htake 16 4⟩, hminus,
    hdrop 20⟩

theorem spacedText_chars (hdigit : ∀ c : Char, c.isDigit = true → P c)
    (hsign : ∀ c ∈ ['-', '+', ':', '.', ' '], P c) (t : Timestamp) :
    ∀ c ∈ t.spacedText.toList, P c := by
  have hpadded := paddedDecimal_chars hdigit
  simp only [List.forall_mem_cons, List.not_mem_nil, false_imp_iff, implies_true, and_true] at hsign
  obtain ⟨hminus, hplus, hcolon, hpoint, hspace⟩ := hsign
  have hyear (year : Int) : ∀ c ∈ Timestamp.yearText year, P c := by
    unfold Timestamp.yearText
    split
    · exact List.forall_mem_cons.mpr ⟨hminus, hpadded _ _⟩
    · split
      · exact List.forall_mem_cons.mpr ⟨hplus, hpadded _ _⟩
      · exact hpadded _ _
  have hzone : ∀ c ∈ " +00:00".toList, P c := by
    have hzero : P '0' := hdigit _ (by decide)
    simp [hspace, hplus, hzero, hcolon]
  simp only [Timestamp.spacedText, Timestamp.dateText, Timestamp.clockText, String.toList_ofList,
    List.forall_mem_append, List.forall_mem_cons]
  exact ⟨⟨⟨⟨⟨hyear _, hminus, hpadded _ _⟩, hminus, hpadded _ _⟩, hspace, ⟨hpadded _ _, hcolon,
    hpadded _ _⟩, hcolon, hpadded _ _⟩, hpoint, hpadded _ _⟩, hzone⟩

end TableQuery
