import TableQuery.Literal

/-!
# Proofs/Number/Reading — the texts that denote numbers

A whole number without a sign is read from digits alone, as long as it stays within its limit; what
it denotes is the value of the digits (`readMagnitude_eq_ok_iff`).  A floating point number has the
grammar

    float    := sign? ( number | 'inf' | 'infinity' | 'nan' )
    number   := ( digit+ | digit+ '.' digit* | digit* '.' digit+ ) exponent?
    exponent := ( 'e' | 'E' ) sign? digit+

with its words in letters of either case; every text of it denotes a number, and no other text does
(`isSome_read_iff`).
-/

namespace TableQuery.Number

open TableQuery.Text

/-- Whether a text holds nothing but decimal digits. -/
def IsDigits (cs : List Char) : Prop := ∀ c ∈ cs, c.isDigit = true

instance (cs : List Char) : Decidable (IsDigits cs) :=
  inferInstanceAs (Decidable (∀ c ∈ cs, c.isDigit = true))

/-! ## Whole numbers -/

/-- More digits make no number smaller. -/
theorem le_foldl_digits (cs : List Char) (n : Nat) :
    n ≤ cs.foldl (fun n c => 10 * n + (c.toNat - '0'.toNat)) n := by
  induction cs generalizing n with
  | nil => exact Nat.le_refl n
  | cons c cs ih =>
    have hstep : n ≤ 10 * n + (c.toNat - '0'.toNat) := by omega
    exact Nat.le_trans hstep (ih _)

/-- The digits that are left are read exactly if the number stays within its limit. -/
theorem readDigits_eq_ok_iff {limit acc n : Nat} {cs : List Char} (hacc : acc ≤ limit) :
    readDigits limit acc cs = .ok n ↔
      IsDigits cs ∧ cs.foldl (fun n c => 10 * n + (c.toNat - '0'.toNat)) acc = n ∧ n ≤ limit := by
  induction cs generalizing acc with
  | nil =>
    constructor
    · intro h
      cases h
      exact ⟨List.forall_mem_nil _, rfl, hacc⟩
    · rintro ⟨-, rfl, -⟩
      rfl
  | cons c cs ih =>
    rw [readDigits, IsDigits, List.forall_mem_cons, List.foldl_cons]
    by_cases hc : c.isDigit = true
    · simp only [digitValue?, if_pos hc]
      split
      · rename_i hle
        rw [ih hle, and_iff_right hc]
        rfl
      · rename_i hgt
        refine iff_of_false (by simp) ?_
        rintro ⟨-, rfl, hle⟩
        exact hgt (Nat.le_trans (le_foldl_digits cs _) hle)
    · simp only [digitValue?, if_neg hc]
      exact iff_of_false (by simp) fun h => hc h.1.1

/-- **A number is read from digits, if there are any, and within its limit only.** -/
theorem readMagnitude_eq_ok_iff {limit n : Nat} {cs : List Char} (hne : cs ≠ []) :
    readMagnitude limit cs = .ok n ↔ IsDigits cs ∧ decimalValue cs = n ∧ n ≤ limit := by
  rw [readMagnitude, readDigits_eq_ok_iff (Nat.zero_le _)]
  · rfl
  · exact hne

/-- **A word that starts with a digit denotes a whole number** exactly if it holds digits only and
their value fits into 64 bits with a sign; then it denotes that value. -/
theorem readInteger_eq_some_iff {s : String} {c : Char} {cs : List Char} {v : Int}
    (hs : s.toList = c :: cs) (hdigit : c.isDigit = true) :
    Literal.readInteger s = some v ↔
      IsDigits s.toList ∧ decimalValue s.toList ≤ maxSigned ∧ v = decimalValue s.toList := by
  have hsigned : readSigned s = (readMagnitude maxSigned s.toList).map Int.ofNat := by
    unfold readSigned
    split
    · rename_i hnil
      rw [hnil] at hs
      cases hs
    · rename_i hplus
      rw [hplus] at hs
      cases hs
      cases hdigit
    · rename_i hminus
      rw [hminus] at hs
      cases hs
      cases hdigit
    · rfl
  have hne : s.toList ≠ [] := by simp [hs]
  rw [Literal.readInteger, hsigned]
  cases hread : readMagnitude maxSigned s.toList with
  | ok n =>
    obtain ⟨hdigits, rfl, hle⟩ := (readMagnitude_eq_ok_iff hne).mp hread
    constructor
    · intro hv
      cases hv
      exact ⟨hdigits, hle, rfl⟩
    · rintro ⟨-, -, rfl⟩
      rfl
  | error e =>
    refine iff_of_false (by simp [Except.map, Except.toOption]) ?_
    rintro ⟨hdigits, hle, -⟩
    cases hread.symm.trans ((readMagnitude_eq_ok_iff hne).mpr ⟨hdigits, rfl, hle⟩)

/-! ## Floating point numbers -/

/-- **A text of a form with a sign in front**, or without one. -/
inductive Signed (form : List Char → Prop) : List Char → Prop where
  | bare {cs : List Char} : form cs → Signed form cs
  | plus {cs : List Char} : form cs → Signed form ('+' :: cs)
  | minus {cs : List Char} : form cs → Signed form ('-' :: cs)

/-- Digits, at least one. -/
def IsDigitRun (cs : List Char) : Prop := cs ≠ [] ∧ IsDigits cs

/-- A power of ten behind its mark. -/
inductive IsExponent : List Char → Prop where
  | small {cs : List Char} : Signed IsDigitRun cs → IsExponent ('e' :: cs)
  | capital {cs : List Char} : Signed IsDigitRun cs → IsExponent ('E' :: cs)

/-- Digits with a point among them or none, and with a power of ten or none. -/
inductive IsDecimal : List Char → Prop where
  | whole {ds exponent : List Char} : IsDigitRun ds → exponent = [] ∨ IsExponent exponent →
      IsDecimal (ds ++ exponent)
  | pointed {ds fraction exponent : List Char} : IsDigits ds → IsDigits fraction →
      ds ++ fraction ≠ [] → exponent = [] ∨ IsExponent exponent →
      IsDecimal (ds ++ '.' :: (fraction ++ exponent))

/-- The words that stand for no finite number, in letters of either case. -/
def IsNumberWord (cs : List Char) : Prop :=
  ∃ word ∈ ["inf", "infinity", "nan"], eqIgnoreCase (String.ofList cs) word = true

/-- **The texts that denote floating point numbers.** -/
def IsFloatText (cs : List Char) : Prop := Signed (fun cs => IsDecimal cs ∨ IsNumberWord cs) cs

/-- A text without the sign in front. -/
def unsigned : List Char → List Char
  | '+' :: cs => cs
  | '-' :: cs => cs
  | cs => cs

/-- What has no sign in front of itself is found behind the sign. -/
theorem signed_iff {form : List Char → Prop} (hform : ∀ cs, ¬ form ('+' :: cs) ∧ ¬ form ('-' :: cs))
    (cs : List Char) : Signed form cs ↔ form (unsigned cs) := by
  constructor
  · intro h
    cases h with
    | bare h =>
      unfold unsigned
      split
      · exact absurd h (hform _).1
      · exact absurd h (hform _).2
      · exact h
    | plus h | minus h => exact h
  · intro h
    unfold unsigned at h
    split at h
    · exact .plus h
    · exact .minus h
    · exact .bare h

theorem spanDigits_append {ds rest : List Char} (hds : IsDigits ds)
    (hrest : ∀ c ∈ rest.head?, c.isDigit = false) : spanDigits (ds ++ rest) = (ds, rest) := by
  have hdrop : rest.dropWhile Char.isDigit = rest ∧ rest.takeWhile Char.isDigit = [] := by
    cases rest with
    | nil => exact ⟨rfl, rfl⟩
    | cons c rest => simp [hrest c rfl]
  rw [spanDigits, List.takeWhile_append_of_pos hds, List.dropWhile_append_of_pos hds, hdrop.1,
    hdrop.2, List.append_nil]

/-- Every text is digits and something that starts with none. -/
theorem exists_digits_append (cs : List Char) : ∃ ds rest, cs = ds ++ rest ∧ IsDigits ds ∧
    ∀ c ∈ rest.head?, c.isDigit = false := by
  refine ⟨cs.takeWhile Char.isDigit, cs.dropWhile Char.isDigit,
    List.takeWhile_append_dropWhile.symm, List.all_eq_true.mp List.all_takeWhile, ?_⟩
  intro c hc
  have hhead := List.head?_dropWhile_not Char.isDigit cs
  rwa [Option.mem_def.mp hc] at hhead

namespace Binary64

theorem isSome_readExponent_iff (cs : List Char) :
    (readExponent cs).isSome = true ↔ Signed IsDigitRun cs := by
  have hunsigned (ds : List Char) : (readExponent.unsigned ds).isSome = true ↔ IsDigitRun ds := by
    simp [readExponent.unsigned, IsDigitRun, IsDigits]
  have hform (cs : List Char) : ¬ IsDigitRun ('+' :: cs) ∧ ¬ IsDigitRun ('-' :: cs) := by
    simp [IsDigitRun, IsDigits]
  rw [signed_iff hform, ← hunsigned]
  unfold readExponent unsigned
  split <;> simp

theorem isExponent_cons_iff (c : Char) (cs : List Char) :
    IsExponent (c :: cs) ↔ (c = 'e' ∨ c = 'E') ∧ Signed IsDigitRun cs := by
  constructor
  · intro h
    cases h with
    | small h => exact ⟨Or.inl rfl, h⟩
    | capital h => exact ⟨Or.inr rfl, h⟩
  · rintro ⟨rfl | rfl, h⟩
    · exact .small h
    · exact .capital h

/-- The outcome behind the digits of a decimal, at a character that is left. -/
theorem isSome_exponent_iff (c : Char) (cs : List Char) (f : Int → Binary64) :
    (if c = 'e' ∨ c = 'E' then (readExponent cs).map f else none).isSome = true ↔
      IsExponent (c :: cs) := by
  rw [isExponent_cons_iff, ← isSome_readExponent_iff]
  by_cases hc : c = 'e' ∨ c = 'E' <;> simp [hc]

/-- Digits without a point. -/
theorem isSome_readUnsignedDecimal_whole (negative : Bool) {ds rest : List Char}
    (hds : IsDigits ds) (hrest : ∀ c ∈ rest.head?, c.isDigit = false ∧ c ≠ '.') :
    (readUnsignedDecimal negative (ds ++ rest)).isSome = true ↔
      ds ≠ [] ∧ (rest = [] ∨ IsExponent rest) := by
  unfold readUnsignedDecimal
  rw [spanDigits_append hds fun c hc => (hrest c hc).1]
  cases rest with
  | nil => cases ds <;> simp
  | cons c rest =>
    have hc : c ≠ '.' := (hrest c rfl).2
    cases ds with
    | nil => simp [hc]
    | cons d ds => simp [hc, isSome_exponent_iff]

/-- Digits with a point among them. -/
theorem isSome_readUnsignedDecimal_pointed (negative : Bool) {ds fraction rest : List Char}
    (hds : IsDigits ds) (hfraction : IsDigits fraction)
    (hrest : ∀ c ∈ rest.head?, c.isDigit = false) :
    (readUnsignedDecimal negative (ds ++ '.' :: (fraction ++ rest))).isSome = true ↔
      ds ++ fraction ≠ [] ∧ (rest = [] ∨ IsExponent rest) := by
  unfold readUnsignedDecimal
  rw [spanDigits_append hds (by simp)]
  simp only [spanDigits_append hfraction hrest]
  by_cases hne : ds ++ fraction = []
  · simp [hne]
  · cases rest with
    | nil => simp [hne]
    | cons c rest => simp [hne, isSome_exponent_iff]

/-- A power of ten starts neither with a digit nor with a point. -/
theorem head_exponent {exponent : List Char} (h : exponent = [] ∨ IsExponent exponent) :
    ∀ c ∈ exponent.head?, c.isDigit = false ∧ c ≠ '.' := by
  rcases h with rfl | h
  · simp
  · cases h with
    | small | capital => simp

/-- **A decimal is read exactly if it has the form of one.** -/
theorem isSome_readUnsignedDecimal_iff (negative : Bool) (cs : List Char) :
    (readUnsignedDecimal negative cs).isSome = true ↔ IsDecimal cs := by
  constructor
  · intro h
    obtain ⟨ds, rest, rfl, hds, hrest⟩ := exists_digits_append cs
    by_cases hpoint : ∀ c ∈ rest.head?, c ≠ '.'
    · rw [isSome_readUnsignedDecimal_whole negative hds fun c hc => ⟨hrest c hc, hpoint c hc⟩] at h
      exact .whole ⟨h.1, hds⟩ h.2
    · have hpoint : rest.head? = some '.' := by simpa using hpoint
      obtain ⟨behind, rfl⟩ := List.head?_eq_some_iff.mp hpoint
      obtain ⟨fraction, rest, rfl, hfraction, hrest⟩ := exists_digits_append behind
      rw [isSome_readUnsignedDecimal_pointed negative hds hfraction hrest] at h
      exact .pointed hds hfraction h.1 h.2
  · intro h
    cases h with
    | whole hds hexponent =>
      rw [isSome_readUnsignedDecimal_whole negative hds.2 (head_exponent hexponent)]
      exact ⟨hds.1, hexponent⟩
    | pointed hds hfraction hne hexponent =>
      rw [isSome_readUnsignedDecimal_pointed negative hds hfraction
        fun c hc => (head_exponent hexponent c hc).1]
      exact ⟨hne, hexponent⟩

theorem isSome_readWord_iff (negative : Bool) (cs : List Char) :
    (readWord negative cs).isSome = true ↔ IsNumberWord cs := by
  by_cases hinf : eqIgnoreCase (String.ofList cs) "inf" = true
  · simp [readWord, IsNumberWord, hinf]
  by_cases hinfinity : eqIgnoreCase (String.ofList cs) "infinity" = true
  · simp [readWord, IsNumberWord, hinfinity]
  by_cases hnan : eqIgnoreCase (String.ofList cs) "nan" = true <;>
    simp [readWord, IsNumberWord, hinf, hinfinity, hnan]

theorem head_decimal {cs : List Char} (h : IsDecimal cs) :
    ∃ c ∈ cs.head?, c.isDigit = true ∨ c = '.' := by
  cases h with
  | @whole ds exponent hds _ =>
    obtain ⟨d, ds, rfl⟩ := List.exists_cons_of_ne_nil hds.1
    exact ⟨d, rfl, Or.inl (hds.2 d List.mem_cons_self)⟩
  | @pointed ds fraction exponent hds _ _ _ =>
    cases ds with
    | nil => exact ⟨'.', rfl, Or.inr rfl⟩
    | cons d ds => exact ⟨d, rfl, Or.inl (hds d List.mem_cons_self)⟩

/-- Neither a decimal nor a word for a number starts with a sign. -/
theorem not_form_sign (cs : List Char) : ¬ (IsDecimal ('+' :: cs) ∨ IsNumberWord ('+' :: cs)) ∧
    ¬ (IsDecimal ('-' :: cs) ∨ IsNumberWord ('-' :: cs)) := by
  constructor
  · rintro (h | h)
    · simpa using head_decimal h
    · simp [IsNumberWord, eqIgnoreCase] at h
  · rintro (h | h)
    · simpa using head_decimal h
    · simp [IsNumberWord, eqIgnoreCase] at h

/-- Behind its sign a number is a decimal or a word. -/
theorem read_eq_orElse (s : String) : ∃ negative, read s =
    (readUnsignedDecimal negative (unsigned s.toList)).orElse
      fun _ => readWord negative (unsigned s.toList) := by
  unfold read unsigned
  rcases s.toList with _ | ⟨c, cs⟩
  · exact ⟨false, rfl⟩
  by_cases hminus : c = '-'
  · subst hminus
    exact ⟨true, rfl⟩
  by_cases hplus : c = '+'
  · subst hplus
    exact ⟨false, rfl⟩
  · exact ⟨false, by simp [hminus, hplus]⟩

/-- **The texts of floating point numbers are those that denote one.** -/
theorem isSome_read_iff (s : String) : (read s).isSome = true ↔ IsFloatText s.toList := by
  obtain ⟨negative, hread⟩ := read_eq_orElse s
  rw [IsFloatText, signed_iff not_form_sign, ← isSome_readUnsignedDecimal_iff negative,
    ← isSome_readWord_iff negative, hread]
  cases readUnsignedDecimal negative (unsigned s.toList) <;> simp

end Binary64

end TableQuery.Number
