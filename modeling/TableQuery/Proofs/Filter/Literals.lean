import Mathlib
import TableQuery.Proofs.Filter.FirstFault
import TableQuery.Proofs.Token.Classes
import TableQuery.Proofs.Token.Layout

/-!
# Proofs/Filter/Literals — the literals that a filter refuses

The reader of filters asks a token for its value only behind an operator, and refuses the filter if
there is none.  Strings, identifiers of 128 bits and points of time always have one, so the literal
that is refused is a number: a whole one with a character that is no digit, or too large, or a
floating point number that is not written like one.
-/

namespace TableQuery.Filter

open Token TableQuery.Text TableQuery.Number

/-! ## Errors about values -/

/-- Only an error about a value speaks of an invalid literal. -/
theorem cause_of_message {error : ReadError}
    (h : "Invalid literal".toList <+: error.message.toList) : error.cause = .value := by
  obtain ⟨cause, found⟩ := error
  cases cause with
  | value => rfl
  | property | operator | literal | container | paren | trailing =>
    simp [ReadError.message, toString] at h

/-- **A filter refused for a value has a literal that denotes none.** -/
theorem exists_literal_of_read_eq_error {s : String} {error : ReadError}
    (h : read s = .error error) (hcause : error.cause = .value) :
    ∃ t ∈ tokenize s, error.found = t ∧ t.kind.isLiteral = true ∧ t.literal? = none := by
  cases hrun : Reader.start.run (tokenize s) with
  | error error' =>
    rw [read, hrun] at h
    cases h
    obtain ⟨k, t, r, hk, -, hstep, -⟩ := Reader.run_eq_error hrun
    have habout := Reader.isAbout_of_step_eq_error hstep
    exact ⟨t, List.mem_of_getElem? hk, habout.found, habout.value hcause⟩
  | ok r =>
    rw [read, hrun] at h
    cases ((Reader.isAbout_of_finish_eq_error h).value hcause).1

/-! ## Identifiers of 128 bits -/

theorem opensWord_of_isHexDigit {c : Char} (h : Guid.IsHexDigit c) : opensWord c = true := by
  have hupper : 'f'.val.toNat ≤ 'z'.val.toNat ∧ 'F'.val.toNat ≤ 'Z'.val.toNat := by decide
  rcases h with h | ⟨hlo, hhi⟩ | ⟨hlo, hhi⟩
  · exact opensWord_of_isDigit h
  all_goals
    refine opensWord_of_isAlpha ?_
    simp only [Char.le_def, UInt32.le_iff_toNat_le] at hlo hhi
    simp only [Char.isAlpha, Char.isUpper, Char.isLower, Bool.or_eq_true, Bool.and_eq_true,
      decide_eq_true_eq, UInt32.le_iff_toNat_le, ge_iff_le]
    omega

theorem isWord_of_isHyphenated {cs : List Char} (h : Guid.IsHyphenated cs) : isWord cs = true := by
  have hhead : ∃ c ∈ cs.head?, opensWord c = true := by
    cases cs with
    | nil => cases h.length
    | cons c cs => exact ⟨c, rfl, opensWord_of_isHexDigit (h.digit 0 c rfl (by decide))⟩
  refine isWord_of_head hhead fun c hc => ?_
  by_cases hne : c = '-'
  · simp [continuesWord, hne]
  · simp [continuesWord, opensWord_of_isHexDigit (h.isHexDigit hc hne)]

/-- **An identifier is one word**, and a token of its own kind. -/
theorem tokenize_of_isHyphenated {s : String} (h : Guid.IsHyphenated s.toList) :
    ∃ t, tokenize s = [t] ∧ t.kind = .guid ∧ t.text = s := by
  have hscan : scan .none 0 (s.toList ++ []) = _ :=
    scan_isWord (isWord_of_isHyphenated h) (by simp [StopsWord])
  rw [List.append_nil] at hscan
  refine ⟨_, hscan, kind_of_isHyphenated ?_ ?_, ?_⟩
  · simpa [ofWord] using isClass_classify s
  · simpa [ofWord] using h
  · simp [ofWord]

/-! ## Literals -/

theorem isClass_of_isLiteral {s : String} {t : Token} (h : t ∈ tokenize s)
    (hliteral : t.kind.isLiteral = true) (hstring : t.kind ≠ .string) : IsClass t.text t.kind := by
  refine isClass_of_mem_tokenize h fun hmem => ?_
  cases hkind : t.kind <;> simp_all [Kind.isLiteral]

/-- A literal without a value is a number. -/
theorem kind_of_literal?_eq_none {t : Token} (hclass : t.kind ≠ .string → IsClass t.text t.kind)
    (hliteral : t.kind.isLiteral = true) (hnone : t.literal? = none) :
    t.kind = .int ∨ t.kind = .float := by
  by_cases halways : t.kind = .string ∨ t.kind = .guid ∨ t.kind = .dateTime
  · obtain ⟨v, hv⟩ := exists_literal? hclass halways
    cases hnone.symm.trans hv
  · cases hkind : t.kind <;> simp_all [Kind.isLiteral]

/-- **A literal without a value is a number that fails its test.** -/
theorem fails_of_literal?_eq_none {t : Token} (hclass : t.kind ≠ .string → IsClass t.text t.kind)
    (hliteral : t.kind.isLiteral = true) (hnone : t.literal? = none) :
    t.kind = .int ∧ ¬ (IsDigits t.text.toList ∧ decimalValue t.text.toList ≤ maxSigned) ∨
      t.kind = .float ∧ ∃ body mark, t.text.toList = body ++ [mark] ∧
        (mark = 'f' ∨ mark = 'F') ∧ ¬ IsFloatText body := by
  rcases kind_of_literal?_eq_none hclass hliteral hnone with hkind | hkind
  · refine Or.inl ⟨hkind, ?_⟩
    rintro ⟨hdigits, hle⟩
    have hsome := (literal?_int_iff (hclass (by simp [hkind])) hkind _).mpr ⟨hdigits, hle, rfl⟩
    cases hnone.symm.trans hsome
  · obtain ⟨body, mark, htext, hmark, hsome⟩ :=
      isSome_literal?_float_iff (hclass (by simp [hkind])) hkind
    refine Or.inr ⟨hkind, body, mark, htext, hmark, fun hbody => ?_⟩
    rw [hnone] at hsome
    cases hsome.mpr hbody

/-- **A literal denotes a value exactly if its text does.**  Strings, identifiers and points of time
always denote one.  A whole number does if it has digits only and is no larger than the largest
number of 64 bits with a sign, and then it denotes itself; a floating point number does if it is
written like one in front of its mark.  So a filter that is refused for an invalid literal is
refused at a number that fails this test.  What has the form of an identifier of 128 bits is never
taken for a number or a point of time. -/
theorem literals_denote_as_classified (s : String) :
    (∀ t ∈ tokenize s,
      (t.kind = .string ∨ t.kind = .guid ∨ t.kind = .dateTime → ∃ v, t.literal? = some v) ∧
      (t.kind = .int → ∀ v, t.literal? = some v ↔ IsDigits t.text.toList ∧
        decimalValue t.text.toList ≤ 9223372036854775807 ∧
        v = .integer (decimalValue t.text.toList)) ∧
      (t.kind = .float → ∃ body mark, t.text.toList = body ++ [mark] ∧
        (mark = 'f' ∨ mark = 'F') ∧ (t.literal?.isSome = true ↔ IsFloatText body)) ∧
      (Guid.IsHyphenated t.text.toList → t.kind ∉ [Kind.int, .float, .dateTime])) ∧
    (∀ error, read s = .error error → "Invalid literal".toList <+: error.message.toList →
      ∃ t ∈ tokenize s, error.span = some t.span ∧
        (t.kind = .int ∧ ¬ (IsDigits t.text.toList ∧
            decimalValue t.text.toList ≤ 9223372036854775807) ∨
          t.kind = .float ∧ ∃ body mark, t.text.toList = body ++ [mark] ∧
            (mark = 'f' ∨ mark = 'F') ∧ ¬ IsFloatText body)) ∧
    (Guid.IsHyphenated s.toList → ∃ t, tokenize s = [t] ∧ t.kind = .guid ∧ t.text = s) := by
  refine ⟨fun t ht => ⟨?_, ?_, ?_, ?_⟩, fun error herror hmessage => ?_, tokenize_of_isHyphenated⟩
  · intro hkind
    have hliteral : t.kind.isLiteral = true := by
      rcases hkind with hkind | hkind | hkind <;> rw [hkind] <;> rfl
    exact exists_literal? (isClass_of_isLiteral ht hliteral) hkind
  · intro hkind
    exact literal?_int_iff (isClass_of_mem_tokenize ht (by simp [hkind])) hkind
  · intro hkind
    exact isSome_literal?_float_iff (isClass_of_mem_tokenize ht (by simp [hkind])) hkind
  · intro hguid hmem
    have hclass : IsClass t.text t.kind := isClass_of_mem_tokenize ht (by
      simp only [List.mem_cons, List.not_mem_nil, or_false] at hmem
      rcases hmem with hkind | hkind | hkind <;> simp [hkind])
    rw [kind_of_isHyphenated hclass hguid] at hmem
    simp at hmem
  · obtain ⟨t, ht, hfound, hliteral, hnone⟩ :=
      exists_literal_of_read_eq_error herror (cause_of_message hmessage)
    have hspan : error.span = some t.span := by
      rw [ReadError.span, hfound, if_neg (kind_ne_eof_of_mem_tokenize ht)]
    have hclass := isClass_of_isLiteral ht hliteral
    exact ⟨t, ht, hspan, fails_of_literal?_eq_none hclass hliteral hnone⟩

/-- One more than the largest number is refused where it stands, and an identifier that starts with
a digit and ends in the mark of floating point numbers is an identifier. -/
theorem one_too_many_and_digits_in_front :
    (∃ error, read "a eq 9223372036854775808" = .error error ∧
      "Invalid literal".toList <+: error.message.toList ∧
      ∃ t ∈ tokenize "a eq 9223372036854775808", error.span = some t.span ∧
        (t.kind = .int ∧ ¬ (IsDigits t.text.toList ∧
            decimalValue t.text.toList ≤ 9223372036854775807) ∨
          t.kind = .float ∧ ∃ body mark, t.text.toList = body ++ [mark] ∧
            (mark = 'f' ∨ mark = 'F') ∧ ¬ IsFloatText body)) ∧
    Guid.IsHyphenated "12345678-1234-1234-1234-12345678901f".toList ∧
    ∃ t, tokenize "12345678-1234-1234-1234-12345678901f" = [t] ∧ t.kind = .guid ∧
      t.text = "12345678-1234-1234-1234-12345678901f" := by
  have hread : read "a eq 9223372036854775808" =
      .error ⟨.value, ⟨.int, "9223372036854775808", ⟨5, 24⟩⟩⟩ := by rfl
  have hmessage : "Invalid literal".toList <+: (ReadError.message
      ⟨.value, ⟨.int, "9223372036854775808", ⟨5, 24⟩⟩⟩).toList := by decide
  have hguid : Guid.IsHyphenated "12345678-1234-1234-1234-12345678901f".toList :=
    (Guid.isCanonical_iff _).mp (by decide)
  exact ⟨⟨_, hread, hmessage, (literals_denote_as_classified _).2.1 _ hread hmessage⟩, hguid,
    (literals_denote_as_classified _).2.2 hguid⟩

end TableQuery.Filter
