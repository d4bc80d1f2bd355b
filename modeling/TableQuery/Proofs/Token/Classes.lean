import TableQuery.Proofs.Guid
import TableQuery.Proofs.Number.Reading
import TableQuery.Proofs.Token.Scanning

/-!
# Proofs/Token/Classes — the kinds of words, and the values that they denote

A word is looked at twice: once to tell its kind, and once more to find the value it stands for.
The first look excludes one **class** of words after the other (`isClass_classify`); what it has
found of a class is what the second look needs.  So identifiers of 128 bits and points of time
always denote a value, and whether a number denotes one is told from its text alone
(`literal?_int_iff`, `isSome_literal?_float_iff`).
-/

namespace TableQuery.Token

open TableQuery.Text TableQuery.Number TableQuery.Time

/-! ## Classes of words -/

/-- **The classes of words**, each with what excludes the classes in front of it. -/
inductive IsClass (s : String) : Kind → Prop where
  | guid {g : Guid} : Guid.read s = some g → IsClass s .guid
  | ident : Guid.read s = none → (∀ c ∈ s.toList.head?, c.isDigit = false) → IsClass s .ident
  | dateTime {t : Timestamp} : Guid.read s = none → (∃ c ∈ s.toList.head?, c.isDigit = true) →
      Timestamp.read s = some t → IsClass s .dateTime
  | float {body : String} : Guid.read s = none → (∃ c ∈ s.toList.head?, c.isDigit = true) →
      Timestamp.read s = none → Literal.floatBody? s = some body → IsClass s .float
  | int : Guid.read s = none → (∃ c ∈ s.toList.head?, c.isDigit = true) →
      Timestamp.read s = none → Literal.floatBody? s = none → IsClass s .int

theorem isClass_classify (s : String) : IsClass s (classify s.toList) := by
  unfold classify
  simp only [String.ofList_toList]
  cases hguid : Guid.read s with
  | some g => exact .guid hguid
  | none =>
    cases hs : s.toList with
    | nil => exact .ident hguid (by simp [hs])
    | cons c cs =>
      by_cases hc : c.isDigit = true
      · have hhead : ∃ c ∈ s.toList.head?, c.isDigit = true := ⟨c, by simp [hs], hc⟩
        cases htime : Timestamp.read s with
        | some t => simpa [hc] using IsClass.dateTime hguid hhead htime
        | none =>
          cases hbody : Literal.floatBody? s with
          | some body => simpa [hc] using IsClass.float hguid hhead htime hbody
          | none => simpa [hc] using IsClass.int hguid hhead htime hbody
      · have hhead : ∀ c ∈ s.toList.head?, c.isDigit = false := by simpa [hs] using hc
        simpa [hc] using IsClass.ident hguid hhead

theorem toNat_lt_of_isDigit {c : Char} (h : c.isDigit = true) : c.toNat < 128 := by
  simp only [Char.isDigit, Bool.and_eq_true, decide_eq_true_eq, UInt32.le_iff_toNat_le] at h
  have hnine : '9'.val.toNat < 128 := by decide
  exact Nat.lt_of_le_of_lt h.2 hnine

theorem opensWord_of_isDigit {c : Char} (h : c.isDigit = true) : opensWord c = true := by
  simp [opensWord, isNumeric, toNat_lt_of_isDigit h, h]

/-- **The class of a token that is neither a string nor a mark.** -/
theorem isClass_of_mem_tokenize {s : String} {t : Token} (h : t ∈ tokenize s)
    (hkind : t.kind ∉ [Kind.string, .leftParen, .rightParen, .illegal]) :
    IsClass t.text t.kind := by
  rw [(kind_of_mem_scan h).resolve_right hkind]
  exact isClass_classify t.text

/-! ## Values of tokens -/

variable {t : Token}

/-- **Strings, identifiers of 128 bits and points of time always denote a value.** -/
theorem exists_literal? (hclass : t.kind ≠ .string → IsClass t.text t.kind)
    (hkind : t.kind = .string ∨ t.kind = .guid ∨ t.kind = .dateTime) :
    ∃ v, t.literal? = some v := by
  rcases hkind with hkind | hkind | hkind
  · exact ⟨.text t.text, by simp [literal?, hkind]⟩
  · rw [hkind] at hclass
    cases hclass (by simp) with
    | @guid g hread => exact ⟨.guid g, by simp [literal?, hkind, hread]⟩
  · rw [hkind] at hclass
    cases hclass (by simp) with
    | @dateTime d _ _ hread => exact ⟨.time d, by simp [literal?, hkind, hread]⟩

/-- **A whole number denotes a value exactly if it has digits only and fits into 64 bits with a
sign.** -/
theorem literal?_int_iff (hclass : IsClass t.text t.kind) (hkind : t.kind = .int) (v : Literal) :
    t.literal? = some v ↔ IsDigits t.text.toList ∧ decimalValue t.text.toList ≤ maxSigned ∧
      v = .integer (decimalValue t.text.toList) := by
  rw [hkind] at hclass
  cases hclass with
  | int _ hhead =>
    obtain ⟨c, hc, hdigit⟩ := hhead
    obtain ⟨cs, hs⟩ := List.head?_eq_some_iff.mp hc
    simp only [literal?, hkind, Option.map_eq_some_iff, readInteger_eq_some_iff hs hdigit]
    constructor
    · rintro ⟨n, ⟨hdigits, hle, rfl⟩, rfl⟩
      exact ⟨hdigits, hle, rfl⟩
    · rintro ⟨hdigits, hle, rfl⟩
      exact ⟨_, ⟨hdigits, hle, rfl⟩, rfl⟩

theorem floatBody?_eq_some_iff {s body : String} : Literal.floatBody? s = some body ↔
    ∃ mark, (mark = 'f' ∨ mark = 'F') ∧ s.toList = body.toList ++ [mark] := by
  constructor
  · intro h
    have hlast {mark : Char} (hmark : s.toList.getLast? = some mark)
        (hbody : some (String.ofList s.toList.dropLast) = some body) :
        s.toList = body.toList ++ [mark] := by
      obtain ⟨front, hfront⟩ := List.getLast?_eq_some_iff.mp hmark
      rw [← Option.some.inj hbody, hfront, List.dropLast_concat, String.toList_ofList]
    unfold Literal.floatBody? at h
    split at h
    · exact ⟨'f', Or.inl rfl, hlast ‹_› h⟩
    · exact ⟨'F', Or.inr rfl, hlast ‹_› h⟩
    · cases h
  · rintro ⟨mark, rfl | rfl, hs⟩ <;> simp [Literal.floatBody?, hs]

/-- **A floating point number denotes a value exactly if the text in front of its mark is that of
one.** -/
theorem isSome_literal?_float_iff (hclass : IsClass t.text t.kind) (hkind : t.kind = .float) :
    ∃ body mark, t.text.toList = body ++ [mark] ∧ (mark = 'f' ∨ mark = 'F') ∧
      (t.literal?.isSome = true ↔ IsFloatText body) := by
  rw [hkind] at hclass
  cases hclass with
  | @float body _ _ _ hbody =>
    obtain ⟨mark, hmark, htext⟩ := floatBody?_eq_some_iff.mp hbody
    refine ⟨body.toList, mark, htext, hmark, ?_⟩
    simp [literal?, hkind, Literal.readFloat, hbody, Binary64.isSome_read_iff]

/-- **What has the form of an identifier is taken for one**, whatever it starts and ends with. -/
theorem kind_of_isHyphenated (hclass : IsClass t.text t.kind)
    (h : Guid.IsHyphenated t.text.toList) : t.kind = .guid := by
  have hread := (Guid.isSome_read_iff t.text).mpr h
  generalize t.kind = kind at hclass
  cases hclass with
  | guid => rfl
  | ident hnone | dateTime hnone | float hnone | int hnone =>
    rw [hnone] at hread
    cases hread

end TableQuery.Token
