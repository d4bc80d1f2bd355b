import TableQuery.Guid

/-!
# Proofs/Guid — the form in which filters write identifiers

An identifier is written as 36 characters with hyphens behind the 8th, 12th, 16th and 20th
hexadecimal digit.  A text of that form always denotes an identifier, and no other text does
(`isSome_read_iff`).
-/

namespace TableQuery.Guid

open TableQuery.Text

/-- A hexadecimal digit of either case. -/
def IsHexDigit (c : Char) : Prop := c.isDigit = true ∨ ('a' ≤ c ∧ c ≤ 'f') ∨ ('A' ≤ c ∧ c ≤ 'F')

theorem isSome_hexValue?_iff (c : Char) : (hexValue? c).isSome = true ↔ IsHexDigit c := by
  unfold hexValue? IsHexDigit
  by_cases hdigit : c.isDigit = true
  · simp [hdigit]
  by_cases hsmall : 'a' ≤ c ∧ c ≤ 'f'
  · simp [hdigit, hsmall]
  by_cases hcapital : 'A' ≤ c ∧ c ≤ 'F' <;> simp [hdigit, hsmall, hcapital]

/-- **The form of an identifier**: 36 characters, hyphens at four places, and hexadecimal digits at
all others. -/
structure IsHyphenated (cs : List Char) : Prop where
  length : cs.length = 36
  hyphen : ∀ i c, cs[i]? = some c → i ∈ [8, 13, 18, 23] → c = '-'
  digit : ∀ i c, cs[i]? = some c → i ∉ [8, 13, 18, 23] → IsHexDigit c

theorem isHyphenPosition_iff (i : Nat) : isHyphenPosition i = true ↔ i ∈ [8, 13, 18, 23] := by
  simp [isHyphenPosition, or_assoc]

theorem isCanonical_iff (cs : List Char) : isCanonical cs = true ↔ IsHyphenated cs := by
  simp only [isCanonical, Bool.and_eq_true, beq_iff_eq, List.all_eq_true]
  constructor
  · rintro ⟨hlength, hall⟩
    have hplace (i : Nat) (c : Char) (hi : cs[i]? = some c) :=
      hall (c, i) (List.mk_mem_zipIdx_iff_getElem?.mpr hi)
    refine ⟨hlength, fun i c hi hmem => ?_, fun i c hi hmem => ?_⟩
    · have hc := hplace i c hi
      rw [if_pos ((isHyphenPosition_iff i).mpr hmem)] at hc
      exact beq_iff_eq.mp hc
    · have hc := hplace i c hi
      rw [if_neg (mt (isHyphenPosition_iff i).mp hmem)] at hc
      exact (isSome_hexValue?_iff c).mp hc
  · rintro ⟨hlength, hhyphen, hdigit⟩
    refine ⟨hlength, fun (c, i) hmem => ?_⟩
    have hi := List.mk_mem_zipIdx_iff_getElem?.mp hmem
    by_cases hplace : i ∈ [8, 13, 18, 23]
    · simp [(isHyphenPosition_iff i).mpr hplace, hhyphen i c hi hplace]
    · have hc := (isSome_hexValue?_iff c).mpr (hdigit i c hi hplace)
      simp [mt (isHyphenPosition_iff i).mp hplace, hc]

/-- Whatever is no hyphen is a digit. -/
theorem IsHyphenated.isHexDigit {cs : List Char} (h : IsHyphenated cs) {c : Char} (hc : c ∈ cs)
    (hne : c ≠ '-') : IsHexDigit c := by
  obtain ⟨i, hi⟩ := List.mem_iff_getElem?.mp hc
  exact h.digit i c hi fun hmem => hne (h.hyphen i c hi hmem)

theorem IsHyphenated.isHexDigit_of_mem_filter {cs : List Char} (h : IsHyphenated cs) :
    ∀ c ∈ cs.filter (· != '-'), IsHexDigit c := by
  intro c hc
  obtain ⟨hmem, hne⟩ := List.mem_filter.mp hc
  exact h.isHexDigit hmem (by simpa using hne)

theorem isSome_ofHex {cs : List Char} (h : ∀ c ∈ cs, IsHexDigit c) :
    (ofHex cs).isSome = true := by
  rw [ofHex, Option.isSome_map]
  induction cs with
  | nil => rfl
  | cons c cs ih =>
    obtain ⟨d, hd⟩ := Option.isSome_iff_exists.mp
      ((isSome_hexValue?_iff c).mpr (h c List.mem_cons_self))
    obtain ⟨ds, hds⟩ := Option.isSome_iff_exists.mp
      (ih fun c hc => h c (List.mem_cons_of_mem _ hc))
    simp [hd, hds]

/-- **The texts of identifiers are those that denote one.** -/
theorem isSome_read_iff (s : String) : (read s).isSome = true ↔ IsHyphenated s.toList := by
  rw [read, readCanonical, ← isCanonical_iff]
  split
  · rename_i hcanonical
    have hform := (isCanonical_iff _).mp hcanonical
    exact iff_of_true (isSome_ofHex hform.isHexDigit_of_mem_filter) hcanonical
  · rename_i hcanonical
    exact iff_of_false (by simp) hcanonical

end TableQuery.Guid
