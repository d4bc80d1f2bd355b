import Mathlib
import TableQuery.Proofs.Filter.FirstFault
import TableQuery.Proofs.Time.Reading
import TableQuery.Proofs.Token.Classes
import TableQuery.Proofs.Token.Layout

/-!
# Proofs/Filter/Timestamps — points of time written in a filter

Every character of a point of time may stand in a word, white space apart, except the signs `+` and
`−` of an offset from UTC.  So **a point of time is a literal** as it stands, unless it has one of
these signs.  If it has, the lexer cuts it in front of the sign, and what is left is a moment
without its zone: it denotes no point of time and is taken for a whole number, which it is not
either.
-/

namespace TableQuery.Filter

open Token TableQuery.Text TableQuery.Number TableQuery.Time

/-! ## Kinds -/

/-- Behind no more than four characters an identifier of 128 bits has no hyphen. -/
theorem guid_read_of_hyphen {s : String} {year rest : List Char}
    (hs : s.toList = year ++ '-' :: rest) (hlength : year.length ≤ 4) : Guid.read s = none := by
  rw [← Option.not_isSome_iff_eq_none, Guid.isSome_read_iff]
  intro h
  have hplace : s.toList[year.length]? = some '-' := by simp [hs]
  have hdigit := h.digit _ _ hplace (by
    simp only [List.mem_cons, List.not_mem_nil, or_false]
    omega)
  simp [Guid.IsHexDigit] at hdigit

/-- **A point of time is of its own kind**, if it starts with a digit. -/
theorem classify_of_read {s : String} {d : Timestamp}
    (hhead : ∃ c ∈ s.toList.head?, c.isDigit = true) (h : Timestamp.read s = some d) :
    classify s.toList = .dateTime := by
  obtain ⟨year, rest, hs, hlength⟩ := Timestamp.exists_hyphen_of_read hhead h
  have hguid := guid_read_of_hyphen hs hlength
  have hclass := isClass_classify s
  generalize classify s.toList = kind at hclass
  cases hclass with
  | guid hread => cases hguid.symm.trans hread
  | ident _ hnone =>
    obtain ⟨c, hc, hdigit⟩ := hhead
    cases hdigit.symm.trans (hnone c hc)
  | dateTime => rfl
  | float _ _ hnone | int _ _ hnone => cases h.symm.trans hnone

/-- **A moment without its zone is taken for a whole number.** -/
theorem classify_of_isMoment {s : String} (h : IsMoment s.toList) : classify s.toList = .int := by
  obtain ⟨year, month, rest, hs, hyear, -⟩ := h.exists_hyphens
  have hguid := guid_read_of_hyphen hs (Nat.le_of_eq hyear.1)
  have hclass := isClass_classify s
  generalize classify s.toList = kind at hclass
  cases hclass with
  | guid hread => cases hguid.symm.trans hread
  | ident _ hnone =>
    obtain ⟨c, hc, hdigit⟩ := h.exists_head
    cases hdigit.symm.trans (hnone c hc)
  | dateTime _ _ hread => cases h.read_eq_none.symm.trans hread
  | float _ _ _ hbody =>
    obtain ⟨mark, hmark, htext⟩ := floatBody?_eq_some_iff.mp hbody
    have hmem := h.mem (c := mark) (by simp [htext])
    rcases hmark with rfl | rfl <;> exact absurd hmem (by decide)
  | int => rfl

/-- A number with a hyphen denotes nothing. -/
theorem literal?_of_isMoment {s : String} (h : IsMoment s.toList) (span : Span) :
    literal? ⟨.int, s, span⟩ = none := by
  have hclass : IsClass s .int := classify_of_isMoment h ▸ isClass_classify s
  obtain ⟨year, month, rest, hs, -⟩ := h.exists_hyphens
  refine Option.eq_none_iff_forall_ne_some.mpr fun v hv => ?_
  have hdigits := ((literal?_int_iff (t := ⟨.int, s, span⟩) hclass rfl v).mp hv).1
  cases hdigits '-' (by simp [hs])

/-! ## Words -/

theorem continuesWord_of_isDigit {c : Char} (h : c.isDigit = true) : continuesWord c = true := by
  simp [continuesWord, opensWord_of_isDigit h]

theorem continuesWord_of_isClockChar {c : Char} (h : IsClockChar c) (hblank : isBlank c = false) :
    continuesWord c = true := by
  simp only [IsClockChar, List.mem_cons, List.not_mem_nil, or_false] at h
  rcases h with hdigit | rfl | rfl | rfl | rfl | rfl
  · exact continuesWord_of_isDigit hdigit
  · decide
  · decide
  · decide
  · decide
  · cases hblank

/-- **A point of time without white space is a word**, but for its sign. -/
theorem continuesWord_of_read {s : String} {d : Timestamp}
    (hhead : ∃ c ∈ s.toList.head?, c.isDigit = true) (h : Timestamp.read s = some d) {c : Char}
    (hc : c ∈ s.toList) (hblank : isBlank c = false) :
    continuesWord c = true ∨ c = '+' ∨ c = '−' := by
  rcases Timestamp.form_of_read hhead h with ⟨moment, zone, hs, hmoment, hzone⟩ | hday
  · rw [hs, List.mem_append] at hc
    rcases hc with hc | hc
    · rcases hmoment.mem hc with rfl | hclock
      · exact Or.inl (by decide)
      · exact Or.inl (continuesWord_of_isClockChar hclock hblank)
    · obtain ⟨sign, rest, rfl, hsign⟩ := hzone.exists_cons
      rcases List.mem_cons.mp hc with rfl | hc
      · simp only [opensZone, List.contains_iff_mem, List.mem_cons, List.not_mem_nil,
          or_false] at hsign
        rcases hsign with rfl | rfl | rfl | rfl | rfl
        · exact Or.inl (by decide)
        · exact Or.inl (by decide)
        · exact Or.inr (Or.inl rfl)
        · exact Or.inl (by decide)
        · exact Or.inr (Or.inr rfl)
      · exact Or.inl (continuesWord_of_isClockChar (hzone.isClockText_tail c hc) hblank)
  · rcases hday.mem hc with hdigit | rfl | hform
    · exact Or.inl (continuesWord_of_isDigit hdigit)
    · exact Or.inl (by decide)
    · cases hblank.symm.trans hform

theorem isWord_of_head_isDigit {cs : List Char} (hhead : ∃ c ∈ cs.head?, c.isDigit = true)
    (h : ∀ c ∈ cs, continuesWord c = true) : isWord cs = true := by
  obtain ⟨c, hc, hdigit⟩ := hhead
  exact isWord_of_head ⟨c, hc, opensWord_of_isDigit hdigit⟩ h

/-! ## Tokens -/

/-- **A point of time is a token**, if all its characters may stand in a word. -/
theorem scan_of_read {s : String} {d : Timestamp}
    (hhead : ∃ c ∈ s.toList.head?, c.isDigit = true) (hblank : ∀ c ∈ s.toList, isBlank c = false)
    (h : Timestamp.read s = some d) (hplus : '+' ∉ s.toList) (hminus : '−' ∉ s.toList) (pos : Nat) :
    scan .none pos s.toList = [⟨.dateTime, s, ⟨pos, pos + byteLength s.toList⟩⟩] := by
  have hword : isWord s.toList = true := by
    refine isWord_of_head_isDigit hhead fun c hc => ?_
    rcases continuesWord_of_read hhead h hc (hblank c hc) with hword | rfl | rfl
    · exact hword
    · exact absurd hc hplus
    · exact absurd hc hminus
  have hscan : scan .none pos (s.toList ++ []) = _ := scan_isWord hword (by simp [StopsWord])
  rwa [List.append_nil, ofWord, List.reverse_reverse, classify_of_read hhead h,
    String.ofList_toList] at hscan

/-- **A sign that no word has cuts a point of time behind its moment.** -/
theorem scan_of_read_sign {s : String} {d : Timestamp} {sign : Char}
    (hhead : ∃ c ∈ s.toList.head?, c.isDigit = true) (hblank : ∀ c ∈ s.toList, isBlank c = false)
    (h : Timestamp.read s = some d) (hsign : sign = '+' ∨ sign = '−') (hmem : sign ∈ s.toList)
    (pos : Nat) : ∃ moment zone ts, s.toList = moment ++ sign :: zone ∧ IsMoment moment ∧
      scan .none pos s.toList
        = ⟨.int, String.ofList moment, ⟨pos, pos + byteLength moment⟩⟩ :: ts := by
  obtain ⟨moment, zone, hs, hmoment⟩ := Timestamp.isMoment_of_read_sign hhead h hsign hmem
  have hword : isWord moment = true := by
    refine isWord_of_head_isDigit hmoment.exists_head fun c hc => ?_
    rcases hmoment.mem hc with rfl | hclock
    · decide
    · exact continuesWord_of_isClockChar hclock (hblank c (by simp [hs, hc]))
  have hstops : StopsWord (sign :: zone) := by
    intro c hc
    cases hc
    rcases hsign with rfl | rfl <;> decide +kernel
  have hclass : classify moment = .int := by
    have hmoment : IsMoment (String.ofList moment).toList := by rwa [String.toList_ofList]
    rw [← classify_of_isMoment hmoment, String.toList_ofList]
  have hscan := @scan_isWord pos _ _ hword hstops
  rw [← hs, ofWord, List.reverse_reverse, hclass] at hscan
  exact ⟨moment, zone, _, hs, hmoment, hscan⟩

/-! ## Filters -/

/-- The third token of a comparison is its literal. -/
theorem run_tokenize_literal (s : String) : Reader.start.run (tokenize ("f eq " ++ s)) =
    Reader.run ⟨.empty, [], .literal "f" .eq⟩ (scan .none 5 s.toList) := by
  have hscan (cs : List Char) : scan .none 0 ('f' :: ' ' :: cs)
      = ⟨.ident, "f", ⟨0, 1⟩⟩ :: scan .none 2 cs := rfl
  rw [tokenize, String.toList_append]
  change Reader.run _ (scan .none 0 ('f' :: ' ' :: 'e' :: 'q' :: ' ' :: s.toList)) = _
  rw [hscan, Reader.run_cons]
  exact Reader.run_operator_rest .empty [] "f" 2 s.toList

/-- A literal that ends its text is all that is left to read. -/
theorem read_of_literal {s : String} {t : Token} {v : Literal} (hscan : scan .none 5 s.toList = [t])
    (hkind : t.kind.isLiteral = true) (hv : t.literal? = some v) :
    read ("f eq " ++ s) = .ok (.compare "f" .eq v t.text) := by
  have hvalue : comparison "f" .eq t = .ok (.compare "f" .eq v t.text) :=
    comparison_eq_ok_iff.mpr ⟨hkind, by simp, v, hv, rfl⟩
  rw [read, run_tokenize_literal, hscan, Reader.run_cons]
  simp only [Reader.step, hvalue]
  rfl

/-- A literal without a value is refused, whatever stands behind it. -/
theorem read_of_literal?_eq_none {s : String} {t : Token} {ts : List Token}
    (hscan : scan .none 5 s.toList = t :: ts) (hkind : t.kind.isLiteral = true)
    (hnone : t.literal? = none) : read ("f eq " ++ s) = .error ⟨.value, t⟩ := by
  have hvalue : comparison "f" .eq t = .error ⟨.value, t⟩ := by simp [comparison, hkind, hnone]
  rw [read, run_tokenize_literal, hscan, Reader.run_cons]
  simp only [Reader.step, hvalue]
  rfl

/-- **A point of time can be written in a filter unless it has a sign that no word has.**  With such
a sign the filter is refused at the moment in front of it. -/
theorem points_of_time_read_unless_signed {t : String} {d : Timestamp}
    (hhead : ∃ c ∈ t.toList.head?, c.isDigit = true) (hblank : ∀ c ∈ t.toList, isBlank c = false)
    (hread : Timestamp.read t = some d) :
    ('+' ∉ t.toList ∧ '−' ∉ t.toList → read ("f eq " ++ t) = .ok (.compare "f" .eq (.time d) t)) ∧
    ('+' ∈ t.toList ∨ '−' ∈ t.toList → ∃ moment sign zone, t.toList = moment ++ sign :: zone ∧
      (sign = '+' ∨ sign = '−') ∧ read ("f eq " ++ t) = .error
        ⟨.value, ⟨.int, String.ofList moment, ⟨5, 5 + byteLength moment⟩⟩⟩) := by
  constructor
  · rintro ⟨hplus, hminus⟩
    have hscan := scan_of_read hhead hblank hread hplus hminus 5
    exact read_of_literal hscan rfl (by simp [literal?, hread])
  · intro hsigned
    obtain ⟨sign, hsign, hmem⟩ : ∃ sign, (sign = '+' ∨ sign = '−') ∧ sign ∈ t.toList := by
      rcases hsigned with hmem | hmem
      · exact ⟨'+', Or.inl rfl, hmem⟩
      · exact ⟨'−', Or.inr rfl, hmem⟩
    obtain ⟨moment, zone, ts, ht, hmoment, hscan⟩ :=
      scan_of_read_sign hhead hblank hread hsign hmem 5
    have hnone := literal?_of_isMoment (s := String.ofList moment) (by rwa [String.toList_ofList])
    exact ⟨moment, sign, zone, ht, hsign, read_of_literal?_eq_none hscan rfl (hnone _)⟩

/-- A part of a second and an offset to the west are no obstacle. -/
theorem half_second_and_western_offset_read :
    Timestamp.read "1996-12-19T16:39:57.5-08:00" = some ⟨851042397, 500000000⟩ ∧
    read "f eq 1996-12-19T16:39:57.5-08:00" = .ok
      (.compare "f" .eq (.time ⟨851042397, 500000000⟩) "1996-12-19T16:39:57.5-08:00") := by
  have hread : Timestamp.read "1996-12-19T16:39:57.5-08:00" = some ⟨851042397, 500000000⟩ := by
    decide
  have hplain : ∀ c ∈ "1996-12-19T16:39:57.5-08:00".toList, 32 < c.toNat ∧ c.toNat < 128 := by
    simp
  have hblank (c : Char) (hc : c ∈ "1996-12-19T16:39:57.5-08:00".toList) : isBlank c = false :=
    isBlank_of_toNat (hplain c hc).1 (hplain c hc).2
  exact ⟨hread, (points_of_time_read_unless_signed ⟨'1', rfl, rfl⟩ hblank hread).1 (by simp)⟩

/-- An offset to the east is read by itself, and no filter has it. -/
theorem eastern_offset_not_read :
    Timestamp.read "2000-01-01T00:00:00+02:00" = some ⟨946677600, 0⟩ ∧
    read "f eq 2000-01-01T00:00:00+02:00" =
      .error ⟨.value, ⟨.int, "2000-01-01T00:00:00", ⟨5, 24⟩⟩⟩ := by
  constructor
  · decide
  · rfl

end TableQuery.Filter
