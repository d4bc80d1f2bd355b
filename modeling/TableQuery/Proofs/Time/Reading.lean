import TableQuery.Proofs.Number.Reading
import TableQuery.Time.Reading

/-!
# Proofs/Time/Reading — the texts that denote points of time

A text that is read as a timestamp is a **moment** with a **zone** behind it,

    moment   := digit⁴ '-' digit² '-' digit² ( 'T' | 't' | ' ' ) clock fraction
    clock    := digit² ':' digit² ':' digit²
    fraction := empty | '.' digit+
    zone     := 'Z' | 'z' | ( '+' | '-' | '−' ) digit² ':' digit²

and one that is read as a date has digits, hyphens and white space only.  Two characters of a moment
could open a zone, and one of every zone does, so **a moment without its zone denotes nothing**
(`IsMoment.read_eq_none`).
-/

namespace TableQuery.Time

open TableQuery.Text TableQuery.Number

/-! ## Forms -/

/-- A number of exactly `n` digits. -/
def IsNumber (n : Nat) (cs : List Char) : Prop := cs.length = n ∧ IsDigits cs

/-- Hour, minute and second. -/
inductive IsClock : List Char → Prop where
  | mk {hour minute second : List Char} : IsNumber 2 hour → IsNumber 2 minute →
      IsNumber 2 second → IsClock (hour ++ ':' :: (minute ++ ':' :: second))

/-- A part of a second behind its point, or nothing. -/
inductive IsFraction : List Char → Prop where
  | none : IsFraction []
  | some {ds : List Char} : IsDigitRun ds → IsFraction ('.' :: ds)

/-- **A day and a time of day.** -/
inductive IsMoment : List Char → Prop where
  | mk {year month day clock fraction : List Char} {separator : Char} : IsNumber 4 year →
      IsNumber 2 month → IsNumber 2 day → separator ∈ ['T', 't', ' '] → IsClock clock →
      IsFraction fraction →
      IsMoment (year ++ '-' :: (month ++ '-' :: (day ++ separator :: (clock ++ fraction))))

/-- **An offset from UTC**: none at all, or hours and minutes behind a sign. -/
inductive IsZone : List Char → Prop where
  | utc {c : Char} : c ∈ ['Z', 'z'] → IsZone [c]
  | offset {sign : Char} {hour minute : List Char} : sign ∈ ['+', '-', '−'] → IsNumber 2 hour →
      IsNumber 2 minute → IsZone (sign :: (hour ++ ':' :: minute))

/-- **A date that starts with a digit**: its year, and the rest behind a hyphen. -/
inductive IsDay : List Char → Prop where
  | mk {year rest : List Char} : IsDigits year → year.length ≤ 4 →
      (∀ c ∈ rest, c.isDigit = true ∨ c = '-' ∨ isBlank c = true) → IsDay (year ++ '-' :: rest)

/-! ## What is read has its form -/

theorem eq_cons_of_expectChar {c : Char} {cs rest : List Char} (h : expectChar c cs = some rest) :
    cs = c :: rest := by
  cases cs with
  | nil => cases h
  | cons d cs =>
    simp only [expectChar, Option.ite_none_right_eq_some, Option.some.injEq] at h
    rw [h.1, h.2]

theorem isNumber_of_fixedDigits {n v : Nat} {cs rest : List Char}
    (h : fixedDigits n cs = some (v, rest)) : ∃ ds, cs = ds ++ rest ∧ IsNumber n ds := by
  simp only [fixedDigits, Option.ite_none_right_eq_some, Option.some.injEq, Prod.mk.injEq,
    List.all_eq_true] at h
  obtain ⟨⟨hlength, hdigits⟩, -, hrest⟩ := h
  exact ⟨cs.take n, by rw [← hrest, List.take_append_drop], hlength, hdigits⟩

theorem isDigits_of_upToDigits {n v : Nat} {cs rest : List Char}
    (h : upToDigits n cs = some (v, rest)) :
    ∃ ds, cs = ds ++ rest ∧ IsDigits ds ∧ ds.length ≤ n := by
  simp only [upToDigits, Option.ite_none_left_eq_some, Option.some.injEq, Prod.mk.injEq] at h
  obtain ⟨-, -, hrest⟩ := h
  have hfront := List.takeWhile_prefix (l := cs.take n) Char.isDigit
  refine ⟨(cs.take n).takeWhile Char.isDigit, ?_, List.all_eq_true.mp List.all_takeWhile,
    Nat.le_trans hfront.length_le (List.length_take_le n cs)⟩
  rw [← hrest]
  exact List.prefix_iff_eq_append.mp (hfront.trans (List.take_prefix n cs)) |>.symm

theorem isClock_of_readClock {v : Nat × Nat} {cs rest : List Char}
    (h : readClock cs = some (v, rest)) : ∃ clock, cs = clock ++ rest ∧ IsClock clock := by
  simp only [readClock, Option.bind_eq_bind, Option.bind_eq_some_iff] at h
  obtain ⟨⟨_, cs₁⟩, h₁, cs₂, h₂, ⟨_, cs₃⟩, h₃, cs₄, h₄, ⟨_, cs₅⟩, h₅, h⟩ := h
  simp only [Option.ite_none_right_eq_some, Option.some.injEq, Prod.mk.injEq] at h
  obtain ⟨-, -, rfl⟩ := h
  obtain ⟨hour, rfl, hhour⟩ := isNumber_of_fixedDigits h₁
  obtain rfl := eq_cons_of_expectChar h₂
  obtain ⟨minute, rfl, hminute⟩ := isNumber_of_fixedDigits h₃
  obtain rfl := eq_cons_of_expectChar h₄
  obtain ⟨second, rfl, hsecond⟩ := isNumber_of_fixedDigits h₅
  exact ⟨_, by simp, .mk hhour hminute hsecond⟩

theorem isFraction_of_readFraction {v : Nat} {cs rest : List Char}
    (h : readFraction cs = some (v, rest)) :
    ∃ fraction, cs = fraction ++ rest ∧ IsFraction fraction := by
  unfold readFraction at h
  split at h
  · rename_i cs
    obtain ⟨ds, behind, rfl, hds, hbehind⟩ := exists_digits_append cs
    simp only [spanDigits_append hds hbehind, Option.ite_none_left_eq_some, Option.some.injEq,
      Prod.mk.injEq] at h
    obtain ⟨hne, -, rfl⟩ := h
    exact ⟨_, rfl, .some ⟨by simpa using hne, hds⟩⟩
  · cases h
    exact ⟨[], rfl, .none⟩

theorem isSeparator_of_readSeparator {cs rest : List Char} (h : readSeparator cs = some rest) :
    ∃ separator ∈ ['T', 't', ' '], cs = separator :: rest := by
  unfold readSeparator at h
  split at h <;> cases h
  · exact ⟨'T', by simp, rfl⟩
  · exact ⟨'t', by simp, rfl⟩
  · exact ⟨' ', by simp, rfl⟩

theorem isNumber_of_readOffsetBody {v : Nat} {cs rest : List Char}
    (h : readOffsetBody cs = some (v, rest)) : ∃ hour minute,
      cs = hour ++ ':' :: (minute ++ rest) ∧ IsNumber 2 hour ∧ IsNumber 2 minute := by
  simp only [readOffsetBody, Option.bind_eq_bind, Option.bind_eq_some_iff] at h
  obtain ⟨⟨_, cs₁⟩, h₁, cs₂, h₂, ⟨_, cs₃⟩, h₃, h⟩ := h
  simp only [Option.ite_none_right_eq_some, Option.some.injEq, Prod.mk.injEq] at h
  obtain ⟨-, -, rfl⟩ := h
  obtain ⟨hour, rfl, hhour⟩ := isNumber_of_fixedDigits h₁
  obtain rfl := eq_cons_of_expectChar h₂
  obtain ⟨minute, rfl, hminute⟩ := isNumber_of_fixedDigits h₃
  exact ⟨hour, minute, rfl, hhour, hminute⟩

theorem isZone_of_readOffset {v : Int} {cs rest : List Char}
    (h : readOffset cs = some (v, rest)) : ∃ zone, cs = zone ++ rest ∧ IsZone zone := by
  have hsigned {sign : Char} {f : Nat × List Char → Int × List Char} {cs : List Char}
      (hsign : sign ∈ ['+', '-', '−']) (hf : ∀ p, (f p).2 = p.2)
      (h : (readOffsetBody cs).map f = some (v, rest)) :
      ∃ zone, sign :: cs = zone ++ rest ∧ IsZone zone := by
    obtain ⟨⟨n, behind⟩, hbody, hv⟩ := Option.map_eq_some_iff.mp h
    obtain rfl : rest = behind := by simpa [hv] using hf (n, behind)
    obtain ⟨hour, minute, rfl, hhour, hminute⟩ := isNumber_of_readOffsetBody hbody
    exact ⟨_, by simp, .offset hsign hhour hminute⟩
  unfold readOffset at h
  split at h
  · cases h
    exact ⟨['Z'], rfl, .utc (by simp)⟩
  · cases h
    exact ⟨['z'], rfl, .utc (by simp)⟩
  · exact hsigned (by simp) (fun _ => rfl) h
  · exact hsigned (by simp) (fun _ => rfl) h
  · exact hsigned (by simp) (fun _ => rfl) h
  · cases h

/-- **A timestamp is a moment with a zone behind it.** -/
theorem isMoment_of_readTimestamp {cs : List Char} {t : Timestamp} (h : readTimestamp cs = some t) :
    ∃ moment zone, cs = moment ++ zone ∧ IsMoment moment ∧ IsZone zone := by
  simp only [readTimestamp, Option.bind_eq_bind, Option.bind_eq_some_iff] at h
  obtain ⟨⟨_, cs₁⟩, h₁, cs₂, h₂, ⟨_, cs₃⟩, h₃, cs₄, h₄, ⟨_, cs₅⟩, h₅, cs₆, h₆, ⟨_, cs₇⟩, h₇,
    ⟨_, cs₈⟩, h₈, ⟨_, cs₉⟩, h₉, date, -, h⟩ := h
  simp only [Option.ite_none_right_eq_some, List.isEmpty_iff] at h
  obtain ⟨rfl, -⟩ := h
  obtain ⟨year, rfl, hyear⟩ := isNumber_of_fixedDigits h₁
  obtain rfl := eq_cons_of_expectChar h₂
  obtain ⟨month, rfl, hmonth⟩ := isNumber_of_fixedDigits h₃
  obtain rfl := eq_cons_of_expectChar h₄
  obtain ⟨day, rfl, hday⟩ := isNumber_of_fixedDigits h₅
  obtain ⟨separator, hmem, rfl⟩ := isSeparator_of_readSeparator h₆
  obtain ⟨clock, rfl, hclock⟩ := isClock_of_readClock h₇
  obtain ⟨fraction, rfl, hfraction⟩ := isFraction_of_readFraction h₈
  obtain ⟨zone, rfl, hzone⟩ := isZone_of_readOffset h₉
  exact ⟨_, zone, by simp, .mk hyear hmonth hday hmem hclock hfraction, hzone⟩

theorem isBlank_of_toNat {c : Char} (hlo : 32 < c.toNat) (hhi : c.toNat < 128) :
    isBlank c = false := by
  have htab : ¬ c.toNat ≤ 13 := by omega
  have hspace : ¬ c.toNat ≤ 32 := by omega
  have hnext : c.toNat < 133 := by omega
  simp [isBlank, blankRanges, inRanges, htab, hspace, hnext]

theorem isBlank_of_isDigit {c : Char} (h : c.isDigit = true) : isBlank c = false := by
  simp only [Char.isDigit, Bool.and_eq_true, decide_eq_true_eq, UInt32.le_iff_toNat_le,
    ge_iff_le] at h
  have hzero : 32 < '0'.val.toNat := by decide
  have hnine : '9'.val.toNat < 128 := by decide
  exact isBlank_of_toNat (Nat.lt_of_lt_of_le hzero h.1) (Nat.lt_of_le_of_lt h.2 hnine)

/-- What `trimStart` takes away is white space. -/
theorem exists_blanks_append (cs : List Char) :
    ∃ blanks, cs = blanks ++ trimStart cs ∧ ∀ c ∈ blanks, isBlank c = true :=
  ⟨cs.takeWhile isBlank, List.takeWhile_append_dropWhile.symm,
    List.all_eq_true.mp List.all_takeWhile⟩

/-- **A date has digits, hyphens and white space only**, if it starts with a digit. -/
theorem isDay_of_readDate {cs : List Char} {d : Date} (hhead : ∃ c ∈ cs.head?, c.isDigit = true)
    (h : readDate cs = some d) : IsDay cs := by
  obtain ⟨c, hc, hdigit⟩ := hhead
  obtain ⟨behind, hcs⟩ := List.head?_eq_some_iff.mp hc
  have hstart : trimStart cs = cs := by
    simp [hcs, trimStart, isBlank_of_isDigit hdigit]
  have hyear : readYear cs = (upToDigits 4 cs).map fun p => ((p.1 : Int), p.2) := by
    unfold readYear
    split
    · cases hcs
      cases hdigit
    · cases hcs
      cases hdigit
    · rfl
  clear hcs
  simp only [readDate, Option.bind_eq_bind, Option.bind_eq_some_iff, hstart, hyear,
    Option.map_eq_some_iff] at h
  obtain ⟨⟨_, cs₁⟩, ⟨⟨_, _⟩, h₁, heq⟩, cs₂, h₂, ⟨_, cs₃⟩, h₃, cs₄, h₄, ⟨_, cs₅⟩, h₅, h⟩ := h
  cases heq
  simp only [Option.ite_none_right_eq_some, List.isEmpty_iff] at h
  obtain ⟨rfl, -⟩ := h
  obtain ⟨year, rfl, hdigits, hlength⟩ := isDigits_of_upToDigits h₁
  obtain rfl := eq_cons_of_expectChar h₂
  obtain ⟨blanks, hblanks, hblank⟩ := exists_blanks_append cs₂
  obtain ⟨month, hmonth, hmonthDigits, -⟩ := isDigits_of_upToDigits h₃
  obtain rfl := eq_cons_of_expectChar h₄
  obtain ⟨blanks', hblanks', hblank'⟩ := exists_blanks_append cs₄
  obtain ⟨day, hday, hdayDigits, -⟩ := isDigits_of_upToDigits h₅
  refine .mk hdigits hlength ?_
  rw [hblanks, hmonth, hblanks', hday]
  simp only [List.mem_append, List.mem_cons, List.not_mem_nil, or_false]
  rintro c (hc | hc | rfl | hc | hc)
  · exact Or.inr (Or.inr (hblank c hc))
  · exact Or.inl (hmonthDigits c hc)
  · exact Or.inr (Or.inl rfl)
  · exact Or.inr (Or.inr (hblank' c hc))
  · exact Or.inl (hdayDigits c hc)

/-- **The two forms of a point of time** that starts with a digit. -/
theorem Timestamp.form_of_read {s : String} {t : Timestamp}
    (hhead : ∃ c ∈ s.toList.head?, c.isDigit = true) (h : read s = some t) :
    (∃ moment zone, s.toList = moment ++ zone ∧ IsMoment moment ∧ IsZone zone) ∨
      IsDay s.toList := by
  cases hfull : readTimestamp s.toList with
  | some t' => exact Or.inl (isMoment_of_readTimestamp hfull)
  | none =>
    rw [read, hfull] at h
    obtain ⟨d, hd, -⟩ := Option.map_eq_some_iff.mp h
    exact Or.inr (isDay_of_readDate hhead hd)

/-! ## Characters of the forms -/

/-- The characters of a moment behind its month. -/
def IsClockChar (c : Char) : Prop := c.isDigit = true ∨ c ∈ [':', '.', 'T', 't', ' ']

instance (c : Char) : Decidable (IsClockChar c) :=
  inferInstanceAs (Decidable (c.isDigit = true ∨ c ∈ [':', '.', 'T', 't', ' ']))

/-- A text of such characters. -/
def IsClockText (cs : List Char) : Prop := ∀ c ∈ cs, IsClockChar c

theorem isClockText_of_isDigits {ds : List Char} (h : IsDigits ds) : IsClockText ds :=
  fun c hc => Or.inl (h c hc)

theorem isClockText_append {cs ds : List Char} :
    IsClockText (cs ++ ds) ↔ IsClockText cs ∧ IsClockText ds :=
  List.forall_mem_append

theorem isClockText_cons {c : Char} {cs : List Char} (h : c ∈ [':', '.', 'T', 't', ' ']) :
    IsClockText (c :: cs) ↔ IsClockText cs :=
  List.forall_mem_cons.trans (and_iff_right (Or.inr h))

theorem IsClock.isClockText {cs : List Char} (h : IsClock cs) : IsClockText cs := by
  obtain ⟨hhour, hminute, hsecond⟩ := h
  simp only [isClockText_append, isClockText_cons List.mem_cons_self]
  exact ⟨isClockText_of_isDigits hhour.2, isClockText_of_isDigits hminute.2,
    isClockText_of_isDigits hsecond.2⟩

theorem IsFraction.isClockText {cs : List Char} (h : IsFraction cs) : IsClockText cs := by
  cases h with
  | none => exact List.forall_mem_nil _
  | some hds => exact (isClockText_cons (by simp)).mpr (isClockText_of_isDigits hds.2)

/-- **A moment has two hyphens**, with digits in front of them, and a colon behind them. -/
theorem IsMoment.exists_hyphens {cs : List Char} (h : IsMoment cs) :
    ∃ year month rest, cs = year ++ '-' :: (month ++ '-' :: rest) ∧ IsNumber 4 year ∧
      IsNumber 2 month ∧ IsClockText rest ∧ ':' ∈ rest := by
  cases h with
  | @mk year month day clock fraction separator hyear hmonth hday hseparator hclock hfraction =>
    refine ⟨year, month, _, rfl, hyear, hmonth, ?_, ?_⟩
    · rw [isClockText_append, isClockText_cons, isClockText_append]
      · exact ⟨isClockText_of_isDigits hday.2, hclock.isClockText, hfraction.isClockText⟩
      · simp only [List.mem_cons] at hseparator ⊢
        exact Or.inr (Or.inr hseparator)
    · cases hclock
      simp

theorem IsMoment.mem {cs : List Char} (h : IsMoment cs) {c : Char} (hc : c ∈ cs) :
    c = '-' ∨ IsClockChar c := by
  obtain ⟨year, month, rest, rfl, hyear, hmonth, hrest, -⟩ := h.exists_hyphens
  simp only [List.mem_append, List.mem_cons] at hc
  rcases hc with hc | rfl | hc | rfl | hc
  · exact Or.inr (Or.inl (hyear.2 c hc))
  · exact Or.inl rfl
  · exact Or.inr (Or.inl (hmonth.2 c hc))
  · exact Or.inl rfl
  · exact Or.inr (hrest c hc)

theorem IsDay.mem {cs : List Char} (h : IsDay cs) {c : Char} (hc : c ∈ cs) :
    c.isDigit = true ∨ c = '-' ∨ isBlank c = true := by
  obtain ⟨hyear, -, hrest⟩ := h
  simp only [List.mem_append, List.mem_cons] at hc
  rcases hc with hc | rfl | hc
  · exact Or.inl (hyear c hc)
  · exact Or.inr (Or.inl rfl)
  · exact hrest c hc

/-- The characters of a zone behind its first. -/
theorem IsZone.isClockText_tail {cs : List Char} (h : IsZone cs) : IsClockText cs.tail := by
  cases h with
  | utc => exact List.forall_mem_nil _
  | offset _ hhour hminute =>
    rw [List.tail_cons, isClockText_append, isClockText_cons List.mem_cons_self]
    exact ⟨isClockText_of_isDigits hhour.2, isClockText_of_isDigits hminute.2⟩

/-- The characters that can open a zone. -/
def opensZone (c : Char) : Bool := ['Z', 'z', '+', '-', '−'].contains c

theorem IsClockText.countP_opensZone {cs : List Char} (h : IsClockText cs) :
    cs.countP opensZone = 0 := by
  refine List.countP_eq_zero.mpr fun c hc hopens => ?_
  have hclock := h c hc
  simp only [opensZone, List.contains_iff_mem, List.mem_cons, List.not_mem_nil, or_false] at hopens
  rcases hopens with rfl | rfl | rfl | rfl | rfl <;> exact absurd hclock (by decide)

theorem IsMoment.countP_opensZone {cs : List Char} (h : IsMoment cs) : cs.countP opensZone = 2 := by
  obtain ⟨year, month, rest, rfl, hyear, hmonth, hrest, -⟩ := h.exists_hyphens
  have hhyphen : opensZone '-' = true := by decide
  rw [List.countP_append, List.countP_cons_of_pos hhyphen, List.countP_append,
    List.countP_cons_of_pos hhyphen, (isClockText_of_isDigits hyear.2).countP_opensZone,
    (isClockText_of_isDigits hmonth.2).countP_opensZone, hrest.countP_opensZone]

theorem IsZone.exists_cons {cs : List Char} (h : IsZone cs) :
    ∃ c rest, cs = c :: rest ∧ opensZone c = true := by
  cases h with
  | utc hc =>
    exact ⟨_, _, rfl, List.contains_iff_mem.mpr (List.mem_append_left ['+', '-', '−'] hc)⟩
  | offset hsign =>
    exact ⟨_, _, rfl, List.contains_iff_mem.mpr (List.mem_append_right ['Z', 'z'] hsign)⟩

theorem IsZone.countP_opensZone {cs : List Char} (h : IsZone cs) : cs.countP opensZone = 1 := by
  obtain ⟨c, rest, rfl, hc⟩ := h.exists_cons
  have htail : rest.countP opensZone = 0 := h.isClockText_tail.countP_opensZone
  rw [List.countP_cons_of_pos hc, htail]

theorem IsMoment.exists_head {cs : List Char} (h : IsMoment cs) :
    ∃ c ∈ cs.head?, c.isDigit = true := by
  obtain ⟨year, month, rest, rfl, hyear, -⟩ := h.exists_hyphens
  cases year with
  | nil => cases hyear.1
  | cons c year => exact ⟨c, rfl, hyear.2 c List.mem_cons_self⟩

/-- **A moment without its zone denotes nothing.** -/
theorem IsMoment.read_eq_none {s : String} (h : IsMoment s.toList) : Timestamp.read s = none := by
  obtain ⟨year, month, rest, hs, -, -, -, hcolon⟩ := h.exists_hyphens
  refine Option.eq_none_iff_forall_ne_some.mpr fun t ht => ?_
  rcases Timestamp.form_of_read h.exists_head ht with ⟨moment, zone, hs', hmoment, hzone⟩ | hday
  · -- The hyphens of the date are the only characters that could open a zone, and they are not
    -- enough for another moment with its zone.
    have hcount := h.countP_opensZone
    rw [hs', List.countP_append, hmoment.countP_opensZone, hzone.countP_opensZone] at hcount
    cases hcount
  · have hform := hday.mem (c := ':') (by simp [hs, hcolon])
    simp [isBlank, blankRanges, inRanges] at hform

/-- **What has a sign other than a hyphen is a moment in front of it.** -/
theorem Timestamp.isMoment_of_read_sign {s : String} {t : Timestamp} {sign : Char}
    (hhead : ∃ c ∈ s.toList.head?, c.isDigit = true) (h : read s = some t)
    (hsign : sign = '+' ∨ sign = '−') (hmem : sign ∈ s.toList) :
    ∃ moment zone, s.toList = moment ++ sign :: zone ∧ IsMoment moment := by
  have hclock : ¬ IsClockChar sign := by rcases hsign with rfl | rfl <;> decide
  have hhyphen : sign ≠ '-' := by rcases hsign with rfl | rfl <;> decide
  have hblank : isBlank sign = false := by rcases hsign with rfl | rfl <;> decide
  rcases form_of_read hhead h with ⟨moment, zone, hs, hmoment, hzone⟩ | hday
  · obtain ⟨c, rest, rfl, -⟩ := hzone.exists_cons
    rw [hs, List.mem_append, List.mem_cons] at hmem
    rcases hmem with hmem | rfl | hmem
    · exact absurd ((hmoment.mem hmem).resolve_left hhyphen) hclock
    · exact ⟨moment, rest, hs, hmoment⟩
    · exact absurd (hzone.isClockText_tail sign hmem) hclock
  · rcases hday.mem hmem with hdigit | rfl | hform
    · exact absurd (Or.inl hdigit) hclock
    · exact absurd rfl hhyphen
    · cases hblank.symm.trans hform

/-- **A hyphen stands behind the year**, no later than at the fifth place. -/
theorem Timestamp.exists_hyphen_of_read {s : String} {t : Timestamp}
    (hhead : ∃ c ∈ s.toList.head?, c.isDigit = true) (h : read s = some t) :
    ∃ year rest, s.toList = year ++ '-' :: rest ∧ year.length ≤ 4 := by
  rcases form_of_read hhead h with ⟨moment, zone, hs, hmoment, -⟩ | hday
  · obtain ⟨year, month, rest, rfl, hyear, -⟩ := hmoment.exists_hyphens
    exact ⟨year, _, by rw [hs, List.append_assoc, List.cons_append], Nat.le_of_eq hyear.1⟩
  · generalize s.toList = cs at hday
    obtain ⟨-, hlength, -⟩ := hday
    exact ⟨_, _, rfl, hlength⟩

end TableQuery.Time
