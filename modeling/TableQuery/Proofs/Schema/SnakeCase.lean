import Mathlib
import TableQuery.Schema.SnakeCase

/-!
# Proofs/Schema/SnakeCase — a column name is the property name, lowered and separated

A column name is written from behind what is written already.  Read from front to end it is the
characters of the property name, each **lowered**, with a **separator** in front of those that begin
a part of the name (`toList_snakeCase`).  The writer looks at the end of what it has written before
it writes an underscore; that look never stops it, since an underscore is written last only for an
underscore of the name, behind which no part begins.

So a column name differs from its property name in the case of letters and in underscores that are
added, and none is added beside an underscore or at an end.
-/

namespace TableQuery

open TableQuery.Text

namespace SnakeCase

/-! ## Lower case forms -/

/-- The mapping to lower case leads to no code point up to the underscore. -/
theorem underscore_lt_shifted :
    ∀ run ∈ lowercaseShifts, '_'.toNat < (run.1 : ℤ) + run.2.2.2 := by
  decide +kernel

theorem exists_run_of_shiftOf {runs : List (ℕ × ℕ × ℕ × ℤ)} {n : ℕ} {d : ℤ}
    (h : shiftOf runs n = some d) : ∃ run ∈ runs, run.1 ≤ n ∧ run.2.2.2 = d := by
  induction runs with
  | nil => cases h
  | cons run runs ih =>
    obtain ⟨lo, hi, step, d'⟩ := run
    rw [shiftOf] at h
    split_ifs at h with hlo hhi
    · exact ⟨_, List.mem_cons_self, not_lt.mp hlo, Option.some.inj h⟩
    · obtain ⟨run, hrun, hle⟩ := ih h
      exact ⟨run, List.mem_cons_of_mem _ hrun, hle⟩

theorem ofNat_ne_underscore {n : ℕ} (h : '_'.toNat < n) : Char.ofNat n ≠ '_' := by
  intro heq
  have hcode : (Char.ofNat n).toNat = '_'.toNat := congrArg Char.toNat heq
  rw [Char.toNat_ofNat] at hcode
  split_ifs at hcode
  · omega
  · exact absurd hcode (by decide)

theorem toLower_eq_underscore {c : Char} (h : c.toLower = '_') : c = '_' := by
  by_cases hc : c.isUpper = true
  · -- A capital becomes a small letter, which an underscore is not.
    have halpha : c.toLower.isLower = true := by simp [Char.isAlpha, hc]
    rw [h] at halpha
    exact absurd halpha (by decide)
  · rw [← h, Char.toLower_eq_of_not_isUpper hc]

/-- **No lower case form holds an underscore**, but for the underscore itself. -/
theorem eq_underscore_of_mem_lowercase {c : Char} (h : '_' ∈ lowercase c) : c = '_' := by
  unfold lowercase at h
  split_ifs at h
  · exact toLower_eq_underscore (List.mem_singleton.mp h).symm
  · exact absurd h (by decide)
  · split at h
    · rename_i d hd
      obtain ⟨run, hrun, hle, rfl⟩ := exists_run_of_shiftOf hd
      have hlt := underscore_lt_shifted run hrun
      exact absurd (List.mem_singleton.mp h).symm (ofNat_ne_underscore (by omega))
    · exact (List.mem_singleton.mp h).symm

theorem lowercase_ne_nil (c : Char) : lowercase c ≠ [] := by
  unfold lowercase
  split_ifs
  · exact List.cons_ne_nil _ _
  · exact List.cons_ne_nil _ _
  · split <;> exact List.cons_ne_nil _ _

/-! ## From front to end -/

/-- What a character of the name becomes. -/
def lowered (c : Char) : List Char := if isUppercase c then lowercase c else [c]

/-- What stands in front of a character: an underscore if it is a capital that begins a part. -/
def separator (before : Option Char) (c : Char) (after : Option Char) : List Char :=
  if isUppercase c && beginsPart before after then ['_'] else []

/-- **The column name of the rest of a name behind a character**, from front to end. -/
def separated : Option Char → List Char → List Char
  | _, [] => []
  | before, c :: cs => separator before c cs.head? ++ lowered c ++ separated (some c) cs

theorem lowered_ne_nil (c : Char) : lowered c ≠ [] := by
  unfold lowered
  split_ifs
  · exact lowercase_ne_nil c
  · exact List.cons_ne_nil _ _

theorem eq_underscore_of_mem_lowered {c : Char} (h : '_' ∈ lowered c) : c = '_' := by
  unfold lowered at h
  split_ifs at h
  · exact eq_underscore_of_mem_lowercase h
  · exact (List.mem_singleton.mp h).symm

theorem eq_underscore_of_getLast? {xs : List Char} {c : Char}
    (h : (xs ++ lowered c).getLast? = some '_') : c = '_' := by
  rw [List.getLast?_append_of_ne_nil _ (lowered_ne_nil c)] at h
  exact eq_underscore_of_mem_lowered (List.mem_of_mem_getLast? h)

theorem lowered_underscore : lowered '_' = ['_'] := by decide

theorem separator_cases (before : Option Char) (c : Char) (after : Option Char) :
    separator before c after = [] ∨
      separator before c after = ['_'] ∧ isUppercase c = true ∧ beginsPart before after = true := by
  unfold separator
  split_ifs with h
  · exact Or.inr ⟨rfl, Bool.and_eq_true_iff.mp h⟩
  · exact Or.inl rfl

/-- No part begins behind an underscore. -/
theorem beginsPart_underscore (after : Option Char) : beginsPart (some '_') after = false := by
  have hclasses : isLowercase '_' = false ∧ '_'.isDigit = false ∧ isUppercase '_' = false := by
    decide
  simp [beginsPart, hclasses]

theorem separator_of_not_beginsPart {before after : Option Char}
    (h : beginsPart before after = false) (c : Char) : separator before c after = [] := by
  simp [separator, h]

/-- **One character is written without a look at the end of what is written**, if an underscore
stands there only behind an underscore of the name. -/
theorem write_eq {before : Option Char} {rev : List Char}
    (h : rev.head? = some '_' → before = some '_') (c : Char) (after : Option Char) :
    write before c after rev = (separator before c after ++ lowered c).reverse ++ rev := by
  cases hc : isUppercase c with
  | false => simp [write, separator, lowered, hc]
  | true =>
    by_cases hbegins : beginsPart before after = true
    · have hlast : rev.head? ≠ some '_' := by
        intro hlast
        rw [h hlast, beginsPart_underscore] at hbegins
        cases hbegins
      simp [write, separator, lowered, hc, hbegins, hlast]
    · simp [write, separator, lowered, hc, hbegins]

/-- An underscore is written last only for an underscore of the name. -/
theorem head?_written {before after : Option Char} {c : Char} {rev : List Char}
    (h : ((separator before c after ++ lowered c).reverse ++ rev).head? = some '_') : c = '_' := by
  have hne : (separator before c after ++ lowered c).reverse ≠ [] := by simp [lowered_ne_nil]
  rw [List.head?_append_of_ne_nil _ hne, List.head?_reverse] at h
  exact eq_underscore_of_getLast? h

theorem go_eq {before : Option Char} {cs rev : List Char}
    (h : rev.head? = some '_' → before = some '_') :
    go before cs rev = (separated before cs).reverse ++ rev := by
  induction cs generalizing before rev with
  | nil => rfl
  | cons c cs ih =>
    rw [go, write_eq h, ih fun hlast => congrArg some (head?_written hlast), separated]
    simp only [List.reverse_append, List.append_assoc]

/-- **The column name, from front to end.** -/
theorem toList_snakeCase (name : String) :
    (snakeCase name).toList = separated none name.toList := by
  rw [snakeCase, String.toList_ofList, go_eq (by simp), List.append_nil, List.reverse_reverse]

/-! ## Underscores -/

/-- **All that is added is underscores.** -/
theorem filter_separated (before : Option Char) (cs : List Char) :
    (separated before cs).filter (· ≠ '_') = (cs.flatMap lowered).filter (· ≠ '_') := by
  induction cs generalizing before with
  | nil => rfl
  | cons c cs ih =>
    have hseparator : (separator before c cs.head?).filter (· ≠ '_') = [] := by
      obtain h | ⟨h, -, -⟩ := separator_cases before c cs.head? <;> rw [h] <;> rfl
    rw [separated, List.filter_append, List.filter_append, hseparator, List.nil_append, ih,
      List.flatMap_cons, List.filter_append]

/-- **Nothing is left out.** -/
theorem sublist_separated (before : Option Char) (cs : List Char) :
    (cs.flatMap lowered).Sublist (separated before cs) := by
  induction cs generalizing before with
  | nil => exact .slnil
  | cons c cs ih =>
    rw [List.flatMap_cons, separated]
    exact (List.sublist_append_right _ _).append (ih (some c))

/-- Where no part begins, an underscore comes first only if it does in the name. -/
theorem head?_separated {before : Option Char} (h : ∀ after, beginsPart before after = false)
    {cs : List Char} (hhead : (separated before cs).head? = some '_') : cs.head? = some '_' := by
  cases cs with
  | nil => cases hhead
  | cons c cs =>
    rw [separated, separator_of_not_beginsPart (h _), List.nil_append,
      List.head?_append_of_ne_nil _ (lowered_ne_nil c)] at hhead
    rw [List.head?_cons, eq_underscore_of_mem_lowered (List.mem_of_mem_head? hhead)]

theorem separated_ne_nil (before : Option Char) (c : Char) (cs : List Char) :
    separated before (c :: cs) ≠ [] := by
  simp [separated, lowered_ne_nil]

/-- An underscore comes last only if it does in the name. -/
theorem getLast?_separated {before : Option Char} {cs : List Char}
    (h : (separated before cs).getLast? = some '_') : cs.getLast? = some '_' := by
  induction cs generalizing before with
  | nil => cases h
  | cons c cs ih =>
    rw [separated] at h
    cases cs with
    | nil =>
      rw [separated, List.append_nil] at h
      rw [eq_underscore_of_getLast? h]
      rfl
    | cons d cs =>
      rw [List.getLast?_append_of_ne_nil _ (separated_ne_nil _ d cs)] at h
      rw [List.getLast?_cons_cons]
      exact ih h

/-- Two characters that are not both underscores. -/
def Apart (c d : Char) : Prop := ¬ (c = '_' ∧ d = '_')

theorem infix_iff_not_isChain {cs : List Char} : ['_', '_'] <:+: cs ↔ ¬ cs.IsChain Apart := by
  rw [List.isChain_iff_forall_rel_of_append_cons_cons]
  constructor
  · rintro ⟨front, rest, rfl⟩ h
    exact h (by rw [List.append_assoc]; rfl) ⟨rfl, rfl⟩
  · intro h
    push Not at h
    obtain ⟨c, d, front, rest, rfl, hcd⟩ := h
    obtain ⟨rfl, rfl⟩ := not_not.mp hcd
    exact ⟨front, rest, by simp⟩

theorem isChain_of_not_mem {cs : List Char} (h : '_' ∉ cs) : cs.IsChain Apart := by
  rw [← not_not (a := cs.IsChain Apart), ← infix_iff_not_isChain]
  exact fun hpair => h (hpair.subset (by simp))

theorem isChain_separator_append_lowered (before : Option Char) (c : Char) (after : Option Char) :
    (separator before c after ++ lowered c).IsChain Apart := by
  by_cases hc : c = '_'
  · subst hc
    obtain h | ⟨-, hupper, -⟩ := separator_cases before '_' after
    · rw [h, List.nil_append, lowered_underscore]
      exact .singleton _
    · exact absurd hupper (by decide)
  · have hlowered : '_' ∉ lowered c := fun h => hc (eq_underscore_of_mem_lowered h)
    obtain h | ⟨h, -, -⟩ := separator_cases before c after
    · rw [h, List.nil_append]
      exact isChain_of_not_mem hlowered
    · rw [h, List.singleton_append, List.isChain_cons]
      refine ⟨?_, isChain_of_not_mem hlowered⟩
      rintro d hd ⟨-, rfl⟩
      exact hlowered (List.mem_of_mem_head? hd)

/-- **No underscore is written beside another**, if none stands beside another in the name. -/
theorem isChain_separated (before : Option Char) {cs : List Char} (h : cs.IsChain Apart) :
    (separated before cs).IsChain Apart := by
  induction cs generalizing before with
  | nil => exact .nil
  | cons c cs ih =>
    rw [List.isChain_cons] at h
    rw [separated]
    refine (isChain_separator_append_lowered before c _).append (ih (some c) h.2) ?_
    -- At the seam two underscores would be two of the name: nothing is added behind one.
    rintro x hx y hy ⟨rfl, rfl⟩
    obtain rfl := eq_underscore_of_getLast? hx
    exact h.1 '_' (head?_separated beginsPart_underscore hy) ⟨rfl, rfl⟩

/-! ## ASCII names -/

theorem not_isUppercase_toLower {c : Char} (h : c.toNat < 128) : isUppercase c.toLower = false := by
  have hall : ∀ n < 128, isUppercase (Char.ofNat n).toLower = false := by decide
  simpa only [Char.ofNat_toNat] using hall c.toNat h

theorem not_isUppercase_of_mem_lowered {c d : Char} (hc : c.toNat < 128) (h : d ∈ lowered c) :
    isUppercase d = false := by
  unfold lowered at h
  split_ifs at h with hupper
  · rw [lowercase, if_pos hc] at h
    rw [List.mem_singleton.mp h]
    exact not_isUppercase_toLower hc
  · rw [List.mem_singleton.mp h]
    exact Bool.eq_false_iff.mpr hupper

theorem not_isUppercase_of_mem_separated {before : Option Char} {cs : List Char}
    (hcs : ∀ c ∈ cs, c.toNat < 128) :
    ∀ d ∈ separated before cs, isUppercase d = false := by
  induction cs generalizing before with
  | nil => exact List.forall_mem_nil _
  | cons c cs ih =>
    rw [List.forall_mem_cons] at hcs
    rw [separated, List.forall_mem_append, List.forall_mem_append]
    refine ⟨⟨?_, fun d hd => not_isUppercase_of_mem_lowered hcs.1 hd⟩, ih hcs.2⟩
    obtain h | ⟨h, -, -⟩ := separator_cases before c cs.head? <;> rw [h]
    · exact List.forall_mem_nil _
    · exact List.forall_mem_singleton.mpr (by decide)

/-- A name without capitals stays as it is. -/
theorem separated_eq_self {before : Option Char} {cs : List Char}
    (h : ∀ c ∈ cs, isUppercase c = false) : separated before cs = cs := by
  induction cs generalizing before with
  | nil => rfl
  | cons c cs ih =>
    rw [List.forall_mem_cons] at h
    rw [separated, ih h.2, separator, lowered, h.1]
    rfl

end SnakeCase

open SnakeCase

/-- **A column name is its property name, lowered and separated.**  Every character of the name is
there, capitals in their lower case form, and all else is underscores.  Two of these stand side by
side only if two do in the name, and one stands at an end only if one does in the name.  Out of an
ASCII name no capital is left, so the column name itself would not be changed again. -/
theorem snakeCase_lowers_and_separates (name : String) :
    (name.toList.flatMap lowered).Sublist (snakeCase name).toList ∧
    (snakeCase name).toList.filter (· ≠ '_') = (name.toList.flatMap lowered).filter (· ≠ '_') ∧
    (¬ ['_', '_'] <:+: name.toList → ¬ ['_', '_'] <:+: (snakeCase name).toList) ∧
    ((snakeCase name).toList.head? = some '_' → name.toList.head? = some '_') ∧
    ((snakeCase name).toList.getLast? = some '_' → name.toList.getLast? = some '_') ∧
    ((∀ c ∈ name.toList, c.toNat < 128) →
      (∀ c ∈ (snakeCase name).toList, isUppercase c = false) ∧
      snakeCase (snakeCase name) = snakeCase name) := by
  rw [toList_snakeCase]
  refine ⟨sublist_separated _ _, filter_separated _ _, ?_, head?_separated fun _ => rfl,
    getLast?_separated, fun hascii => ?_⟩
  · rw [infix_iff_not_isChain, infix_iff_not_isChain, not_not, not_not]
    exact isChain_separated none
  · have hlower : ∀ c ∈ separated none name.toList, isUppercase c = false :=
      not_isUppercase_of_mem_separated hascii
    refine ⟨hlower, String.toList_inj.mp ?_⟩
    rw [toList_snakeCase, toList_snakeCase, separated_eq_self hlower]

/-- Acronyms, a digit and underscores of the name itself, also at its ends. -/
theorem acronyms_and_underscores_separated :
    ∃ name column : String, name = "_HTTPServer_v2BetaID_" ∧ column = "_http_server_v2_beta_id_" ∧
      snakeCase name = column ∧
      ¬ ['_', '_'] <:+: name.toList ∧ ¬ ['_', '_'] <:+: column.toList ∧
      column.toList.head? = some '_' ∧ name.toList.head? = some '_' ∧
      column.toList.getLast? = some '_' ∧ name.toList.getLast? = some '_' ∧
      (∀ c ∈ name.toList, c.toNat < 128) ∧ (∀ c ∈ column.toList, isUppercase c = false) ∧
      snakeCase column = column := by
  have hcolumn : snakeCase "_HTTPServer_v2BetaID_" = "_http_server_v2_beta_id_" := by decide +kernel
  have hapart : ¬ ['_', '_'] <:+: "_HTTPServer_v2BetaID_".toList := by decide +kernel
  have hascii : ∀ c ∈ "_HTTPServer_v2BetaID_".toList, c.toNat < 128 := by simp
  have h := snakeCase_lowers_and_separates "_HTTPServer_v2BetaID_"
  rw [hcolumn] at h
  obtain ⟨-, -, hpair, hfirst, hlast, hlower⟩ := h
  exact ⟨_, _, rfl, rfl, hcolumn, hapart, hpair hapart, rfl, hfirst rfl, rfl, hlast rfl, hascii,
    hlower hascii⟩

end TableQuery
