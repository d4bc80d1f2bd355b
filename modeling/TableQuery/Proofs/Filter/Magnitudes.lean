import Mathlib
import TableQuery.Proofs.Filter.Acceptance
import TableQuery.Proofs.Number.Denotation
import TableQuery.Proofs.Token.Classes
import TableQuery.Proofs.Token.Layout

/-!
# Proofs/Filter/Magnitudes — the numbers of a filter as they are written

The literals of a filter are those of its text, in the same order (`literals_of_derives`).  A whole
number is the one that is written, or the filter is refused.  A floating point number is the one
nearest to what is written as long as that lies below `Binary64.overflow`; **from there on it is
infinity, and the filter is read all the same**.
-/

namespace TableQuery.Filter

open Grammar Token TableQuery.Text TableQuery.Number

/-! ## Literals in their order -/

/-- The literals of a filter from left to right, each with the text it is written as. -/
def literals : Filter → List (Literal × String)
  | .compare _ _ value raw => [(value, raw)]
  | .join _ l r => l.literals ++ r.literals

/-- What the literals among some tokens stand for, if anything, and their texts. -/
def literalTokens (ts : List Token) : List (Option Literal × String) :=
  (ts.filter fun t => t.kind.isLiteral).map fun t => (t.literal?, t.text)

theorem literalTokens_append (ts us : List Token) :
    literalTokens (ts ++ us) = literalTokens ts ++ literalTokens us := by
  simp [literalTokens]

theorem literalTokens_cons_of_not {t : Token} (h : t.kind.isLiteral = false) (ts : List Token) :
    literalTokens (t :: ts) = literalTokens ts := by
  simp [literalTokens, h]

theorem isLiteral_of_isKeyword {t : Token} {keyword : String} (h : t.isKeyword keyword = true) :
    t.kind.isLiteral = false := by
  rw [(isKeyword_iff.mp h).1]
  rfl

theorem isLiteral_of_joins {op : Connective} {t : Token} (h : vocabulary.joins op t) :
    t.kind.isLiteral = false :=
  isLiteral_of_isKeyword h

/-- **The literals of a filter are those of its tokens**: each of them has a value, which stands in
the tree where it stands in the text. -/
theorem literals_of_derives {s : Symbol} {ts : List Token} {e : Filter}
    (h : Derives vocabulary s ts e) :
    literalTokens ts = e.literals.map fun l => (some l.1, l.2) := by
  induction h with
  | conjunction _ ih | term _ ih => exact ih
  | or _ hor _ ihl ihr | and _ hor _ ihl ihr =>
    rw [literalTokens_append, literalTokens_cons_of_not (isLiteral_of_joins hor), ihl, ihr,
      ← List.map_append]
    rfl
  | @group ts o c a hopens _ hcloses ih =>
    have ho : o.kind.isLiteral = false := by rw [show o.kind = .leftParen from hopens]; rfl
    have hc : c.kind.isLiteral = false := by rw [show c.kind = .rightParen from hcloses]; rfl
    rw [List.cons_append, literalTokens_cons_of_not ho, literalTokens_append, ih,
      literalTokens_cons_of_not hc]
    exact List.append_nil _
  | leaf h =>
    cases h with
    | @intro name sign value op v hname hsign hliteral hv _ =>
      have hn : name.kind.isLiteral = false := by rw [hname]; rfl
      rw [literalTokens_cons_of_not hn, literalTokens_cons_of_not (isLiteral_of_isKeyword hsign)]
      simp [literalTokens, hliteral, hv, literals]

theorem literalTokens_of_read {s : String} {e : Filter} (h : read s = .ok e) :
    literalTokens (tokenize s) = e.literals.map fun l => (some l.1, l.2) :=
  literals_of_derives (run_finish_eq_ok_iff.mp h)

/-- **Every literal of a filter stands in its text.** -/
theorem exists_token_of_mem_literals {s : String} {e : Filter} {v : Literal} {raw : String}
    (h : read s = .ok e) (hmem : (v, raw) ∈ e.literals) :
    ∃ t ∈ tokenize s, t.literal? = some v ∧ t.text = raw := by
  have hpair : (some v, raw) ∈ literalTokens (tokenize s) := by
    rw [literalTokens_of_read h]
    exact List.mem_map_of_mem hmem
  obtain ⟨t, ht, heq⟩ := List.mem_map.mp hpair
  exact ⟨t, List.mem_of_mem_filter ht, congrArg Prod.fst heq, congrArg Prod.snd heq⟩

/-- **Every literal in the text of a filter has a value.** -/
theorem exists_literal?_of_read {s : String} {e : Filter} {t : Token} (h : read s = .ok e)
    (ht : t ∈ tokenize s) (hliteral : t.kind.isLiteral = true) : ∃ v, t.literal? = some v := by
  have hpair : (t.literal?, t.text) ∈ literalTokens (tokenize s) :=
    List.mem_map_of_mem (List.mem_filter.mpr ⟨ht, hliteral⟩)
  rw [literalTokens_of_read h] at hpair
  obtain ⟨l, -, heq⟩ := List.mem_map.mp hpair
  exact ⟨l.1, (congrArg Prod.fst heq).symm⟩

/-! ## Numbers -/

theorem kind_of_literal?_integer {t : Token} {n : ℤ} (h : t.literal? = some (.integer n)) :
    t.kind = .int := by
  cases hkind : t.kind <;> simp [literal?, hkind] at h
  rfl

theorem kind_of_literal?_float {t : Token} {x : Binary64} (h : t.literal? = some (.float x)) :
    t.kind = .float := by
  cases hkind : t.kind <;> simp [literal?, hkind] at h
  rfl

/-- A word for a number starts with a letter. -/
theorem not_isDigit_of_isNumberWord {c : Char} {cs : List Char} (h : IsNumberWord (c :: cs)) :
    ¬ c.isDigit = true := by
  obtain ⟨word, hword, heq⟩ := h
  have hletters : isKeywordText word.toList = true := by
    simp only [List.mem_cons, List.not_mem_nil, or_false] at hword
    rcases hword with rfl | rfl | rfl <;> rfl
  have hkeyword := isKeywordText_of_eqIgnoreCase heq hletters
  simp only [isKeywordText, Bool.and_eq_true, List.all_eq_true] at hkeyword
  exact not_isDigit_of_isAlpha (hkeyword.2 c List.mem_cons_self)

theorem isDecimal_of_isFloatText {c : Char} {cs : List Char} (hc : c.isDigit = true)
    (h : IsFloatText (c :: cs)) : IsDecimal (c :: cs) := by
  cases h with
  | bare h => exact h.resolve_right fun hword => not_isDigit_of_isNumberWord hword hc
  | plus | minus => cases hc

/-- **A floating point number is what its decimal denotes, rounded.** -/
theorem rounds_of_literal? {t : Token} {x : Binary64} (hclass : IsClass t.text t.kind)
    (h : t.literal? = some (.float x)) :
    ∃ body mark, t.text.toList = body ++ [mark] ∧ (mark = 'f' ∨ mark = 'F') ∧
      (∃ v, Denotes body v) ∧ ∀ v, Denotes body v → Binary64.Rounds false v x := by
  have hkind := kind_of_literal?_float h
  rw [hkind] at hclass
  cases hclass with
  | @float body _ hhead _ hbody =>
    obtain ⟨mark, hmark, htext⟩ := floatBody?_eq_some_iff.mp hbody
    have hread : Binary64.read body = some x := by
      simpa [literal?, hkind, Literal.readFloat, hbody] using h
    have hdecimal : IsDecimal body.toList := by
      obtain ⟨c, hc, hdigit⟩ := hhead
      have hform := (Binary64.isSome_read_iff body).mp (by rw [hread]; rfl)
      cases hchars : body.toList with
      | nil =>
        rw [htext, hchars] at hc
        cases hc
        rcases hmark with rfl | rfl <;> cases hdigit
      | cons d ds =>
        rw [htext, hchars] at hc
        cases hc
        rw [hchars] at hform
        exact isDecimal_of_isFloatText hdigit hform
    refine ⟨body.toList, mark, htext, hmark, exists_denotes_iff.mpr hdecimal, fun v hv => ?_⟩
    obtain ⟨x', hread', hrounds⟩ := Binary64.read_of_denotes hv
    rw [hread] at hread'
    exact Option.some.inj hread' ▸ hrounds

/-- **A filter keeps the magnitude of its numbers, as far as there are numbers for it.**  The
literals of the tree are those of the text, in their order.  A whole number is the one that is
written; one that is too large for 64 bits with a sign stands in no filter.  A floating point number
is a number, and it is finite, and as near to the decimal in front of its mark as 53 bits allow,
exactly if that decimal lies below the edge of overflow; otherwise it is infinity. -/
theorem numbers_keep_magnitude_below_overflow (s : String) (e : Filter) (h : read s = .ok e) :
    literalTokens (tokenize s) = e.literals.map (fun l => (some l.1, l.2)) ∧
    (∀ (n : ℤ) (raw : String), (.integer n, raw) ∈ e.literals →
      IsDigits raw.toList ∧ n = decimalValue raw.toList ∧ n ≤ 9223372036854775807) ∧
    (∀ t ∈ tokenize s, t.kind = .int →
      IsDigits t.text.toList ∧ decimalValue t.text.toList ≤ 9223372036854775807) ∧
    ∀ (x : Binary64) (raw : String), (.float x, raw) ∈ e.literals → x.isNaN = false ∧
      ∃ body mark, raw.toList = body ++ [mark] ∧ (mark = 'f' ∨ mark = 'F') ∧
        (∃ v, Denotes body v) ∧ ∀ v, Denotes body v →
          (x.isFinite = true ↔ v < Binary64.overflow) ∧ Binary64.Rounds false v x := by
  refine ⟨literalTokens_of_read h, fun n raw hmem => ?_, fun t ht hkind => ?_, fun x raw hmem => ?_⟩
  · obtain ⟨t, ht, hv, rfl⟩ := exists_token_of_mem_literals h hmem
    have hkind := kind_of_literal?_integer hv
    have hclass := isClass_of_mem_tokenize ht (by simp [hkind])
    obtain ⟨hdigits, hle, heq⟩ := (literal?_int_iff hclass hkind _).mp hv
    obtain rfl := Literal.integer.inj heq
    exact ⟨hdigits, rfl, Int.ofNat_le.mpr hle⟩
  · obtain ⟨v, hv⟩ := exists_literal?_of_read h ht (by rw [hkind]; rfl)
    have hclass := isClass_of_mem_tokenize ht (by simp [hkind])
    obtain ⟨hdigits, hle, -⟩ := (literal?_int_iff hclass hkind v).mp hv
    exact ⟨hdigits, hle⟩
  · obtain ⟨t, ht, hv, rfl⟩ := exists_token_of_mem_literals h hmem
    have hclass := isClass_of_mem_tokenize ht (by simp [kind_of_literal?_float hv])
    obtain ⟨body, mark, htext, hmark, ⟨v, hv⟩, hrounds⟩ := rounds_of_literal? hclass hv
    exact ⟨(hrounds v hv).isNaN_eq_false, body, mark, htext, hmark, ⟨v, hv⟩,
      fun v hv => ⟨(hrounds v hv).isFinite_iff, hrounds v hv⟩⟩

/-- The largest numbers of either kind are read, and the decimal of the second lies below the edge
of overflow. -/
theorem largest_numbers_keep_magnitude :
    ∃ e x, e = Filter.join .and
        (.compare "a" .eq (.integer 9223372036854775807) "9223372036854775807")
        (.compare "b" .lt (.float x) "1.7976931348623157e308F") ∧
      read "a eq 9223372036854775807 and b lt 1.7976931348623157e308F" = .ok e ∧
      x.isFinite = true ∧ ∀ v, Denotes "1.7976931348623157e308".toList v →
        v < Binary64.overflow ∧ |x.absolute - v| ≤ Binary64.roundingError v := by
  have hread : read "a eq 9223372036854775807 and b lt 1.7976931348623157e308F" = .ok
      (.join .and (.compare "a" .eq (.integer 9223372036854775807) "9223372036854775807")
        (.compare "b" .lt (.float (.ofMagnitude false (Binary64.infinite - 1)))
          "1.7976931348623157e308F")) := by decide +kernel
  have hfinite : (Binary64.ofMagnitude false (Binary64.infinite - 1)).isFinite = true := by
    decide +kernel
  obtain ⟨-, body, mark, htext, -, -, hvalue⟩ :=
    (numbers_keep_magnitude_below_overflow _ _ hread).2.2.2 _ "1.7976931348623157e308F"
      (List.mem_cons_of_mem _ List.mem_cons_self)
  have hconcat : "1.7976931348623157e308".toList ++ ['F'] = body ++ [mark] := htext
  obtain rfl := List.append_inj_left' hconcat rfl
  refine ⟨_, _, rfl, hread, hfinite, fun v hv => ?_⟩
  obtain ⟨hiff, hrounds⟩ := hvalue v hv
  exact ⟨hiff.mp hfinite, (hrounds.finite (hiff.mp hfinite)).2⟩

/-- A power of ten that no finite number reaches is read, as infinity. -/
theorem unreachable_power_read_as_infinity :
    read "x eq 1e400f" = .ok (.compare "x" .eq (.float (.infinity false)) "1e400f") ∧
      (Binary64.infinity false).isFinite = false := by
  decide +kernel

end TableQuery.Filter
