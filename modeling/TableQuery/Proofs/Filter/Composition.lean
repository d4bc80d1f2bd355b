import TableQuery.Proofs.Filter.Acceptance
import TableQuery.Proofs.Token.Seam

/-!
# Proofs/Filter/Composition — filters put together from filters

A filter in parentheses stands wherever a comparison does.  For its text this takes two steps: the
lexer starts afresh at each parenthesis and finds the tokens of the text between them, moved
(`scan_group`); and the grammar does not look at the place of a token (`Derives.moved`), so they
derive what they derive alone.
-/

namespace TableQuery.Filter

open Grammar Token TableQuery.Text

/-! ## Places do not matter -/

theorem Compares.moved {ts : List Token} {e : Filter} (h : Compares ts e) (n : Nat) :
    Compares (ts.map (Token.moved n)) e := by
  cases h with
  | @intro name sign value op v hname hsign hvalue hv hcontains =>
    exact @Compares.intro (name.moved n) (sign.moved n) (value.moved n) op v hname hsign hvalue hv
      hcontains

/-- **A moved filter is the same filter.** -/
theorem Derives.moved {s : Symbol} {ts : List Token} {e : Filter}
    (h : Derives vocabulary s ts e) (n : Nat) :
    Derives vocabulary s (ts.map (Token.moved n)) e := by
  induction h with
  | conjunction _ ih => exact .conjunction ih
  | or _ ht _ ihl ihr =>
    rw [List.map_append, List.map_cons]
    exact .or ihl ht ihr
  | term _ ih => exact .term ih
  | and _ ht _ ihl ihr =>
    rw [List.map_append, List.map_cons]
    exact .and ihl ht ihr
  | group ho _ hc ih =>
    rw [List.map_append, List.map_cons]
    exact .group ho ih hc
  | leaf h => exact .leaf (h.moved n)

/-! ## The tokens of a text in parentheses -/

/-- The tokens of a text in parentheses that stands at byte `pos`. -/
def groupTokens (pos : Nat) (s : String) : List Token :=
  ofChar .leftParen pos '(' :: (tokenize s).map (Token.moved (pos + 1)) ++
    [ofChar .rightParen (pos + 1 + byteLength s.toList) ')']

/-- **The lexer starts afresh at each parenthesis.** -/
theorem scan_group {s : String} (h : ClosesStrings (tokenize s)) (pos : Nat) (rest : List Char) :
    scan .none pos ('(' :: (s.toList ++ ')' :: rest))
      = groupTokens pos s ++ scan .none (pos + 1 + byteLength s.toList + 1) rest := by
  have hmoved : scan .none (pos + 1) s.toList = (tokenize s).map (Token.moved (pos + 1)) := by
    have hscan := scan_moved (pos + 1) .none 0 s.toList
    rwa [Nat.zero_add] at hscan
  have hclosed : ClosesStrings (scan .none (pos + 1) s.toList) := by
    rw [hmoved]
    exact h.moved (pos + 1)
  have hseam : scan .none (pos + 1) (s.toList ++ ')' :: rest) = scan .none (pos + 1) s.toList ++
      scan .none (pos + 1 + byteLength s.toList) (')' :: rest) :=
    scan_append trivial hclosed (by decide)
  calc scan .none pos ('(' :: (s.toList ++ ')' :: rest))
      = ofChar .leftParen pos '(' :: scan .none (pos + 1) (s.toList ++ ')' :: rest) := rfl
    _ = groupTokens pos s ++ scan .none (pos + 1 + byteLength s.toList + 1) rest := by
        rw [hseam, hmoved, groupTokens, List.append_assoc]
        rfl

/-- A connective between blanks is a word of its own. -/
theorem scan_connective (op : Connective) (pos : Nat) (rest : List Char) :
    ∃ word pos', word.isKeyword op.keyword = true ∧
      scan .none pos (' ' :: (op.keyword.toList ++ ' ' :: rest))
        = word :: scan .none pos' rest := by
  refine ⟨ofWord (pos + 1) (pos + 1 + byteLength op.keyword.toList) op.keyword.toList.reverse,
    pos + 1 + byteLength op.keyword.toList + 1, ?_, ?_⟩
  · rw [isKeyword_iff, ofWord, List.reverse_reverse, String.ofList_toList]
    exact ⟨by cases op <;> rfl, by simp [eqIgnoreCase]⟩
  · cases op <;> rfl

theorem tokenize_group {s : String} (h : ClosesStrings (tokenize s)) :
    tokenize ("(" ++ s ++ ")") = groupTokens 0 s := by
  have hlist : ("(" ++ s ++ ")").toList = '(' :: (s.toList ++ [')']) := by simp
  rw [tokenize, hlist, scan_group h, scan, List.append_nil]

/-- **Two texts in parentheses around a connective keep their tokens.** -/
theorem tokenize_joined {s t : String} (hs : ClosesStrings (tokenize s))
    (ht : ClosesStrings (tokenize t)) (op : Connective) :
    ∃ word pos, word.isKeyword op.keyword = true ∧
      tokenize ("(" ++ s ++ ") " ++ op.keyword ++ " (" ++ t ++ ")")
        = groupTokens 0 s ++ word :: groupTokens pos t := by
  have hlist : ("(" ++ s ++ ") " ++ op.keyword ++ " (" ++ t ++ ")").toList = '(' :: (s.toList ++
      ')' :: ' ' :: (op.keyword.toList ++ ' ' :: '(' :: (t.toList ++ [')']))) := by simp
  obtain ⟨word, pos, hword, hscan⟩ :=
    scan_connective op (0 + 1 + byteLength s.toList + 1) ('(' :: (t.toList ++ [')']))
  refine ⟨word, pos, hword, ?_⟩
  rw [tokenize, hlist, scan_group hs, hscan, scan_group ht, scan, List.append_nil]

/-! ## Filters in parentheses -/

/-- **A filter in parentheses is a term.** -/
theorem derives_groupTokens {s : String} {e : Filter} (h : read s = .ok e) (pos : Nat) :
    Derives vocabulary .term (groupTokens pos s) e :=
  .group rfl (Derives.moved (run_finish_eq_ok_iff.mp h) (pos + 1)) rfl

/-- Two terms around a connective, whichever it is. -/
theorem derives_join {ts us : List Token} {word : Token} {op : Connective} {e f : Filter}
    (he : Derives vocabulary .term ts e) (hop : word.isKeyword op.keyword = true)
    (hf : Derives vocabulary .term us f) :
    Derives vocabulary .disjunction (ts ++ word :: us) (.join op e f) := by
  cases op with
  | and => exact .conjunction (.and (.term he) hop hf)
  | or => exact .or he.toDisjunction hop (.term hf)

/-- **Filters compose as texts.**  A filter in parentheses is read as itself, and two of them around
a connective as the two joined, whatever the two texts hold, as long as their strings are closed. -/
theorem read_composes {s t : String} {e f : Filter} (hs : read s = .ok e) (ht : read t = .ok f)
    (hsclosed : ClosesStrings (tokenize s)) (htclosed : ClosesStrings (tokenize t)) :
    read ("(" ++ s ++ ")") = .ok e ∧
      ∀ op : Connective,
        read ("(" ++ s ++ ") " ++ op.keyword ++ " (" ++ t ++ ")") = .ok (.join op e f) := by
  constructor
  · refine run_finish_eq_ok_iff.mpr ?_
    rw [tokenize_group hsclosed]
    exact (derives_groupTokens hs 0).toDisjunction
  · intro op
    obtain ⟨word, pos, hword, htokens⟩ := tokenize_joined hsclosed htclosed op
    refine run_finish_eq_ok_iff.mpr ?_
    rw [htokens]
    exact derives_join (derives_groupTokens hs 0) hword (derives_groupTokens ht pos)

/-- A word at one parenthesis and a string at the other, parentheses and connectives inside strings,
and an *or* that must not leave its group. -/
theorem read_composes_around_strings :
    read "(größe eq 'ä) or (b' or n lt 7)"
        = .ok (.join .or (.compare "größe" .eq (.text "ä) or (b") "ä) or (b")
            (.compare "n" .lt (.integer 7) "7")) ∧
      read "(größe eq 'ä) or (b' or n lt 7) and ((c eq '') or d contains ') and (')"
        = .ok (.join .and
            (.join .or (.compare "größe" .eq (.text "ä) or (b") "ä) or (b")
              (.compare "n" .lt (.integer 7) "7"))
            (.join .or (.compare "c" .eq (.text "") "")
              (.compare "d" .contains (.text ") and (") ") and ("))) := by
  have hs : read "größe eq 'ä) or (b' or n lt 7"
      = .ok (.join .or (.compare "größe" .eq (.text "ä) or (b") "ä) or (b")
          (.compare "n" .lt (.integer 7) "7")) := rfl
  have ht : read "(c eq '') or d contains ') and ('"
      = .ok (.join .or (.compare "c" .eq (.text "") "")
          (.compare "d" .contains (.text ") and (") ") and (")) := rfl
  have hcomposes := read_composes hs ht (by decide +kernel) (by decide +kernel)
  exact ⟨hcomposes.1, hcomposes.2 .and⟩

/-- A string that is not closed takes the parenthesis with it. -/
example : (read "a eq 'x").isOk = true ∧ (read "(a eq 'x)").isOk = false := by decide +kernel

end TableQuery.Filter
