import Mathlib
import TableQuery.Proofs.Token.Scanning
import TableQuery.Proofs.Token.Seam

/-!
# Proofs/Token/Layout — lexemes laid out as a text, and found in it again

A text is written from **lexemes**: words and strings that stand as they are, keywords whose letters
may have either case, and marks.  White space may stand behind any of them, and must stand between
two words.  However a list of lexemes is **laid out**, the lexer finds them again, one token for
each (`scan_of_laysOut`).
-/

namespace TableQuery.Token

open TableQuery.Text

/-- What a text is written from. -/
inductive Lexeme where
  /-- A word, as it stands. -/
  | word (s : String)
  /-- A word in letters of either case. -/
  | keyword (s : String)
  /-- A string, to be written between quotes. -/
  | quoted (s : String)
  /-- A character that is a token by itself. -/
  | mark (c : Char)
  deriving DecidableEq, Repr

/-- Whether characters make a word. -/
def isWord : List Char → Bool
  | [] => false
  | c :: cs => opensWord c && cs.all continuesWord

/-- Whether a character is a token by itself wherever it stands, if not in a string. -/
def isMark (c : Char) : Bool := !isSpace c && c != '\'' && !continuesWord c

/-- Whether letters make a keyword: too few to be an identifier of 128 bits. -/
def isKeywordText (cs : List Char) : Bool :=
  cs != [] && decide (cs.length < 36) && cs.all Char.isAlpha

/-- The kind of a mark. -/
def markKind (c : Char) : Kind :=
  if c = '(' then .leftParen else if c = ')' then .rightParen else .illegal

namespace Lexeme

/-- Whether a lexeme is what it says: a word holds characters of words, and a string no quote. -/
def IsProper : Lexeme → Prop
  | .word s => isWord s.toList = true
  | .keyword s => isKeywordText s.toList = true
  | .quoted s => '\'' ∉ s.toList
  | .mark c => isMark c = true

/-- Whether a lexeme is written as a word. -/
def isWordlike : Lexeme → Bool
  | .word _ | .keyword _ => true
  | .quoted _ | .mark _ => false

/-- The ways to write a lexeme. -/
def IsWritten : Lexeme → List Char → Prop
  | .word s, cs => cs = s.toList
  | .keyword s, cs => eqIgnoreCase (String.ofList cs) s = true
  | .quoted s, cs => cs = '\'' :: (s.toList ++ ['\''])
  | .mark c, cs => cs = [c]

/-- The tokens that are read from a lexeme. -/
def Makes : Lexeme → Token → Prop
  | .word s, t => t.kind = classify s.toList ∧ t.text = s
  | .keyword s, t => t.isKeyword s = true
  | .quoted s, t => t.kind = .string ∧ t.text = s
  | .mark c, t => t.kind = markKind c ∧ t.text = String.singleton c

end Lexeme

/-- **A text that lays out lexemes**: each of them is written, with white space behind it, which may
be missing except between two words. -/
inductive LaysOut : List Lexeme → List Char → Prop where
  | nil : LaysOut [] []
  | cons {l : Lexeme} {ls : List Lexeme} {text gap cs : List Char} :
      l.IsWritten text → (∀ c ∈ gap, isSpace c = true) →
      (l.isWordlike = true → ls.head?.any Lexeme.isWordlike = true → gap ≠ []) →
      LaysOut ls cs → LaysOut (l :: ls) (text ++ gap ++ cs)

/-! ## Keywords -/

theorem isAlpha_of_toLower_eq {c d : Char} (h : c.toLower = d.toLower) (hd : d.isAlpha = true) :
    c.isAlpha = true := by
  rw [← Char.isAlpha_toLower_eq_isAlpha, h, Char.isAlpha_toLower_eq_isAlpha, hd]

/-- **Letters stay letters in either case.** -/
theorem isKeywordText_of_eqIgnoreCase {cs : List Char} {s : String}
    (h : eqIgnoreCase (String.ofList cs) s = true) (hs : isKeywordText s.toList = true) :
    isKeywordText cs = true := by
  have hlower : cs.map Char.toLower = s.toList.map Char.toLower := by simpa [eqIgnoreCase] using h
  have hlength : cs.length = s.toList.length := by simpa using congrArg List.length hlower
  simp only [isKeywordText, Bool.and_eq_true, bne_iff_ne, decide_eq_true_eq, List.all_eq_true]
    at hs ⊢
  obtain ⟨⟨hne, hlt⟩, halpha⟩ := hs
  refine ⟨⟨?_, hlength ▸ hlt⟩, ?_⟩
  · rintro rfl
    exact hne (List.length_eq_zero_iff.mp hlength.symm)
  · intro c hc
    have hmem : c.toLower ∈ s.toList.map Char.toLower := hlower ▸ List.mem_map_of_mem hc
    obtain ⟨d, hd, heq⟩ := List.mem_map.mp hmem
    exact isAlpha_of_toLower_eq heq.symm (halpha d hd)

theorem toNat_lt_of_isAlpha {c : Char} (h : c.isAlpha = true) : c.toNat < 128 := by
  simp only [Char.isAlpha, Char.isUpper, Char.isLower, Bool.or_eq_true, Bool.and_eq_true,
    decide_eq_true_eq, UInt32.le_iff_toNat_le, ge_iff_le] at h
  have hz : 'z'.val.toNat < 128 := by decide
  have hZ : 'Z'.val.toNat < 128 := by decide
  change c.val.toNat < 128
  omega

theorem opensWord_of_isAlpha {c : Char} (h : c.isAlpha = true) : opensWord c = true := by
  simp [opensWord, isAlphabetic, toNat_lt_of_isAlpha h, h]

theorem isWord_of_isKeywordText {cs : List Char} (h : isKeywordText cs = true) :
    isWord cs = true := by
  simp only [isKeywordText, Bool.and_eq_true, List.all_eq_true, bne_iff_ne] at h
  obtain ⟨⟨hne, -⟩, halpha⟩ := h
  obtain ⟨c, cs, rfl⟩ := List.exists_cons_of_ne_nil hne
  simp only [isWord, Bool.and_eq_true, List.all_eq_true]
  refine ⟨opensWord_of_isAlpha (halpha c (by simp)), fun d hd => ?_⟩
  simp [continuesWord, opensWord_of_isAlpha (halpha d (by simp [hd]))]

theorem guid_read_of_length_ne {s : String} (h : s.toList.length ≠ 36) : Guid.read s = none := by
  have hcanonical : ¬ Guid.isCanonical s.toList = true := by simp_all [Guid.isCanonical]
  rw [Guid.read, Guid.readCanonical, if_neg hcanonical]

theorem not_isDigit_of_isAlpha {c : Char} (h : c.isAlpha = true) : ¬ c.isDigit = true := by
  simp only [Char.isAlpha, Char.isUpper, Char.isLower, Char.isDigit, Bool.or_eq_true,
    Bool.and_eq_true, decide_eq_true_eq, UInt32.le_iff_toNat_le, ge_iff_le] at h ⊢
  have hA : '9'.val.toNat < 'A'.val.toNat := by decide
  have ha : '9'.val.toNat < 'a'.val.toNat := by decide
  omega

/-- Letters are neither digits nor enough for an identifier of 128 bits. -/
theorem classify_of_isKeywordText {cs : List Char} (h : isKeywordText cs = true) :
    classify cs = .ident := by
  simp only [isKeywordText, Bool.and_eq_true, List.all_eq_true, bne_iff_ne,
    decide_eq_true_eq] at h
  obtain ⟨⟨hne, hlt⟩, halpha⟩ := h
  obtain ⟨c, cs, rfl⟩ := List.exists_cons_of_ne_nil hne
  have hguid : Guid.read (String.ofList (c :: cs)) = none := by
    refine guid_read_of_length_ne ?_
    rw [String.toList_ofList]
    exact Nat.ne_of_lt hlt
  have hdigit : c.isDigit = false :=
    Bool.eq_false_iff.mpr (not_isDigit_of_isAlpha (halpha c (by simp)))
  simp only [classify, hguid, hdigit]
  rfl

theorem isWord_of_head {cs : List Char} (hhead : ∃ c ∈ cs.head?, opensWord c = true)
    (h : ∀ c ∈ cs, continuesWord c = true) : isWord cs = true := by
  obtain ⟨c, hc, hopens⟩ := hhead
  obtain ⟨rest, rfl⟩ := List.head?_eq_some_iff.mp hc
  rw [isWord, hopens, Bool.true_and, List.all_eq_true]
  exact fun d hd => h d (List.mem_cons_of_mem c hd)

/-! ## The tokens of a single lexeme -/

/-- What stands behind a word does not go on with it. -/
def StopsWord (cs : List Char) : Prop := ∀ c ∈ cs.head?, continuesWord c = false

theorem scan_word_of_stopsWord {start pos : Nat} {rev rest : List Char} (h : StopsWord rest) :
    scan (.word start rev) pos rest = ofWord start pos rev :: scan .none pos rest := by
  cases rest with
  | nil => rfl
  | cons c rest => exact scan_word_cons (h c rfl)

theorem scan_word_append {start pos : Nat} {rev cs : List Char} (rest : List Char)
    (h : ∀ c ∈ cs, continuesWord c = true) :
    scan (.word start rev) pos (cs ++ rest)
      = scan (.word start (cs.reverse ++ rev)) (pos + byteLength cs) rest := by
  induction cs generalizing pos rev with
  | nil => rfl
  | cons c cs ih =>
    rw [List.cons_append, scan, if_pos (h c (by simp)), ih fun d hd => h d (by simp [hd]),
      byteLength_cons, Nat.add_assoc, List.reverse_cons, List.append_assoc, List.singleton_append]

theorem scan_quote_append {start pos : Nat} {rev cs : List Char} (rest : List Char)
    (h : '\'' ∉ cs) :
    scan (.quote start rev) pos (cs ++ rest)
      = scan (.quote start (cs.reverse ++ rev)) (pos + byteLength cs) rest := by
  induction cs generalizing pos rev with
  | nil => rfl
  | cons c cs ih =>
    have hc : ¬ (c == '\'') = true := fun hc => h (by simp [beq_iff_eq.mp hc])
    rw [List.cons_append, scan, if_neg hc, ih fun hd => h (by simp [hd]), byteLength_cons,
      Nat.add_assoc, List.reverse_cons, List.append_assoc, List.singleton_append]

theorem scan_spaces {pos : Nat} {gap : List Char} (rest : List Char)
    (h : ∀ c ∈ gap, isSpace c = true) :
    scan .none pos (gap ++ rest) = scan .none (pos + byteLength gap) rest := by
  induction gap generalizing pos with
  | nil => rfl
  | cons c gap ih =>
    have henter : enter pos c = ([], .none) := if_pos (h c (by simp))
    rw [List.cons_append, scan_none_cons henter, List.nil_append, ih fun d hd => h d (by simp [hd]),
      byteLength_cons, Nat.add_assoc]

/-- White space and the marks with a meaning of their own open no word. -/
theorem enter_of_opensWord {c : Char} (h : opensWord c = true) (pos : Nat) :
    enter pos c = ([], .word pos [c]) := by
  have hne : ∀ d, opensWord d = false → c ≠ d := by
    rintro d hd rfl
    cases h.symm.trans hd
  have hspace : isSpace c = false := by
    simp [isSpace, hne ' ' (by decide), hne '\t' (by decide), hne '\n' (by decide),
      hne '\r' (by decide)]
  simp [enter, hspace, h, hne '(' (by decide), hne ')' (by decide), hne '\'' (by decide)]

/-- **A word is a token.** -/
theorem scan_isWord {pos : Nat} {cs rest : List Char} (h : isWord cs = true)
    (hrest : StopsWord rest) :
    scan .none pos (cs ++ rest) = ofWord pos (pos + byteLength cs) cs.reverse ::
      scan .none (pos + byteLength cs) rest := by
  cases cs with
  | nil => cases h
  | cons c cs =>
    simp only [isWord, Bool.and_eq_true, List.all_eq_true] at h
    rw [List.cons_append, scan_none_cons (enter_of_opensWord h.1 pos), List.nil_append,
      scan_word_append rest h.2, scan_word_of_stopsWord hrest, byteLength_cons, Nat.add_assoc,
      List.reverse_cons]

/-- **A string is a token.** -/
theorem scan_quoted {pos : Nat} {cs : List Char} (h : '\'' ∉ cs) (rest : List Char) :
    scan .none pos ('\'' :: (cs ++ ['\'']) ++ rest)
      = ofQuote pos (pos + 1 + byteLength cs + 1) cs.reverse ::
        scan .none (pos + 1 + byteLength cs + 1) rest := by
  have henter : enter pos '\'' = ([], .quote pos []) := rfl
  rw [List.cons_append, List.append_assoc, scan_none_cons henter, List.nil_append,
    scan_quote_append _ h, List.append_nil]
  rfl

/-- All that opens neither a word nor a string is a token by itself. -/
theorem enter_of_not_opensWord {c : Char} (hspace : isSpace c = false) (hquote : c ≠ '\'')
    (hopens : opensWord c = false) (pos : Nat) :
    enter pos c = ([ofChar (markKind c) pos c], .none) := by
  by_cases hleft : c = '('
  · subst hleft
    rfl
  by_cases hright : c = ')'
  · subst hright
    rfl
  simp [enter, markKind, hspace, hleft, hright, hquote, hopens]

/-- **A mark is a token.** -/
theorem scan_mark {pos : Nat} {c : Char} (h : isMark c = true) (rest : List Char) :
    scan .none pos (c :: rest)
      = ofChar (markKind c) pos c :: scan .none (pos + c.utf8Size) rest := by
  simp only [isMark, Bool.and_eq_true, Bool.not_eq_true', bne_iff_ne] at h
  obtain ⟨⟨hspace, hquote⟩, hword⟩ := h
  have hopens : opensWord c = false := by simp_all [continuesWord]
  rw [scan_none_cons (enter_of_not_opensWord hspace hquote hopens pos), List.singleton_append]

/-! ## The tokens of a layout -/

/-- **Every lexeme is read as one token**, in front of a text that does not go on with a word. -/
theorem scan_isWritten {l : Lexeme} {text rest : List Char} (hproper : l.IsProper)
    (hwritten : l.IsWritten text) (hrest : l.isWordlike = true → StopsWord rest) (pos : Nat) :
    ∃ t pos', l.Makes t ∧ scan .none pos (text ++ rest) = t :: scan .none pos' rest := by
  cases l with
  | word s =>
    obtain rfl : text = s.toList := hwritten
    refine ⟨_, _, ⟨?_, ?_⟩, scan_isWord hproper (hrest rfl)⟩
    · rw [ofWord, List.reverse_reverse]
    · rw [ofWord, List.reverse_reverse, String.ofList_toList]
  | keyword s =>
    have hletters := isKeywordText_of_eqIgnoreCase hwritten hproper
    refine ⟨_, _, ?_, scan_isWord (isWord_of_isKeywordText hletters) (hrest rfl)⟩
    have hignore : eqIgnoreCase (String.ofList text) s = true := hwritten
    simp [Lexeme.Makes, isKeyword, ofWord, classify_of_isKeywordText hletters, hignore]
  | quoted s =>
    obtain rfl : text = '\'' :: (s.toList ++ ['\'']) := hwritten
    refine ⟨_, _, ⟨rfl, ?_⟩, scan_quoted hproper rest⟩
    rw [ofQuote, List.reverse_reverse, String.ofList_toList]
  | mark c =>
    obtain rfl : text = [c] := hwritten
    exact ⟨_, _, ⟨rfl, rfl⟩, scan_mark hproper rest⟩

theorem continuesWord_of_isSpace {c : Char} (h : isSpace c = true) : continuesWord c = false := by
  simp only [isSpace, Bool.or_eq_true, beq_iff_eq] at h
  rcases h with ((rfl | rfl) | rfl) | rfl <;> decide

/-- What is no word does not go on with one. -/
theorem stopsWord_of_isWritten {l : Lexeme} {text : List Char} (hproper : l.IsProper)
    (hwritten : l.IsWritten text) (hl : l.isWordlike = false) (rest : List Char) :
    StopsWord (text ++ rest) := by
  cases l with
  | word | keyword => cases hl
  | quoted s =>
    obtain rfl : text = '\'' :: (s.toList ++ ['\'']) := hwritten
    intro c hc
    obtain rfl : '\'' = c := Option.some.inj hc
    decide
  | mark c =>
    obtain rfl : text = [c] := hwritten
    intro d hd
    obtain rfl : c = d := Option.some.inj hd
    have hmark : isMark c = true := hproper
    simp_all [isMark]

/-- **A word of a layout ends where it ends.** -/
theorem LaysOut.stopsWord {ls : List Lexeme} {gap cs : List Char}
    (h : LaysOut ls cs) (hproper : ∀ l ∈ ls, l.IsProper) (hgap : ∀ c ∈ gap, isSpace c = true)
    (hwords : ls.head?.any Lexeme.isWordlike = true → gap ≠ []) : StopsWord (gap ++ cs) := by
  cases gap with
  | cons c gap =>
    intro d hd
    obtain rfl : c = d := Option.some.inj hd
    exact continuesWord_of_isSpace (hgap c (by simp))
  | nil =>
    cases h with
    | nil => intro c hc; cases hc
    | @cons l ls text gap' cs hwritten _ _ _ =>
      rw [List.nil_append, List.append_assoc]
      refine stopsWord_of_isWritten (hproper l (by simp)) hwritten ?_ _
      exact Bool.eq_false_iff.mpr fun hl => hwords hl rfl

/-- **However lexemes are laid out, the lexer finds them again.** -/
theorem scan_of_laysOut {ls : List Lexeme} {cs : List Char} (h : LaysOut ls cs)
    (hproper : ∀ l ∈ ls, l.IsProper) (pos : Nat) :
    List.Forall₂ Lexeme.Makes ls (scan .none pos cs) := by
  induction h generalizing pos with
  | nil => exact .nil
  | @cons l ls text gap cs hwritten hgap hwords hrest ih =>
    have htail : ∀ l ∈ ls, l.IsProper := fun l hl => hproper l (by simp [hl])
    obtain ⟨t, pos', ht, hscan⟩ := scan_isWritten (hproper l (by simp)) hwritten
      (fun hl => hrest.stopsWord htail hgap (hwords hl)) pos
    rw [List.append_assoc, hscan, scan_spaces cs hgap]
    exact .cons ht (ih htail _)

/-! ## Layouts that exist -/

/-- A lexeme with one character of white space behind it. -/
theorem LaysOut.spaced {l : Lexeme} {ls : List Lexeme} {cs : List Char} (text : List Char)
    (c : Char) (htext : l.IsWritten text) (hc : isSpace c = true) (h : LaysOut ls cs) :
    LaysOut (l :: ls) (text ++ [c] ++ cs) :=
  .cons htext (by simpa using hc) (fun _ _ => List.cons_ne_nil _ _) h

/-- A lexeme with no white space behind it. -/
theorem LaysOut.tight {l : Lexeme} {ls : List Lexeme} {cs : List Char} (text : List Char)
    (htext : l.IsWritten text) (hwords : (l.isWordlike && ls.head?.any Lexeme.isWordlike) = false)
    (h : LaysOut ls cs) : LaysOut (l :: ls) (text ++ [] ++ cs) :=
  .cons htext (by simp) (fun hl hls => by simp [hl, hls] at hwords) h

/-- **Every list of lexemes can be laid out**, with a blank behind each of them. -/
theorem exists_laysOut (ls : List Lexeme) : ∃ cs, LaysOut ls cs := by
  have hwritten : ∀ l : Lexeme, ∃ text, l.IsWritten text := by
    intro l
    cases l with
    | word | quoted | mark => exact ⟨_, rfl⟩
    | keyword s => exact ⟨s.toList, by simp [Lexeme.IsWritten, eqIgnoreCase]⟩
  induction ls with
  | nil => exact ⟨[], .nil⟩
  | cons l ls ih =>
    obtain ⟨text, htext⟩ := hwritten l
    obtain ⟨cs, hcs⟩ := ih
    exact ⟨_, hcs.spaced text ' ' htext (by decide)⟩

end TableQuery.Token
