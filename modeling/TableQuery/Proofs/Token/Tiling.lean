import Mathlib
import TableQuery.Proofs.Token.Layout

/-!
# Proofs/Token/Tiling — the tokens of a text tile it

A **lexer** is asked for one token after another.  A single call skips white space and takes a
lexeme, which is exactly what its token covers; at the end of the text it goes nowhere
(`Lexer.next_cases`).  From that step everything follows by one induction along the text
(`Lexer.along`): the tokens and the white space between them make up the whole text, and asking on
behind the last token gives the end again and again (`Lexer.nth_eq`).
-/

namespace TableQuery

open TableQuery.Text

/-! ## Spans in a text -/

theorem Token.byteLength_eq_utf8ByteSize (cs : List Char) :
    byteLength cs = (String.ofList cs).utf8ByteSize := by
  induction cs with
  | nil => rfl
  | cons c cs ih =>
    rw [Token.byteLength_cons, ih, ← List.singleton_append, String.ofList_append,
      String.utf8ByteSize_append, ← String.singleton_eq_ofList, String.utf8ByteSize_singleton]

namespace Span

/-- **A span cuts a text** between characters: in front of it, inside it and behind it stand
these. -/
structure Cuts (span : Span) (s : String) (front middle behind : List Char) : Prop where
  text : s.toList = front ++ middle ++ behind
  start : span.start = (String.ofList front).utf8ByteSize
  stop : span.stop = (String.ofList (front ++ middle)).utf8ByteSize

variable {span : Span} {s : String} {front middle behind : List Char}

theorem Cuts.start_lt_stop (h : span.Cuts s front middle behind) (hne : middle ≠ []) :
    span.start < span.stop := by
  obtain ⟨c, cs, rfl⟩ := List.exists_cons_of_ne_nil hne
  have hpos := c.utf8Size_pos
  rw [h.start, h.stop, ← Token.byteLength_eq_utf8ByteSize, ← Token.byteLength_eq_utf8ByteSize,
    Token.byteLength_append, Token.byteLength_cons]
  omega

theorem Cuts.stop_le (h : span.Cuts s front middle behind) : span.stop ≤ s.utf8ByteSize := by
  have hs : s = String.ofList (front ++ middle) ++ String.ofList behind := by
    rw [← String.ofList_append, ← h.text, String.ofList_toList]
  rw [h.stop, hs, String.utf8ByteSize_append]
  exact Nat.le_add_right _ _

/-- **Cuts are between characters.** -/
theorem Cuts.isValid (h : span.Cuts s front middle behind) :
    (String.Pos.Raw.mk span.start).IsValid s ∧ (String.Pos.Raw.mk span.stop).IsValid s := by
  refine ⟨String.Pos.Raw.isValid_iff_exists_append.mpr ?_,
    String.Pos.Raw.isValid_iff_exists_append.mpr ?_⟩
  · refine ⟨String.ofList front, String.ofList (middle ++ behind), ?_, ?_⟩
    · rw [← String.ofList_append, ← List.append_assoc, ← h.text, String.ofList_toList]
    · rw [h.start]
      rfl
  · refine ⟨String.ofList (front ++ middle), String.ofList behind, ?_, ?_⟩
    · rw [← String.ofList_append, ← h.text, String.ofList_toList]
    · rw [h.stop]
      rfl

end Span

namespace Token

/-! ## How a token is written -/

/-- The kinds of words. -/
def Kind.isWord : Kind → Bool
  | .ident | .int | .float | .guid | .dateTime => true
  | _ => false

theorem isWord_classify (word : List Char) : (classify word).isWord = true := by
  have hkinds : ∀ k ∈ [Kind.ident, .int, .float, .guid, .dateTime], k.isWord = true := by decide
  exact hkinds _ (classify_mem word)

/-- **How a token is written**: the characters it covers, and what stands behind them.  A string
lacks its closing quote only at the end of the text, and a word goes as far as it can. -/
structure IsSpelt (t : Token) (lexeme behind : List Char) : Prop where
  ne_nil : lexeme ≠ []
  plain : t.kind ≠ .string → lexeme = t.text.toList
  quoted : t.kind = .string → '\'' ∉ t.text.toList ∧
    (lexeme = '\'' :: (t.text.toList ++ ['\'']) ∨ lexeme = '\'' :: t.text.toList ∧ behind = [])
  word : t.kind.isWord = true → isWord lexeme = true ∧ StopsWord behind
  illegal : t.kind = .illegal → lexeme.length = 1

theorem isSpelt_word {cs behind : List Char} (h : Token.isWord cs = true) (hb : StopsWord behind)
    (start stop : Nat) : IsSpelt (ofWord start stop cs.reverse) cs behind := by
  have hkind : (ofWord start stop cs.reverse).kind.isWord = true := isWord_classify _
  have htext : (ofWord start stop cs.reverse).text.toList = cs := by simp [ofWord]
  refine ⟨?_, fun _ => htext.symm, ?_, fun _ => ⟨h, hb⟩, ?_⟩
  · rintro rfl
    cases h
  · exact fun he => by simp [he, Kind.isWord] at hkind
  · exact fun he => by simp [he, Kind.isWord] at hkind

theorem isSpelt_quote {cs lexeme behind : List Char} (h : '\'' ∉ cs)
    (hl : lexeme = '\'' :: (cs ++ ['\'']) ∨ lexeme = '\'' :: cs ∧ behind = [])
    (start stop : Nat) : IsSpelt (ofQuote start stop cs.reverse) lexeme behind := by
  have htext : (ofQuote start stop cs.reverse).text.toList = cs := by simp [ofQuote]
  refine ⟨?_, fun hkind => absurd rfl hkind, fun _ => ?_, fun hword => ?_, fun hillegal => ?_⟩
  · rcases hl with rfl | ⟨rfl, -⟩ <;> exact List.cons_ne_nil _ _
  · rw [htext]
    exact ⟨h, hl⟩
  · cases hword
  · cases hillegal

theorem isSpelt_mark (c : Char) (behind : List Char) (pos : Nat) :
    IsSpelt (ofChar (markKind c) pos c) [c] behind := by
  have hkind : markKind c ≠ .string ∧ (markKind c).isWord = false := by
    unfold markKind
    split
    · decide
    split <;> decide
  refine ⟨List.cons_ne_nil _ _, fun _ => ?_, fun he => absurd he hkind.1, ?_, fun _ => rfl⟩
  · simp [ofChar]
  · exact fun he => absurd he (by simp [ofChar, hkind.2])

/-! ## One call -/

/-- A lexer on its way through a text: the bytes behind it and the characters in front of it. -/
structure Lexer where
  position : Nat
  rest : List Char

namespace Lexer

/-- The lexer at the beginning of a text. -/
def start (s : String) : Lexer := ⟨0, s.toList⟩

/-- The byte where the text ends. -/
def stop (l : Lexer) : Nat := l.position + byteLength l.rest

/-- Takes a word. -/
def takeWord (start : Nat) (cs : List Char) : Token × Lexer :=
  let word := cs.takeWhile continuesWord
  (ofWord start (start + byteLength word) word.reverse,
    ⟨start + byteLength word, cs.dropWhile continuesWord⟩)

/-- Takes a string behind its opening quote, with the closing quote if there is one. -/
def takeString (start : Nat) (cs : List Char) : Token × Lexer :=
  let body := cs.takeWhile (· != '\'')
  let stop := start + 1 + byteLength body
  match cs.dropWhile (· != '\'') with
  | [] => (ofQuote start stop body.reverse, ⟨stop, []⟩)
  | _ :: rest => (ofQuote start (stop + 1) body.reverse, ⟨stop + 1, rest⟩)

/-- **The next token**, and the lexer behind it. -/
def next (l : Lexer) : Token × Lexer :=
  let start := l.position + byteLength (l.rest.takeWhile isSpace)
  match l.rest.dropWhile isSpace with
  | [] => (⟨.eof, "", ⟨start, start⟩⟩, ⟨start, []⟩)
  | c :: cs =>
    if c = '\'' then takeString start cs
    else if opensWord c then takeWord start (c :: cs)
    else (ofChar (markKind c) start c, ⟨start + c.utf8Size, cs⟩)

/-- The token that the lexer gives when it has been asked a number of times before. -/
def nth (l : Lexer) : Nat → Token
  | 0 => l.next.1
  | n + 1 => l.next.2.nth n

/-- All tokens in front of the lexer. -/
def tokens (l : Lexer) : List Token := scan .none l.position l.rest

/-- **A token is taken**: white space is skipped and then a lexeme, which is what the token
covers. -/
structure Takes (l : Lexer) (gap lexeme : List Char) (t : Token) (l' : Lexer) : Prop where
  rest : l.rest = gap ++ lexeme ++ l'.rest
  blank : ∀ c ∈ gap, isSpace c = true
  isSpelt : IsSpelt t lexeme l'.rest
  span : t.span = ⟨l.position + byteLength gap, l.position + byteLength (gap ++ lexeme)⟩
  position : l'.position = l.position + byteLength (gap ++ lexeme)
  tokens : l.tokens = t :: l'.tokens

/-- What is left behind a run of characters starts with another one. -/
theorem not_of_dropWhile_eq_cons {p : Char → Bool} {cs rest : List Char} {c : Char}
    (h : cs.dropWhile p = c :: rest) : p c = false := by
  have hhead := List.head?_dropWhile_not p cs
  rwa [h] at hhead

theorem takes_word {c : Char} (h : opensWord c = true) (cs : List Char) (pos : Nat) :
    ∃ lexeme, Takes ⟨pos, c :: cs⟩ [] lexeme (takeWord pos (c :: cs)).1
      (takeWord pos (c :: cs)).2 := by
  have hc : continuesWord c = true := by simp [continuesWord, h]
  have hword : Token.isWord ((c :: cs).takeWhile continuesWord) = true := by
    rw [List.takeWhile_cons_of_pos hc]
    simp [Token.isWord, h]
  have hstops : StopsWord ((c :: cs).dropWhile continuesWord) := by
    intro d hd
    obtain ⟨rest, hrest⟩ := List.head?_eq_some_iff.mp hd
    exact not_of_dropWhile_eq_cons hrest
  have hsplit : c :: cs = (c :: cs).takeWhile continuesWord ++ (c :: cs).dropWhile continuesWord :=
    List.takeWhile_append_dropWhile.symm
  refine ⟨(c :: cs).takeWhile continuesWord, hsplit, List.forall_mem_nil _,
    isSpelt_word hword hstops _ _, rfl, rfl, ?_⟩
  have hscan : scan .none pos (_ ++ _) = _ := scan_isWord hword hstops
  rwa [← hsplit] at hscan

/-- A quote is one byte. -/
theorem byteLength_quote_cons (cs : List Char) : byteLength ('\'' :: cs) = 1 + byteLength cs := rfl

theorem byteLength_nil : byteLength [] = 0 := rfl

/-- **A string without an end is a token**, the last one. -/
theorem scan_openQuote {cs : List Char} (h : '\'' ∉ cs) (pos : Nat) :
    scan .none pos ('\'' :: cs) = [ofQuote pos (pos + 1 + byteLength cs) cs.reverse] := by
  have henter : enter pos '\'' = ([], .quote pos []) := rfl
  have hbody : scan (.quote pos []) (pos + 1) (cs ++ []) = _ := scan_quote_append [] h
  rw [List.append_nil, List.append_nil] at hbody
  rw [scan_none_cons henter, List.nil_append]
  exact hbody

theorem takes_string (cs : List Char) (pos : Nat) :
    ∃ lexeme, Takes ⟨pos, '\'' :: cs⟩ [] lexeme (takeString pos cs).1 (takeString pos cs).2 := by
  obtain ⟨body, hbody⟩ : ∃ body, cs.takeWhile (· != '\'') = body := ⟨_, rfl⟩
  have hquote : '\'' ∉ body := by
    rintro h
    rw [← hbody] at h
    simpa using List.mem_takeWhile_imp h
  have hsplit : cs = body ++ cs.dropWhile (· != '\'') := by
    rw [← hbody, List.takeWhile_append_dropWhile]
  cases hrest : cs.dropWhile (· != '\'') with
  | nil =>
    rw [hrest, List.append_nil] at hsplit
    simp only [takeString, hrest, hbody]
    refine ⟨'\'' :: body, by simp [hsplit], List.forall_mem_nil _,
      isSpelt_quote hquote (Or.inr ⟨rfl, rfl⟩) _ _, ?_, ?_, ?_⟩
    · simp [ofQuote, byteLength_quote_cons, byteLength_nil, Nat.add_assoc]
    · simp [byteLength_quote_cons, Nat.add_assoc]
    · rw [hsplit]
      exact scan_openQuote hquote pos
  | cons d rest =>
    obtain rfl : d = '\'' := by simpa using not_of_dropWhile_eq_cons hrest
    rw [hrest] at hsplit
    simp only [takeString, hrest, hbody]
    refine ⟨'\'' :: (body ++ ['\'']), by simp [hsplit], List.forall_mem_nil _,
      isSpelt_quote hquote (Or.inl rfl) _ _, ?_, ?_, ?_⟩
    · simp [ofQuote, byteLength_quote_cons, byteLength_append, byteLength_nil, Nat.add_assoc]
    · simp [byteLength_quote_cons, byteLength_append, byteLength_nil, Nat.add_assoc]
    · have hscan : scan .none pos ('\'' :: (body ++ ['\'']) ++ rest) = _ := scan_quoted hquote rest
      rw [List.cons_append, List.append_assoc, List.singleton_append, ← hsplit] at hscan
      exact hscan

theorem takes_mark {c : Char} (hspace : isSpace c = false) (hquote : c ≠ '\'')
    (hopens : opensWord c = false) (cs : List Char) (pos : Nat) :
    Takes ⟨pos, c :: cs⟩ [] [c] (ofChar (markKind c) pos c) ⟨pos + c.utf8Size, cs⟩ := by
  refine ⟨rfl, List.forall_mem_nil _, isSpelt_mark c cs pos, rfl, rfl, ?_⟩
  exact scan_none_cons (enter_of_not_opensWord hspace hquote hopens pos) cs

/-- White space in front does not count. -/
theorem Takes.skip {l l' : Lexer} {gap cs lexeme : List Char} {t : Token}
    (hrest : l.rest = gap ++ cs) (hgap : ∀ c ∈ gap, isSpace c = true)
    (h : Takes ⟨l.position + byteLength gap, cs⟩ [] lexeme t l') : Takes l gap lexeme t l' := by
  obtain ⟨hcs, -, hspelt, hspan, hposition, htokens⟩ := h
  have hlength : l.position + byteLength (gap ++ lexeme)
      = l.position + byteLength gap + byteLength lexeme := by
    rw [byteLength_append, Nat.add_assoc]
  refine ⟨?_, hgap, hspelt, ?_, ?_, ?_⟩
  · rw [hrest, List.append_assoc]
    exact congrArg _ hcs
  · rw [hspan, hlength]
    rfl
  · rw [hposition, hlength]
    rfl
  · change scan .none l.position l.rest = _
    rw [hrest, scan_spaces cs hgap]
    exact htokens

/-- **All that a call can do**: at the end of the text it finds nothing but white space, and
anywhere else it takes a token. -/
theorem next_cases (l : Lexer) :
    (∀ c ∈ l.rest, isSpace c = true) ∧
        l.next = (⟨.eof, "", ⟨l.stop, l.stop⟩⟩, ⟨l.stop, []⟩) ∨
      ∃ gap lexeme, l.Takes gap lexeme l.next.1 l.next.2 := by
  have hsplit : l.rest = l.rest.takeWhile isSpace ++ l.rest.dropWhile isSpace :=
    List.takeWhile_append_dropWhile.symm
  have hgap : ∀ c ∈ l.rest.takeWhile isSpace, isSpace c = true := fun c => List.mem_takeWhile_imp
  cases hrest : l.rest.dropWhile isSpace with
  | nil =>
    rw [hrest, List.append_nil] at hsplit
    refine Or.inl ⟨by rwa [← hsplit] at hgap, ?_⟩
    simp only [next, hrest, ← hsplit, stop]
  | cons c cs =>
    rw [hrest] at hsplit
    refine Or.inr ⟨l.rest.takeWhile isSpace, ?_⟩
    have hspace : isSpace c = false := not_of_dropWhile_eq_cons hrest
    simp only [next, hrest]
    split
    · subst c
      obtain ⟨lexeme, h⟩ := takes_string cs (l.position + byteLength (l.rest.takeWhile isSpace))
      exact ⟨lexeme, h.skip hsplit hgap⟩
    split
    · obtain ⟨lexeme, h⟩ := takes_word ‹opensWord c = true› cs
        (l.position + byteLength (l.rest.takeWhile isSpace))
      exact ⟨lexeme, h.skip hsplit hgap⟩
    · have hword : opensWord c = false := by simpa using ‹¬ opensWord c = true›
      exact ⟨[c], (takes_mark hspace ‹_› hword cs _).skip hsplit hgap⟩

/-! ## Call after call -/

theorem tokens_of_isSpace {l : Lexer} (h : ∀ c ∈ l.rest, isSpace c = true) : l.tokens = [] := by
  have hscan : scan .none l.position (l.rest ++ []) = _ := scan_spaces [] h
  rwa [List.append_nil] at hscan

theorem Takes.stop_eq {l l' : Lexer} {gap lexeme : List Char} {t : Token}
    (h : l.Takes gap lexeme t l') : l'.stop = l.stop := by
  rw [stop, stop, h.position, h.rest, byteLength_append _ l'.rest, Nat.add_assoc]

/-- **The induction along a text**: what holds in front of white space, and in front of a token if
it holds behind it, holds everywhere. -/
theorem along {motive : Lexer → Prop}
    (blank : ∀ l : Lexer, (∀ c ∈ l.rest, isSpace c = true) → motive l)
    (token : ∀ (l l' : Lexer) (gap lexeme : List Char) (t : Token), l.Takes gap lexeme t l' →
      motive l' → motive l) (l : Lexer) : motive l := by
  induction hn : l.rest.length using Nat.strongRecOn generalizing l with
  | ind n ih =>
    rcases next_cases l with ⟨hblank, -⟩ | ⟨gap, lexeme, h⟩
    · exact blank l hblank
    · refine token l l.next.2 gap lexeme l.next.1 h (ih _ ?_ l.next.2 rfl)
      have hpos := List.length_pos_iff.mpr h.isSpelt.ne_nil
      have hlength := congrArg List.length h.rest
      simp only [List.length_append] at hlength
      omega

/-- At the end of a text every call gives the end. -/
theorem nth_of_rest_eq_nil (pos n : Nat) : nth ⟨pos, []⟩ n = ⟨.eof, "", ⟨pos, pos⟩⟩ := by
  induction n with
  | zero => rfl
  | succ n ih => exact ih

/-- **Asked again and again, a lexer gives its tokens, and then the end for ever.** -/
theorem nth_eq (l : Lexer) (n : Nat) :
    l.nth n = l.tokens.getD n ⟨.eof, "", ⟨l.stop, l.stop⟩⟩ := by
  induction n generalizing l with
  | zero =>
    rcases next_cases l with ⟨hblank, hnext⟩ | ⟨gap, lexeme, h⟩
    · rw [nth, hnext, tokens_of_isSpace hblank]
      rfl
    · rw [h.tokens]
      rfl
  | succ n ih =>
    rw [nth]
    rcases next_cases l with ⟨hblank, hnext⟩ | ⟨gap, lexeme, h⟩
    · rw [hnext, tokens_of_isSpace hblank]
      exact nth_of_rest_eq_nil l.stop n
    · rw [ih, h.stop_eq, h.tokens, List.getD_cons_succ]

/-! ## The whole text -/

/-- A lexer stands in a text, behind these characters. -/
structure StandsIn (l : Lexer) (s : String) (front : List Char) : Prop where
  text : s.toList = front ++ l.rest
  position : l.position = byteLength front

variable {l l' : Lexer} {s : String} {front gap lexeme : List Char} {t : Token}

theorem standsIn_start (s : String) : (start s).StandsIn s [] := ⟨rfl, rfl⟩

theorem StandsIn.stop_eq (h : l.StandsIn s front) : l.stop = s.utf8ByteSize := by
  rw [stop, h.position, ← byteLength_append, ← h.text, byteLength_eq_utf8ByteSize,
    String.ofList_toList]

theorem StandsIn.takes (hl : l.StandsIn s front) (h : l.Takes gap lexeme t l') :
    l'.StandsIn s (front ++ gap ++ lexeme) := by
  refine ⟨?_, ?_⟩
  · rw [hl.text, h.rest]
    simp only [List.append_assoc]
  · rw [h.position, hl.position, List.append_assoc, byteLength_append front]

/-- **A token covers its lexeme.** -/
theorem StandsIn.cuts_lexeme (hl : l.StandsIn s front) (h : l.Takes gap lexeme t l') :
    t.span.Cuts s (front ++ gap) lexeme l'.rest := by
  refine ⟨(hl.takes h).text, ?_, ?_⟩
  · rw [h.span, hl.position, ← byteLength_eq_utf8ByteSize, byteLength_append front]
  · rw [h.span, hl.position, ← byteLength_eq_utf8ByteSize, List.append_assoc,
      byteLength_append front]

/-- **White space stands in front of it.** -/
theorem StandsIn.cuts_gap (hl : l.StandsIn s front) (h : l.Takes gap lexeme t l') :
    Span.Cuts ⟨l.position, t.span.start⟩ s front gap (lexeme ++ l'.rest) := by
  refine ⟨?_, ?_, ?_⟩
  · rw [(hl.takes h).text]
    simp only [List.append_assoc]
  · rw [← byteLength_eq_utf8ByteSize]
    exact hl.position
  · exact (hl.cuts_lexeme h).start

theorem exists_cuts_of_mem_tokens (hl : l.StandsIn s front) (ht : t ∈ l.tokens) :
    ∃ front lexeme behind, t.span.Cuts s front lexeme behind ∧ t.IsSpelt lexeme behind := by
  induction l using along generalizing front with
  | blank l hblank =>
    rw [tokens_of_isSpace hblank] at ht
    cases ht
  | token l l' gap lexeme u h ih =>
    rw [h.tokens] at ht
    rcases List.mem_cons.mp ht with rfl | ht
    · exact ⟨_, _, _, hl.cuts_lexeme h, h.isSpelt⟩
    · exact ih (hl.takes h) ht

end Lexer

/-- What lies between tokens: in front of the first one from `pos` on, between any two neighbours,
and behind the last one up to `stop`. -/
def gaps (stop : Nat) : Nat → List Token → List Span
  | pos, [] => [⟨pos, stop⟩]
  | pos, t :: ts => ⟨pos, t.span.start⟩ :: gaps stop t.span.stop ts

namespace Lexer

variable {l l' : Lexer} {s : String} {front gap lexeme : List Char} {t : Token}

/-- **Nothing but white space lies between tokens.** -/
theorem exists_cuts_of_mem_gaps {span : Span} (hl : l.StandsIn s front)
    (hspan : span ∈ gaps l.stop l.position l.tokens) :
    ∃ front blank behind, span.Cuts s front blank behind ∧ ∀ c ∈ blank, isSpace c = true := by
  induction l using along generalizing front with
  | blank l hblank =>
    rw [tokens_of_isSpace hblank] at hspan
    obtain rfl : span = ⟨l.position, l.stop⟩ := List.mem_singleton.mp hspan
    refine ⟨front, l.rest, [], ⟨?_, ?_, ?_⟩, hblank⟩
    · rw [hl.text, List.append_nil]
    · rw [← byteLength_eq_utf8ByteSize]
      exact hl.position
    · rw [← hl.text, String.ofList_toList]
      exact hl.stop_eq
  | token l l' gap lexeme u h ih =>
    rw [h.tokens, gaps] at hspan
    rcases List.mem_cons.mp hspan with rfl | hspan
    · exact ⟨_, _, _, hl.cuts_gap h, h.blank⟩
    · have hposition : u.span.stop = l'.position := by rw [h.span, h.position]
      rw [hposition, ← h.stop_eq] at hspan
      exact ih (hl.takes h) hspan

theorem position_le_start (ht : t ∈ l.tokens) : l.position ≤ t.span.start := by
  induction l using along with
  | blank l hblank =>
    rw [tokens_of_isSpace hblank] at ht
    cases ht
  | token l l' gap lexeme u h ih =>
    rw [h.tokens] at ht
    rcases List.mem_cons.mp ht with rfl | ht
    · rw [h.span]
      exact Nat.le_add_right _ _
    · exact (h.position ▸ Nat.le_add_right _ _).trans (ih ht)

/-- **Tokens stand one behind another.** -/
theorem pairwise_tokens (l : Lexer) :
    l.tokens.Pairwise fun t u => t.span.stop ≤ u.span.start := by
  induction l using along with
  | blank l hblank =>
    rw [tokens_of_isSpace hblank]
    exact .nil
  | token l l' gap lexeme t h ih =>
    rw [h.tokens]
    refine .cons (fun u hu => ?_) ih
    rw [h.span, ← h.position]
    exact position_le_start hu

end Lexer

/-- A token that reaches the end of a text is the last one. -/
theorem getLast?_of_stop_eq {ts : List Token} {t : Token} {stop : Nat} (ht : t ∈ ts)
    (horder : ts.Pairwise fun t u => t.span.stop ≤ u.span.start)
    (hspans : ∀ u ∈ ts, u.span.start < u.span.stop ∧ u.span.stop ≤ stop)
    (hstop : t.span.stop = stop) : ts.getLast? = some t := by
  obtain ⟨xs, ys, rfl⟩ := List.append_of_mem ht
  cases ys with
  | nil => simp
  | cons u ys =>
    have htail := (List.pairwise_append.mp horder).2.1
    have hle := List.rel_of_pairwise_cons htail List.mem_cons_self
    have hu := hspans u (by simp)
    omega

/-- **Tokens that tile a text**: their spans are not empty and lie in the text between characters,
one behind another; nothing but white space lies between them; what a span covers is how its token
is written; and what reaches the end is the last token. -/
structure Tile (ts : List Token) (s : String) : Prop where
  inside : ∀ t ∈ ts, t.span.start < t.span.stop ∧ t.span.stop ≤ s.utf8ByteSize ∧
    (String.Pos.Raw.mk t.span.start).IsValid s ∧ (String.Pos.Raw.mk t.span.stop).IsValid s
  order : ts.Pairwise fun t u => t.span.start < u.span.start ∧ t.span.stop ≤ u.span.start
  between : ∀ span ∈ gaps s.utf8ByteSize 0 ts, ∃ front blank behind,
    span.Cuts s front blank behind ∧ ∀ c ∈ blank, isSpace c = true
  covered : ∀ t ∈ ts, ∃ front lexeme behind,
    t.span.Cuts s front lexeme behind ∧ t.IsSpelt lexeme behind
  last : ∀ t ∈ ts, t.span.stop = s.utf8ByteSize → ts.getLast? = some t

/-- **The tokens of a text tile it.**  They are what a lexer gives that is asked again and again, up
to the end; the end has an empty span at the end of the text, and is all that the lexer gives from
then on. -/
theorem tokens_tile_text (s : String) :
    Tile (tokenize s) s ∧ (∀ t ∈ tokenize s, t.kind ≠ .eof) ∧
      (∀ n, (Lexer.start s).nth n = nth s n) ∧
      ∀ n, nth s n = (tokenize s).getD n ⟨.eof, "", ⟨s.utf8ByteSize, s.utf8ByteSize⟩⟩ := by
  have hstart := Lexer.standsIn_start s
  have hstop := hstart.stop_eq
  have hend : endOf s = ⟨.eof, "", ⟨s.utf8ByteSize, s.utf8ByteSize⟩⟩ := by
    rw [endOf, byteLength_eq_utf8ByteSize, String.ofList_toList]
  have hcovered : ∀ t ∈ tokenize s, ∃ front lexeme behind,
      t.span.Cuts s front lexeme behind ∧ t.IsSpelt lexeme behind :=
    fun t ht => Lexer.exists_cuts_of_mem_tokens hstart ht
  have hspans : ∀ t ∈ tokenize s, t.span.start < t.span.stop ∧ t.span.stop ≤ s.utf8ByteSize := by
    intro t ht
    obtain ⟨_, _, _, hcuts, hspelt⟩ := hcovered t ht
    exact ⟨hcuts.start_lt_stop hspelt.ne_nil, hcuts.stop_le⟩
  have horder : (tokenize s).Pairwise fun t u => t.span.stop ≤ u.span.start :=
    Lexer.pairwise_tokens (Lexer.start s)
  refine ⟨⟨?_, ?_, ?_, hcovered, fun t ht => getLast?_of_stop_eq ht horder hspans⟩,
    fun t => kind_ne_eof_of_mem_tokenize, ?_, fun n => by rw [nth, hend]⟩
  · intro t ht
    obtain ⟨_, _, _, hcuts, -⟩ := hcovered t ht
    exact ⟨(hspans t ht).1, (hspans t ht).2, hcuts.isValid⟩
  · refine horder.imp_of_mem fun ht _ hle => ⟨?_, hle⟩
    exact (hspans _ ht).1.trans_le hle
  · intro span hspan
    exact Lexer.exists_cuts_of_mem_gaps hstart (by rwa [hstop])
  · intro n
    rw [nth, hend, ← hstop]
    exact Lexer.nth_eq _ n

end Token

end TableQuery
