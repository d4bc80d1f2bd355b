import Mathlib
import TableQuery.OrderBy
import TableQuery.Proofs.Grammar
import TableQuery.Proofs.Token.Layout

/-!
# Proofs/OrderBy — keys that are written are read back, and every word is read once

The words for directions are words like any others, so a property may be called *asc* or *desc*.
What a word means is told from the word in front of it alone: behind a property it is a direction if
it can be one.  Two facts follow:

* every text falls into **runs** of words, and a run is read **greedily** as properties, each with
  the direction behind it (`ofTokens_eq_of_isGreedy`);
* keys that are written with something between them that is no word, or with their directions, are
  read as themselves (`ofTokens_of_isWritten`).
-/

namespace TableQuery.OrderBy

open Token TableQuery.Text

/-! ## One word at a time -/

theorem Direction.eq_of_isKeyword {t : Token} {d d' : Direction}
    (h : t.isKeyword d.keyword = true) (h' : t.isKeyword d'.keyword = true) : d = d' := by
  simp only [isKeyword, Bool.and_eq_true] at h h'
  have hlower := Grammar.lower_eq_of_eqIgnoreCase h.2 h'.2
  revert hlower
  cases d <;> cases d' <;> decide

theorem isKeyword_of_direction? {t : Token} {d : Direction} (h : direction? t = some d) :
    t.isKeyword d.keyword = true := by
  unfold direction? at h
  split at h
  · cases h
    assumption
  split at h
  · cases h
    assumption
  · cases h

theorem direction?_eq_none_iff {t : Token} :
    direction? t = none ↔ ∀ d : Direction, t.isKeyword d.keyword = false := by
  constructor
  · intro h d
    unfold direction? at h
    split at h
    · cases h
    split at h
    · cases h
    rename_i hdescending hascending
    cases d with
    | ascending => exact Bool.eq_false_iff.mpr hascending
    | descending => exact Bool.eq_false_iff.mpr hdescending
  · intro h
    simp [direction?, h]

/-- **A word names a direction exactly if it is the word for it**, in letters of either case. -/
theorem direction?_eq_some_iff {t : Token} {d : Direction} :
    direction? t = some d ↔ t.isKeyword d.keyword = true := by
  refine ⟨isKeyword_of_direction?, fun h => ?_⟩
  cases hd : direction? t with
  | none => simp [direction?_eq_none_iff.mp hd d] at h
  | some d' => rw [Direction.eq_of_isKeyword (isKeyword_of_direction? hd) h]

theorem direction?_of_kind_ne {t : Token} (h : t.kind ≠ .ident) : direction? t = none := by
  simp [direction?, isKeyword, h]

/-- What is no word only separates. -/
theorem ofTokens_cons_of_kind_ne {t : Token} (h : t.kind ≠ .ident) (ts : List Token) :
    ofTokens (t :: ts) = ofTokens ts := by
  cases ts with
  | nil => simp [ofTokens, h]
  | cons u ts => simp [ofTokens, h]

theorem ofTokens_directed {t u : Token} {d : Direction} (ht : t.kind = .ident)
    (hu : direction? u = some d) (ts : List Token) :
    ofTokens (t :: u :: ts) = ⟨t.text, d⟩ :: ofTokens ts := by
  simp [ofTokens, ht, hu]

theorem ofTokens_bare {t : Token} {ts : List Token} (ht : t.kind = .ident)
    (h : ∀ u ∈ ts.head?, direction? u = none) :
    ofTokens (t :: ts) = ⟨t.text, .ascending⟩ :: ofTokens ts := by
  cases ts with
  | nil => simp [ofTokens, ht]
  | cons u ts => simp [ofTokens, ht, h u rfl]

/-- **Nothing is read across a token that is no word.** -/
theorem ofTokens_append_cons {t : Token} (h : t.kind ≠ .ident) (us ts : List Token) :
    ofTokens (us ++ t :: ts) = ofTokens us ++ ofTokens ts := by
  fun_induction ofTokens us with
  | case1 => exact ofTokens_cons_of_kind_ne h ts
  | case2 u hu =>
    have hnone : ∀ v ∈ (t :: ts).head?, direction? v = none := by
      simpa using direction?_of_kind_ne h
    rw [List.singleton_append, ofTokens_bare hu hnone, ofTokens_cons_of_kind_ne h]
    rfl
  | case3 u hu =>
    rw [List.singleton_append, ofTokens_cons_of_kind_ne hu, ofTokens_cons_of_kind_ne h]
    rfl
  | case4 u v us hu ih => rw [List.cons_append, ofTokens_cons_of_kind_ne hu, ih]
  | case5 u v us hu d hd ih =>
    rw [List.cons_append, List.cons_append, ofTokens_directed (by simpa using hu) hd, ih]
    rfl
  | case6 u v us hu hnone ih =>
    rw [List.cons_append, ofTokens_bare (by simpa using hu) (by simpa using hnone), ih]
    rfl

theorem ofTokens_append_of_kind_ne {us : List Token} (h : ∀ t ∈ us, t.kind ≠ .ident)
    (ts : List Token) : ofTokens (us ++ ts) = ofTokens ts := by
  induction us with
  | nil => rfl
  | cons u us ih =>
    rw [List.forall_mem_cons] at h
    rw [List.cons_append, ofTokens_cons_of_kind_ne h.1, ih h.2]

/-! ## Runs of words -/

/-- **The runs of words of a list of tokens**, as long as they can be. -/
def runs (ts : List Token) : List (List Token) :=
  (ts.splitOnP fun t => t.kind ≠ .ident).filter fun run => !run.isEmpty

/-- Tokens are words only, or a token that is no word stands between two lists of them. -/
@[elab_as_elim]
theorem runs_induction {motive : List Token → Prop}
    (run : ∀ ts, (∀ t ∈ ts, t.kind = .ident) → motive ts)
    (cut : ∀ us t ts, t.kind ≠ .ident → motive us → motive ts → motive (us ++ t :: ts))
    (ts : List Token) : motive ts := by
  induction hn : ts.length using Nat.strongRecOn generalizing ts with
  | ind n ih =>
    by_cases hwords : ∀ t ∈ ts, t.kind = .ident
    · exact run ts hwords
    · push Not at hwords
      obtain ⟨t, ht, hkind⟩ := hwords
      obtain ⟨us, vs, rfl⟩ := List.append_of_mem ht
      simp only [List.length_append, List.length_cons] at hn
      exact cut us t vs hkind (ih us.length (by omega) us rfl) (ih vs.length (by omega) vs rfl)

theorem runs_of_words {ts : List Token} (h : ∀ t ∈ ts, t.kind = .ident) :
    runs ts = if ts = [] then [] else [ts] := by
  rw [runs, List.splitOnP_eq_singleton (by simpa using h)]
  cases ts <;> simp

theorem runs_append_cons {t : Token} (h : t.kind ≠ .ident) (us ts : List Token) :
    runs (us ++ t :: ts) = runs us ++ runs ts := by
  rw [runs, List.splitOnP_append_cons us ts (by simpa using h), List.filter_append]
  rfl

/-- **The runs hold the words of a list, in their order.** -/
theorem flatten_runs (ts : List Token) : (runs ts).flatten = ts.filter (·.kind = .ident) := by
  induction ts using runs_induction with
  | run ts h =>
    rw [runs_of_words h, List.filter_eq_self.mpr (by simpa using h)]
    split <;> simp_all
  | cut us t ts h ihu iht =>
    rw [runs_append_cons h, List.flatten_append, ihu, iht, List.filter_append,
      List.filter_cons_of_neg (by simpa using h)]

theorem ofTokens_eq_flatMap_runs (ts : List Token) : ofTokens ts = (runs ts).flatMap ofTokens := by
  induction ts using runs_induction with
  | run ts h =>
    rw [runs_of_words h]
    split <;> simp_all [ofTokens]
  | cut us t ts h ihu iht =>
    rw [ofTokens_append_cons h, runs_append_cons h, List.flatMap_append, ihu, iht]

theorem kind_of_mem_runs {ts run : List Token} (h : run ∈ runs ts) :
    ∀ t ∈ run, t.kind = .ident := by
  intro t ht
  have hmem : t ∈ (runs ts).flatten := List.mem_flatten.mpr ⟨run, h, ht⟩
  rw [flatten_runs, List.mem_filter] at hmem
  simpa using hmem.2

/-! ## Greedy reading -/

/-- A key as the words of a text: a property alone, or with a direction behind it. -/
inductive Item where
  | bare (field : Token)
  | directed (field word : Token) (direction : Direction)

namespace Item

/-- The words that make the item. -/
def tokens : Item → List Token
  | .bare field => [field]
  | .directed field word _ => [field, word]

/-- The key that the item names. -/
def key : Item → OrderBy
  | .bare field => ⟨field.text, .ascending⟩
  | .directed field _ direction => ⟨field.text, direction⟩

end Item

/-- **Items that are read greedily**: the word behind a property without a direction, if there is
one, names no direction. -/
inductive IsGreedy : List Item → Prop where
  | nil : IsGreedy []
  | directed {field word : Token} {d : Direction} {items : List Item} :
      word.isKeyword d.keyword = true → IsGreedy items →
      IsGreedy (.directed field word d :: items)
  | bare {field : Token} {items : List Item} :
      (∀ t ∈ (items.flatMap Item.tokens).head?, ∀ d : Direction, t.isKeyword d.keyword = false) →
      IsGreedy items → IsGreedy (.bare field :: items)

/-- Greedy items are what is read from their words. -/
theorem ofTokens_of_isGreedy {items : List Item} (h : IsGreedy items)
    (hwords : ∀ t ∈ items.flatMap Item.tokens, t.kind = .ident) :
    ofTokens (items.flatMap Item.tokens) = items.map Item.key := by
  induction h with
  | nil => rfl
  | @directed field word d items hword _ ih =>
    simp only [List.flatMap_cons, Item.tokens, List.cons_append, List.nil_append,
      List.forall_mem_cons] at hwords ⊢
    rw [ofTokens_directed hwords.1 (direction?_eq_some_iff.mpr hword), ih hwords.2.2]
    rfl
  | @bare field items hnone _ ih =>
    simp only [List.flatMap_cons, Item.tokens, List.cons_append, List.nil_append,
      List.forall_mem_cons] at hwords ⊢
    rw [ofTokens_bare hwords.1 fun t ht => direction?_eq_none_iff.mpr (hnone t ht), ih hwords.2]
    rfl

/-- **Every list of words is made of greedy items.** -/
theorem exists_isGreedy (ts : List Token) :
    ∃ items, IsGreedy items ∧ items.flatMap Item.tokens = ts := by
  induction hn : ts.length using Nat.strongRecOn generalizing ts with
  | ind n ih =>
    match ts, hn with
    | [], _ => exact ⟨[], .nil, rfl⟩
    | [t], _ => exact ⟨[.bare t], .bare (by simp) .nil, rfl⟩
    | t :: u :: ts, hn =>
      simp only [List.length_cons] at hn
      cases hd : direction? u with
      | some d =>
        obtain ⟨items, hgreedy, rfl⟩ := ih ts.length (by omega) ts rfl
        exact ⟨.directed t u d :: items, .directed (direction?_eq_some_iff.mp hd) hgreedy, rfl⟩
      | none =>
        obtain ⟨items, hgreedy, htokens⟩ := ih (ts.length + 1) (by omega) (u :: ts) rfl
        refine ⟨.bare t :: items, .bare ?_ hgreedy, by simp [Item.tokens, htokens]⟩
        simpa [htokens] using direction?_eq_none_iff.mp hd

/-- Every list of runs is made of greedy items. -/
theorem exists_isGreedy_runs (rs : List (List Token)) : ∃ items : List (List Item),
    items.map (List.flatMap Item.tokens) = rs ∧ ∀ run ∈ items, IsGreedy run := by
  induction rs with
  | nil => exact ⟨[], rfl, List.forall_mem_nil _⟩
  | cons run rs ih =>
    obtain ⟨items, htokens, hgreedy⟩ := ih
    obtain ⟨first, hfirst, rfl⟩ := exists_isGreedy run
    refine ⟨first :: items, ?_, List.forall_mem_cons.mpr ⟨hfirst, hgreedy⟩⟩
    rw [List.map_cons, htokens]

/-- **The keys of a text are those of its runs, read greedily.** -/
theorem ofTokens_eq_of_isGreedy {ts : List Token} {items : List (List Item)}
    (htokens : items.map (List.flatMap Item.tokens) = runs ts)
    (hgreedy : ∀ run ∈ items, IsGreedy run) : ofTokens ts = items.flatten.map Item.key := by
  have hrun : ∀ run ∈ items, ofTokens (run.flatMap Item.tokens) = run.map Item.key := by
    intro run hmem
    have hruns : run.flatMap Item.tokens ∈ runs ts := htokens ▸ List.mem_map_of_mem hmem
    exact ofTokens_of_isGreedy (hgreedy run hmem) (kind_of_mem_runs hruns)
  calc ofTokens ts = (items.map (List.flatMap Item.tokens)).flatMap ofTokens := by
        rw [htokens, ofTokens_eq_flatMap_runs]
    _ = items.flatMap fun run => ofTokens (run.flatMap Item.tokens) := List.flatMap_map ..
    _ = items.flatMap (List.map Item.key) := List.flatMap_congr hrun
    _ = items.flatten.map Item.key := by rw [List.map_flatten, List.flatMap_def]

/-! ## Gaps between keys -/

/-- **What separates keys if white space sets it off**: characters that are tokens by themselves,
words that are no names, and strings with their closing quotes. -/
inductive IsFiller : List Char → Prop where
  | nil : IsFiller []
  | mark {c : Char} {cs : List Char} : isSpace c = false → c ≠ '\'' → opensWord c = false →
      IsFiller cs → IsFiller (c :: cs)
  | word {text cs : List Char} : isWord text = true → classify text ≠ .ident → StopsWord cs →
      IsFiller cs → IsFiller (text ++ cs)
  | quoted {text cs : List Char} : '\'' ∉ text → IsFiller cs →
      IsFiller ('\'' :: (text ++ ['\'']) ++ cs)

/-- **What may stand between two keys**: white space, commas, and fillers with white space on either
side. -/
inductive IsGap : List Char → Prop where
  | nil : IsGap []
  | space {c : Char} {cs : List Char} : isSpace c = true → IsGap cs → IsGap (c :: cs)
  | comma {cs : List Char} : IsGap cs → IsGap (',' :: cs)
  | filler {c d : Char} {text cs : List Char} : isSpace c = true → IsFiller text →
      isSpace d = true → IsGap (d :: cs) → IsGap (c :: (text ++ d :: cs))

theorem markKind_ne_ident (c : Char) : markKind c ≠ .ident := by
  unfold markKind
  split
  · simp
  split <;> simp

theorem stopsWord_space {c : Char} (h : isSpace c = true) (cs : List Char) :
    StopsWord (c :: cs) := by
  intro d hd
  obtain rfl : c = d := Option.some.inj hd
  exact continuesWord_of_isSpace h

/-- **A filler is read as tokens that are no words.** -/
theorem exists_scan_filler {text : List Char} (h : IsFiller text) {d : Char}
    (hd : isSpace d = true) (pos : Nat) (rest : List Char) : ∃ ts pos',
      (∀ t ∈ ts, t.kind ≠ .ident) ∧ (text ≠ [] → ts ≠ []) ∧
      scan .none pos (text ++ d :: rest) = ts ++ scan .none pos' (d :: rest) := by
  induction h generalizing pos with
  | nil => exact ⟨[], pos, List.forall_mem_nil _, by simp, rfl⟩
  | @mark c cs hspace hquote hopens _ ih =>
    obtain ⟨ts, pos', hts, -, hscan⟩ := ih (pos + c.utf8Size)
    refine ⟨ofChar (markKind c) pos c :: ts, pos', ?_, fun _ => List.cons_ne_nil _ _, ?_⟩
    · exact List.forall_mem_cons.mpr ⟨markKind_ne_ident c, hts⟩
    · rw [List.cons_append, scan_none_cons (enter_of_not_opensWord hspace hquote hopens pos), hscan,
        List.cons_append, List.nil_append, List.cons_append]
  | @word text cs hword hclassify hstop _ ih =>
    have hrest : StopsWord (cs ++ d :: rest) := by
      cases cs with
      | nil => exact stopsWord_space hd rest
      | cons c cs => exact hstop
    obtain ⟨ts, pos', hts, -, hscan⟩ := ih (pos + byteLength text)
    refine ⟨ofWord pos (pos + byteLength text) text.reverse :: ts, pos', ?_,
      fun _ => List.cons_ne_nil _ _, ?_⟩
    · exact List.forall_mem_cons.mpr ⟨by simpa [ofWord] using hclassify, hts⟩
    · rw [List.append_assoc, scan_isWord hword hrest, hscan, List.cons_append]
  | @quoted text cs hquote _ ih =>
    obtain ⟨ts, pos', hts, -, hscan⟩ := ih (pos + 1 + byteLength text + 1)
    refine ⟨ofQuote pos (pos + 1 + byteLength text + 1) text.reverse :: ts, pos', ?_,
      fun _ => List.cons_ne_nil _ _, ?_⟩
    · exact List.forall_mem_cons.mpr ⟨by simp [ofQuote], hts⟩
    · rw [List.append_assoc, scan_quoted hquote, hscan, List.cons_append]

/-- **A gap is read as tokens that are no words**, at least one if it is more than white space. -/
theorem exists_scan_gap {gap : List Char} (h : IsGap gap) (pos : Nat) (rest : List Char) :
    ∃ ts pos', (∀ t ∈ ts, t.kind ≠ .ident) ∧ ((∃ c ∈ gap, isSpace c = false) → ts ≠ []) ∧
      scan .none pos (gap ++ rest) = ts ++ scan .none pos' rest := by
  have hspace {c : Char} (hc : isSpace c = true) (pos : Nat) (cs : List Char) :
      scan .none pos (c :: cs) = scan .none (pos + byteLength [c]) cs := by
    rw [← List.singleton_append]
    exact scan_spaces cs (by simpa using hc)
  induction h generalizing pos with
  | nil => exact ⟨[], pos, List.forall_mem_nil _, by simp, rfl⟩
  | @space c cs hc _ ih =>
    obtain ⟨ts, pos', hts, hne, hscan⟩ := ih (pos + byteLength [c])
    refine ⟨ts, pos', hts, ?_, by rw [List.cons_append, hspace hc, hscan]⟩
    simpa [hc] using hne
  | @comma cs _ ih =>
    obtain ⟨ts, pos', hts, -, hscan⟩ := ih (pos + ','.utf8Size)
    refine ⟨ofChar (markKind ',') pos ',' :: ts, pos', ?_, by simp, ?_⟩
    · exact List.forall_mem_cons.mpr ⟨markKind_ne_ident ',', hts⟩
    · rw [List.cons_append, scan_mark (by decide), hscan, List.cons_append]
  | @filler c d text cs hc htext hd _ ih =>
    obtain ⟨ts, pos₁, hts, htsne, hfiller⟩ :=
      exists_scan_filler htext hd (pos + byteLength [c]) (cs ++ rest)
    obtain ⟨us, pos', hus, husne, hscan⟩ := ih pos₁
    refine ⟨ts ++ us, pos', List.forall_mem_append.mpr ⟨hts, hus⟩, ?_, ?_⟩
    · intro hgap hnil
      obtain ⟨rfl, rfl⟩ := List.append_eq_nil_iff.mp hnil
      obtain rfl : text = [] := by_contra fun htextne => htsne htextne rfl
      exact husne (by simpa [hc] using hgap) rfl
    · rw [List.cons_append, hspace hc, List.append_assoc, List.cons_append, hfiller,
        ← List.cons_append, hscan, List.append_assoc]

/-- A gap ends a word. -/
theorem IsGap.stopsWord {gap cs : List Char} (h : IsGap gap) (hne : gap = [] → cs = []) :
    StopsWord (gap ++ cs) := by
  cases h with
  | nil => simp [StopsWord, hne rfl]
  | space hc | filler hc => exact stopsWord_space hc _
  | comma =>
    intro d hd
    obtain rfl : ',' = d := Option.some.inj hd
    decide

/-! ## Keys as they are written -/

/-- **A text that writes keys**, one behind the other.  The direction stands behind the property, in
letters of either case; it may be left out of an ascending key if something that is no word follows,
or nothing. -/
inductive IsWritten : List OrderBy → List Char → Prop where
  | nil : IsWritten [] []
  | directed {key : OrderBy} {keys : List OrderBy} {blank word gap cs : List Char} :
      (∀ c ∈ blank, isSpace c = true) → blank ≠ [] →
      eqIgnoreCase (String.ofList word) key.direction.keyword = true →
      IsGap gap → (keys ≠ [] → gap ≠ []) → IsWritten keys cs →
      IsWritten (key :: keys) (key.field.toList ++ (blank ++ (word ++ (gap ++ cs))))
  | bare {field : String} {keys : List OrderBy} {gap cs : List Char} :
      IsGap gap → (keys ≠ [] → ∃ c ∈ gap, isSpace c = false) → IsWritten keys cs →
      IsWritten (⟨field, .ascending⟩ :: keys) (field.toList ++ (gap ++ cs))

/-- **A text that writes keys**, with what may stand between keys in front of the first one. -/
def IsWrittenAs (keys : List OrderBy) (s : String) : Prop :=
  ∃ gap cs, IsGap gap ∧ IsWritten keys cs ∧ s.toList = gap ++ cs

/-- Whether a property is a word that the lexer takes for a name. -/
def IsName (field : String) : Prop :=
  isWord field.toList = true ∧ classify field.toList = .ident

/-- A name is read as one word. -/
theorem exists_scan_name {field : String} (h : IsName field) {rest : List Char}
    (hrest : StopsWord rest) (pos : Nat) : ∃ t pos', t.kind = .ident ∧ t.text = field ∧
      scan .none pos (field.toList ++ rest) = t :: scan .none pos' rest := by
  obtain ⟨t, pos', ⟨hkind, htext⟩, hscan⟩ :=
    scan_isWritten (l := .word field) h.1 rfl (fun _ => hrest) pos
  exact ⟨t, pos', hkind.trans h.2, htext, hscan⟩

/-- The word for a direction is read as one that names it. -/
theorem exists_scan_direction {d : Direction} {word rest : List Char}
    (h : eqIgnoreCase (String.ofList word) d.keyword = true) (hrest : StopsWord rest) (pos : Nat) :
    ∃ t pos', direction? t = some d ∧
      scan .none pos (word ++ rest) = t :: scan .none pos' rest := by
  have hproper : (Lexeme.keyword d.keyword).IsProper := by
    change isKeywordText d.keyword.toList = true
    cases d <;> decide
  obtain ⟨t, pos', ht, hscan⟩ := scan_isWritten hproper h (fun _ => hrest) pos
  exact ⟨t, pos', direction?_eq_some_iff.mpr ht, hscan⟩

/-- A key with its direction is read, and what follows is read as if it stood alone. -/
theorem exists_ofTokens_directed {key : OrderBy} {blank word gap cs : List Char}
    (hname : IsName key.field) (hblank : ∀ c ∈ blank, isSpace c = true) (hne : blank ≠ [])
    (hword : eqIgnoreCase (String.ofList word) key.direction.keyword = true) (hgap : IsGap gap)
    (hend : gap = [] → cs = []) (pos : Nat) : ∃ pos',
      ofTokens (scan .none pos (key.field.toList ++ (blank ++ (word ++ (gap ++ cs))))) =
        key :: ofTokens (scan .none pos' cs) := by
  have hstop : StopsWord (blank ++ (word ++ (gap ++ cs))) := by
    obtain ⟨b, bs, rfl⟩ := List.exists_cons_of_ne_nil hne
    exact stopsWord_space (hblank b List.mem_cons_self) _
  obtain ⟨t, pos₁, hkind, htext, hscan⟩ := exists_scan_name hname hstop pos
  obtain ⟨u, pos₂, hdirection, hscan'⟩ :=
    exists_scan_direction hword (hgap.stopsWord hend) (pos₁ + byteLength blank)
  obtain ⟨ts, pos₃, hts, -, hbehind⟩ := exists_scan_gap hgap pos₂ cs
  refine ⟨pos₃, ?_⟩
  rw [hscan, scan_spaces _ hblank, hscan', ofTokens_directed hkind hdirection, hbehind,
    ofTokens_append_of_kind_ne hts, htext]

/-- So is a property alone, if something that is no word follows or nothing: then no direction can
be taken from the next key. -/
theorem exists_ofTokens_bare {field : String} {gap cs : List Char} (hname : IsName field)
    (hgap : IsGap gap) (hsep : cs ≠ [] → ∃ c ∈ gap, isSpace c = false) (pos : Nat) : ∃ pos',
      ofTokens (scan .none pos (field.toList ++ (gap ++ cs))) =
        ⟨field, .ascending⟩ :: ofTokens (scan .none pos' cs) := by
  have hstop : StopsWord (gap ++ cs) := by
    refine hgap.stopsWord fun hnil => by_contra fun hcs => ?_
    obtain ⟨c, hc, -⟩ := hsep hcs
    simp [hnil] at hc
  obtain ⟨t, pos₁, hkind, htext, hscan⟩ := exists_scan_name hname hstop pos
  obtain ⟨ts, pos₂, hts, htsne, hbehind⟩ := exists_scan_gap hgap pos₁ cs
  have hnone : ∀ u ∈ (ts ++ scan .none pos₂ cs).head?, direction? u = none := by
    cases ts with
    | cons u ts => simpa using direction?_of_kind_ne (hts u List.mem_cons_self)
    | nil =>
      obtain rfl : cs = [] := by_contra fun hcs => htsne (hsep hcs) rfl
      simp [scan]
  refine ⟨pos₂, ?_⟩
  rw [hscan, hbehind, ofTokens_bare hkind hnone, ofTokens_append_of_kind_ne hts, htext]

theorem IsWritten.eq_nil {cs : List Char} (h : IsWritten [] cs) : cs = [] := by
  cases h
  rfl

/-- **Keys that are written are read back.** -/
theorem ofTokens_of_isWritten {keys : List OrderBy} {cs : List Char} (h : IsWritten keys cs)
    (hnames : ∀ key ∈ keys, IsName key.field) (pos : Nat) :
    ofTokens (scan .none pos cs) = keys := by
  induction h generalizing pos with
  | nil => rfl
  | @directed key keys blank word gap cs hblank hne hword hgap hgapne hcs ih =>
    rw [List.forall_mem_cons] at hnames
    have hend (hnil : gap = []) : cs = [] := by
      obtain rfl : keys = [] := by_contra fun hkeys => hgapne hkeys hnil
      exact hcs.eq_nil
    obtain ⟨pos', hread⟩ := exists_ofTokens_directed hnames.1 hblank hne hword hgap hend pos
    rw [hread, ih hnames.2]
  | @bare field keys gap cs hgap hsep hcs ih =>
    rw [List.forall_mem_cons] at hnames
    have hkeys (hne : cs ≠ []) : keys ≠ [] := by
      rintro rfl
      exact hne hcs.eq_nil
    obtain ⟨pos', hread⟩ :=
      exists_ofTokens_bare hnames.1 hgap (fun hne => hsep (hkeys hne)) pos
    rw [hread, ih hnames.2]

/-- Every list of keys can be written. -/
theorem exists_isWritten (keys : List OrderBy) : ∃ cs, IsWritten keys cs := by
  induction keys with
  | nil => exact ⟨[], .nil⟩
  | cons key keys ih =>
    obtain ⟨cs, hcs⟩ := ih
    have hword : eqIgnoreCase (String.ofList key.direction.keyword.toList)
        key.direction.keyword = true := by simp [eqIgnoreCase]
    have hblank : ∀ c ∈ [' '], isSpace c = true := by simp [isSpace]
    exact ⟨_, .directed hblank (List.cons_ne_nil _ _) hword (.comma .nil)
      (fun _ => List.cons_ne_nil _ _) hcs⟩

/-- **Keys that are written are read back, and whatever is read is read from each word once.**
Every list of keys whose properties are names can be written, and however it is written, it is read
as itself.  The keys of any text are those of its runs of words, read greedily; the words of all
items, one behind the other, are the words of the text. -/
theorem keys_read_back_and_words_read_once (keys : List OrderBy) (s : String) :
    ((∀ key ∈ keys, IsName key.field) →
      (∃ t, IsWrittenAs keys t) ∧ (IsWrittenAs keys s → read s = keys)) ∧
    (read s = keys ↔ ∃ items : List (List Item),
      items.map (List.flatMap Item.tokens) = runs (tokenize s) ∧
      (∀ run ∈ items, IsGreedy run) ∧
      items.flatten.flatMap Item.tokens = (tokenize s).filter (·.kind = .ident) ∧
      keys = items.flatten.map Item.key) := by
  refine ⟨fun hnames => ⟨?_, ?_⟩, ?_, ?_⟩
  · obtain ⟨cs, hcs⟩ := exists_isWritten keys
    exact ⟨String.ofList cs, [], cs, .nil, hcs, String.toList_ofList⟩
  · rintro ⟨gap, cs, hgap, hcs, hs⟩
    obtain ⟨ts, pos, hts, -, hscan⟩ := exists_scan_gap hgap 0 cs
    rw [read, tokenize, hs, hscan, ofTokens_append_of_kind_ne hts]
    exact ofTokens_of_isWritten hcs hnames pos
  · rintro rfl
    obtain ⟨items, htokens, hgreedy⟩ := exists_isGreedy_runs (runs (tokenize s))
    refine ⟨items, htokens, hgreedy, ?_, ofTokens_eq_of_isGreedy htokens hgreedy⟩
    rw [← flatten_runs, ← htokens, List.flatMap_def, List.map_flatten, List.flatten_flatten,
      List.map_map]
    rfl
  · rintro ⟨items, htokens, hgreedy, -, rfl⟩
    exact ofTokens_eq_of_isGreedy htokens hgreedy

/-- Properties called like directions, directions in mixed case, and between the keys a number with
a sign that could go on with a word, and a string with a comma in it. -/
theorem directions_as_names_read_back :
    ∃ keys s, keys = [⟨"asc", .ascending⟩, ⟨"desc", .descending⟩, ⟨"asc", .ascending⟩,
        ⟨"a", .descending⟩, ⟨"desc", .ascending⟩] ∧
      s = "asc ,desc DESC -1.5f 'x, y' asc aSC a\tdesc,desc" ∧
      (∀ key ∈ keys, IsName key.field) ∧ IsWrittenAs keys s ∧ read s = keys := by
  refine ⟨_, _, rfl, rfl, ?_⟩
  suffices h : (∀ key ∈ _, IsName (field key)) ∧ IsWrittenAs _ _ from
    ⟨h.1, h.2, ((keys_read_back_and_words_read_once _ _).1 h.1).2 h.2⟩
  have hasc : IsName "asc" := ⟨rfl, rfl⟩
  have hdesc : IsName "desc" := ⟨rfl, rfl⟩
  have ha : IsName "a" := ⟨rfl, rfl⟩
  have hnumber : IsFiller "-1.5f".toList := .mark rfl (by decide) rfl <|
    @IsFiller.word "1.5f".toList [] rfl (by decide) (by simp [StopsWord]) .nil
  have hstring : IsFiller "'x, y'".toList := @IsFiller.quoted "x, y".toList [] (by simp) .nil
  have hfillers : IsGap " -1.5f 'x, y' ".toList :=
    @IsGap.filler ' ' ' ' "-1.5f".toList _ rfl hnumber rfl <|
      @IsGap.filler ' ' ' ' "'x, y'".toList _ rfl hstring rfl (.space rfl .nil)
  refine ⟨by simp [hasc, hdesc, ha], [], _, .nil, ?_, rfl⟩
  exact @IsWritten.bare "asc" _ " ,".toList _ (.space rfl (.comma .nil)) (by simp [isSpace]) <|
    @IsWritten.directed ⟨"desc", .descending⟩ _ [' '] "DESC".toList _ _ (by simp [isSpace])
      (by simp) rfl hfillers (by simp) <|
    @IsWritten.directed ⟨"asc", .ascending⟩ _ [' '] "aSC".toList [' '] _ (by simp [isSpace])
      (by simp) rfl (.space rfl .nil) (by simp) <|
    @IsWritten.directed ⟨"a", .descending⟩ _ ['\t'] "desc".toList [','] _ (by simp [isSpace])
      (by simp) rfl (.comma .nil) (by simp) <|
    @IsWritten.bare "desc" [] [] [] .nil (by simp) .nil

end TableQuery.OrderBy
