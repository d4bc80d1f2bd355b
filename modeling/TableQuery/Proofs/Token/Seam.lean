import TableQuery.Token.Lexer

/-!
# Proofs/Token/Seam — the tokens of a text inside a larger one

Two things tell where a text stands in a larger one.  Its tokens are **moved** by the bytes in front
of it and are the same otherwise (`scan_moved`).  What stands behind it starts afresh, unless it
goes on with the last word or falls into a string that is still open (`scan_append`).  An open
string shows in its span: a closed one covers its text and two quotes (`IsClosed`), and one that
runs to the end of the text lacks a byte (`not_isClosed_of_fits`).
-/

namespace TableQuery.Token

open TableQuery.Text

/-! ## Bytes -/

theorem byteLength_cons (c : Char) (cs : List Char) :
    byteLength (c :: cs) = c.utf8Size + byteLength cs := rfl

theorem byteLength_append (cs ds : List Char) :
    byteLength (cs ++ ds) = byteLength cs + byteLength ds := by
  induction cs with
  | nil => exact (Nat.zero_add _).symm
  | cons c cs ih => rw [List.cons_append, byteLength_cons, byteLength_cons, ih, Nat.add_assoc]

/-! ## Moved tokens -/

/-- A token with `n` more bytes in front of it. -/
def moved (n : Nat) (t : Token) : Token := { t with span := ⟨t.span.start + n, t.span.stop + n⟩ }

/-- What is pending, with `n` more bytes in front of it. -/
def Pending.moved (n : Nat) : Pending → Pending
  | .none => .none
  | .word start rev => .word (start + n) rev
  | .quote start rev => .quote (start + n) rev

theorem enter_moved (n pos : Nat) (c : Char) :
    enter (pos + n) c = ((enter pos c).1.map (Token.moved n), (enter pos c).2.moved n) := by
  have hofChar (kind : Kind) : ofChar kind (pos + n) c = (ofChar kind pos c).moved n := by
    simp [ofChar, Token.moved, Nat.add_right_comm]
  unfold enter
  simp only [hofChar]
  split
  · rfl
  split
  · rfl
  split
  · rfl
  split
  · rfl
  split <;> rfl

/-- **The tokens of a text are moved by what stands in front of it.** -/
theorem scan_moved (n : Nat) (p : Pending) (pos : Nat) (cs : List Char) :
    scan (p.moved n) (pos + n) cs = (scan p pos cs).map (Token.moved n) := by
  fun_induction scan p pos cs with
  | case1 => rfl
  | case2 => rfl
  | case3 => rfl
  | case4 pos c cs ts p hp ih =>
    rw [Pending.moved, scan, enter_moved, hp, List.map_append, ← ih, Nat.add_right_comm]
  | case5 start rev pos c cs hc ih =>
    rw [Pending.moved, scan, if_pos hc, ← ih, Nat.add_right_comm]
    rfl
  | case6 start rev pos c cs hc ts p hp ih =>
    rw [Pending.moved, scan, if_neg hc, enter_moved, hp, List.map_append, ← ih, Nat.add_right_comm]
    rfl
  | case7 start rev pos c cs hc ih =>
    rw [Pending.moved, scan, if_pos hc, List.map_cons, ← ih, Nat.add_right_comm]
    rfl
  | case8 start rev pos c cs hc ih =>
    rw [Pending.moved, scan, if_neg hc, ← ih, Nat.add_right_comm]
    rfl

/-! ## Closed strings -/

/-- Whether a token covers its text and two quotes. -/
def IsClosed (t : Token) : Prop := t.span.stop = t.span.start + byteLength t.text.toList + 2

/-- **Every string of a list of tokens has its closing quote.** -/
def ClosesStrings (ts : List Token) : Prop := ∀ t ∈ ts, t.kind = .string → t.IsClosed

instance (ts : List Token) : Decidable (ClosesStrings ts) :=
  inferInstanceAs (Decidable (∀ t ∈ ts, t.kind = .string → t.span.stop = _))

theorem ClosesStrings.moved {ts : List Token} (h : ClosesStrings ts) (n : Nat) :
    ClosesStrings (ts.map (Token.moved n)) := by
  intro t ht hkind
  obtain ⟨u, hu, rfl⟩ := List.mem_map.mp ht
  have hclosed : u.span.stop = u.span.start + byteLength u.text.toList + 2 := h u hu hkind
  simp only [IsClosed, Token.moved, hclosed]
  omega

/-- A string that is pending covers its quote and its characters so far. -/
def Pending.Fits (pos : Nat) : Pending → Prop
  | .quote start rev => pos = start + 1 + byteLength rev.reverse
  | _ => True

theorem fits_enter (pos : Nat) (c : Char) : (enter pos c).2.Fits (pos + c.utf8Size) := by
  unfold enter
  split
  · trivial
  split
  · trivial
  split
  · trivial
  split
  · rename_i hc
    rw [beq_iff_eq.mp hc]
    rfl
  split <;> trivial

theorem Pending.Fits.cons {start pos : Nat} {rev : List Char} (c : Char)
    (h : (Pending.quote start rev).Fits pos) :
    (Pending.quote start (c :: rev)).Fits (pos + c.utf8Size) := by
  simp only [Pending.Fits] at h ⊢
  rw [List.reverse_cons, byteLength_append, h, Nat.add_assoc]
  rfl

/-- A string that is pending at the end of a text is not closed. -/
theorem not_isClosed_of_fits {start pos : Nat} {rev : List Char}
    (h : (Pending.quote start rev).Fits pos) : ¬ (ofQuote start pos rev).IsClosed := by
  simp only [Pending.Fits] at h
  simp only [IsClosed, ofQuote, String.toList_ofList]
  omega

/-! ## Seams -/

/-- A character that does not continue a word ends it. -/
theorem scan_word_cons {start pos : Nat} {rev cs : List Char} {c : Char}
    (h : continuesWord c = false) :
    scan (.word start rev) pos (c :: cs) = ofWord start pos rev :: scan .none pos (c :: cs) := by
  rw [scan, scan, h]
  rfl

/-- **Behind closed strings a text starts afresh**, with any character that does not continue a
word. -/
theorem scan_append {p : Pending} {pos : Nat} {cs rest : List Char} {c : Char} (hp : p.Fits pos)
    (hclosed : ClosesStrings (scan p pos cs)) (hc : continuesWord c = false) :
    scan p pos (cs ++ c :: rest)
      = scan p pos cs ++ scan .none (pos + byteLength cs) (c :: rest) := by
  fun_induction scan p pos cs with
  | case1 pos => rfl
  | case2 start rev pos => exact scan_word_cons hc
  | case3 start rev pos =>
    exact absurd (hclosed _ List.mem_cons_self rfl) (not_isClosed_of_fits hp)
  | case4 pos d cs ts p henter ih =>
    have hfits := fits_enter pos d
    rw [henter] at hfits
    rw [byteLength_cons, ← Nat.add_assoc, List.append_assoc,
      ← ih hfits fun t ht => hclosed t (List.mem_append_right _ ht), List.cons_append, scan, henter]
  | case5 start rev pos d cs hd ih =>
    rw [byteLength_cons, ← Nat.add_assoc, ← ih trivial hclosed, List.cons_append, scan, if_pos hd]
  | case6 start rev pos d cs hd ts p henter ih =>
    have hfits := fits_enter pos d
    rw [henter] at hfits
    rw [byteLength_cons, ← Nat.add_assoc, List.append_assoc,
      ← ih hfits fun t ht => hclosed t (List.mem_append_right _ ht), List.cons_append, scan,
      if_neg hd, henter]
  | case7 start rev pos d cs hd ih =>
    have hsize : d.utf8Size = 1 := by
      rw [beq_iff_eq.mp hd]
      rfl
    rw [byteLength_cons, ← Nat.add_assoc, hsize, List.cons_append, List.cons_append,
      ← ih trivial fun t ht => hclosed t (List.mem_cons_of_mem _ ht), scan, if_pos hd]
  | case8 start rev pos d cs hd ih =>
    rw [byteLength_cons, ← Nat.add_assoc, ← ih (hp.cons d) hclosed, List.cons_append, scan,
      if_neg hd]

end TableQuery.Token
