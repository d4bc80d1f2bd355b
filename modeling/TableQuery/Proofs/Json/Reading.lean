import TableQuery.Json.Form

/-!
# Proofs/Json/Reading — what a reader takes

On a text a reader **gives** a value, if it takes just that text, or nothing, if it calls the text
nested too deeply, whatever stands behind it (`Gives`).  Some readers look ahead, so the beginning
of what stands behind may be fixed.  This is followed along `bind`, `located` and `closedBy`, and
from single characters up to strings: a string is read back from its escapes (`gives_stringBody`).
-/

namespace TableQuery.Json

open TableQuery.Text

/-- The place behind a text. -/
def Place.behind (p : Place) (text : List Char) : Place := text.foldl Place.after p

theorem Place.behind_append (p : Place) (text text' : List Char) :
    p.behind (text ++ text') = (p.behind text).behind text' := List.foldl_append

namespace Reader

variable {α β : Type}

/-! ## Runs -/

theorem runAt_bind_ok {r : Reader α} {c c' : Cursor} {a : α} (h : r.runAt c = (.ok a, c'))
    (f : α → Reader β) : (r >>= f).runAt c = (f a).runAt c' := by
  have hr : r c = (.ok a, c') := h
  change (StateT.bind r (ExceptT.bindCont f) : StateT Cursor Id _) c = _
  simp only [StateT.bind, hr]
  rfl

theorem runAt_bind_error {r : Reader α} {c c' : Cursor} {e : ReadError}
    (h : r.runAt c = (.error e, c')) (f : α → Reader β) :
    (r >>= f).runAt c = (.error e, c') := by
  have hr : r c = (.error e, c') := h
  change (StateT.bind r (ExceptT.bindCont f) : StateT Cursor Id _) c = _
  simp only [StateT.bind, hr]
  rfl

theorem runAt_get_bind (f : Cursor → Reader α) (c : Cursor) :
    (get >>= f : Reader α).runAt c = (f c).runAt c := rfl

theorem runAt_located_ok {r : Reader α} {c c' : Cursor} {a : α} (h : r.runAt c = (.ok a, c')) :
    (located r).runAt c = (.ok a, c') := by
  change located r c = _
  simp only [located, h]

/-- A place that is settled stays. -/
theorem runAt_located_error {r : Reader α} {c c' : Cursor} {cause : Cause} {place : Place}
    (h : r.runAt c = (.error ⟨cause, some place⟩, c')) :
    (located r).runAt c = (.error ⟨cause, some place⟩, c') := by
  change located r c = _
  simp only [located, h]

theorem runAt_closedBy {r : Reader α} {close : Reader Unit} {c c' c'' : Cursor} {a : α}
    (h : r.runAt c = (.ok a, c')) (h' : close.runAt c' = (.ok (), c'')) :
    (closedBy r close).runAt c = (.ok a, c'') := by
  change closedBy r close c = _
  simp only [closedBy, h, h']

/-- An error inside comes before one at the end. -/
theorem runAt_closedBy_error {r : Reader α} {c c' : Cursor} {e : ReadError}
    (h : r.runAt c = (.error e, c')) (close : Reader Unit) :
    (closedBy r close).runAt c = (.error e, (close.runAt c').2) := by
  change closedBy r close c = _
  simp only [closedBy, h]

/-- **What a reader gives on a text**, in front of a text that starts with `ahead`: it takes the
text as a value, or it refuses the text as nested too deeply. -/
def Gives (r : Reader α) (text ahead : List Char) : Option α → Prop
  | some a => ∀ rest p,
    r.runAt ⟨text ++ (ahead ++ rest), p⟩ = (.ok a, ⟨ahead ++ rest, p.behind text⟩)
  | none => ∀ rest p, ∃ place c,
    r.runAt ⟨text ++ (ahead ++ rest), p⟩ = (.error ⟨.tooDeep, some place⟩, c)

section Combinators

variable {r : Reader α} {text text' ahead : List Char} {a : α} {o : Option α} {o' : Option β}

theorem gives_pure (a : α) (ahead : List Char) : Gives (pure a) [] ahead (some a) := fun _ _ => rfl

theorem Gives.bind {f : α → Reader β} (h : Gives r text (text' ++ ahead) (some a))
    (h' : Gives (f a) text' ahead o') : Gives (r >>= f) (text ++ text') ahead o' := by
  have hrun (rest : List Char) (p : Place) :
      (r >>= f).runAt ⟨text ++ text' ++ (ahead ++ rest), p⟩
        = (f a).runAt ⟨text' ++ (ahead ++ rest), p.behind text⟩ := by
    have hr := h rest p
    rw [List.append_assoc] at hr
    rw [List.append_assoc, runAt_bind_ok hr]
  cases o' with
  | some b =>
    intro rest p
    rw [hrun, h' rest (p.behind text), Place.behind_append]
  | none =>
    intro rest p
    rw [hrun]
    exact h' rest (p.behind text)

/-- A reader that takes nothing, in front of one that does. -/
theorem Gives.peek {f : α → Reader β} (h : Gives r [] (text ++ ahead) (some a))
    (h' : Gives (f a) text ahead o') : Gives (r >>= f) text ahead o' := h.bind h'

/-- A reader that takes a single character, in front of others. -/
theorem Gives.next {c : Char} {f : α → Reader β} (h : Gives r [c] (text ++ ahead) (some a))
    (h' : Gives (f a) text ahead o') : Gives (r >>= f) (c :: text) ahead o' := h.bind h'

/-- What is refused stays refused, whatever is read behind it. -/
theorem Gives.bind_none (h : Gives r text (text' ++ ahead) none) (f : α → Reader β) :
    Gives (r >>= f) (text ++ text') ahead none := by
  intro rest p
  obtain ⟨place, c, hr⟩ := h rest p
  rw [List.append_assoc] at hr ⊢
  exact ⟨place, c, runAt_bind_error hr f⟩

theorem Gives.map (g : α → β) (h : Gives r text ahead o) :
    Gives (do return g (← r)) text ahead (o.map g) := by
  cases o with
  | some a =>
    intro rest p
    rw [runAt_bind_ok (h rest p)]
    rfl
  | none =>
    intro rest p
    obtain ⟨place, c, hr⟩ := h rest p
    exact ⟨place, c, runAt_bind_error hr _⟩

theorem Gives.get {f : Cursor → Reader α}
    (h : ∀ c : Cursor, text.length ≤ c.rest.length → Gives (f c) text ahead o) :
    Gives (get >>= f) text ahead o := by
  have hlength (rest : List Char) : text.length ≤ (text ++ (ahead ++ rest)).length := by simp
  cases o with
  | some a => exact fun rest p => h _ (hlength rest) rest p
  | none => exact fun rest p => h _ (hlength rest) rest p

theorem Gives.located (h : Gives r text ahead o) : Gives (located r) text ahead o := by
  cases o with
  | some a => exact fun rest p => runAt_located_ok (h rest p)
  | none =>
    intro rest p
    obtain ⟨place, c, hr⟩ := h rest p
    exact ⟨place, c, runAt_located_error hr⟩

theorem Gives.closedBy {close : Reader Unit} (h : Gives r text (text' ++ ahead) o)
    (h' : Gives close text' ahead (some ())) :
    Gives (closedBy r close) (text ++ text') ahead o := by
  cases o with
  | some a =>
    intro rest p
    have hr := h rest p
    rw [List.append_assoc] at hr
    rw [List.append_assoc, runAt_closedBy hr (h' rest (p.behind text)), Place.behind_append]
  | none =>
    intro rest p
    obtain ⟨place, c, hr⟩ := h rest p
    rw [List.append_assoc] at hr ⊢
    exact ⟨place, (close.runAt c).2, runAt_closedBy_error hr close⟩

end Combinators

/-! ## Single characters -/

theorem gives_advance (c : Char) (ahead : List Char) : Gives advance [c] ahead (some ()) :=
  fun _ _ => rfl

theorem gives_colon (ahead : List Char) : Gives colon [':'] ahead (some ()) := fun _ _ => rfl

theorem gives_openName (ahead : List Char) : Gives openName ['"'] ahead (some ()) := fun _ _ => rfl

theorem gives_listEnd (ahead : List Char) : Gives listEnd [']'] ahead (some ()) := fun _ _ => rfl

theorem gives_objectEnd (ahead : List Char) : Gives objectEnd ['\x7d'] ahead (some ()) :=
  fun _ _ => rfl

theorem runAt_peekToken (cs : List Char) (p : Place) :
    peekToken.runAt ⟨cs, p⟩ = (.ok (skipSpacesFrom cs p).rest.head?, skipSpacesFrom cs p) := rfl

theorem gives_peekToken {c : Char} (h : isSpace c = false) (ahead : List Char) :
    Gives peekToken [] (c :: ahead) (some (some c)) := by
  intro rest p
  have hskip : skipSpacesFrom (c :: (ahead ++ rest)) p = ⟨c :: (ahead ++ rest), p⟩ := by
    simp [skipSpacesFrom, h]
  rw [List.nil_append, List.cons_append, runAt_peekToken, hskip]
  rfl

theorem gives_peekValue {c : Char} (h : isSpace c = false) (ahead : List Char) :
    Gives peekValue [] (c :: ahead) (some c) := by
  intro rest p
  unfold peekValue
  rw [runAt_bind_ok (gives_peekToken h ahead rest p)]
  rfl

/-- A blank in front of a value does not count. -/
theorem Gives.blank {f : Char → Reader α} {text ahead : List Char} {o : Option α}
    (h : Gives (peekValue >>= f) text ahead o) :
    Gives (peekValue >>= f) (' ' :: text) ahead o := by
  cases o with
  | some a => exact fun rest p => h rest (p.after ' ')
  | none => exact fun rest p => h rest (p.after ' ')

theorem gives_failNext (text ahead : List Char) :
    Gives (failNext .tooDeep : Reader α) text ahead none := fun _ _ => ⟨_, _, rfl⟩

/-- What stands in front of an item or a member: a comma, if it is not the first one. -/
def separator (first : Bool) : List Char := if first then [] else [',']

theorem gives_hasNextMember (first : Bool) (ahead : List Char) :
    Gives (hasNextMember first) (separator first) ('"' :: ahead) (some true) := by
  cases first <;> exact fun _ _ => rfl

theorem gives_hasNextMember_end (first : Bool) (ahead : List Char) :
    Gives (hasNextMember first) [] ('\x7d' :: ahead) (some false) := fun _ _ => rfl

theorem gives_hasNextItem (first : Bool) (ahead : List Char) :
    Gives (hasNextItem first) (separator first) ('\x7b' :: ahead) (some true) := by
  cases first <;> exact fun _ _ => rfl

theorem gives_hasNextItem_end (first : Bool) (ahead : List Char) :
    Gives (hasNextItem first) [] (']' :: ahead) (some false) := fun _ _ => rfl

/-! ## Strings -/

theorem hexEscape_control {n : Nat} (h : n < 0x20) (tail : List Char) (p : Place) :
    hexEscape ⟨'0' :: '0' :: hexDigit (n / 16) :: hexDigit (n % 16) :: tail, p⟩ = .ok n := by
  have hzero : hexValue? '0' = some 0 := rfl
  have hhigh : hexValue? (hexDigit (n / 16)) = some (n / 16) := hexValue?_hexDigit (by omega)
  have hlow : hexValue? (hexDigit (n % 16)) = some (n % 16) := hexValue?_hexDigit (by omega)
  have hvalue : n / 16 * 16 + n % 16 = n := by omega
  simp [hexEscape, hzero, hhigh, hlow, hvalue]

/-- The escape of a control is its code in four digits. -/
theorem escape_control {n : Nat} (h : n < 0x20) (tail : List Char) (p : Place) :
    escape false ⟨'u' :: '0' :: '0' :: hexDigit (n / 16) :: hexDigit (n % 16) :: tail, p⟩
      = .ok (Char.ofNat n, 5) := by
  have hlow : ¬ (0xDC00 ≤ n ∧ n ≤ 0xDFFF) := by omega
  have hhigh : ¬ (0xD800 ≤ n ∧ n ≤ 0xDBFF) := by omega
  have hunicode : unicodeEscape false
      ⟨'0' :: '0' :: hexDigit (n / 16) :: hexDigit (n % 16) :: tail, p.after 'u'⟩
        = .ok (Char.ofNat n, 4) := by
    unfold unicodeEscape
    rw [hexEscape_control h]
    simp [bind, Except.bind, pure, Except.pure, hlow, hhigh]
  simp [escape, Cursor.next, hunicode, bind, Except.bind, pure, Except.pure]

/-- **A character is read back from its escape.** -/
theorem stringFrom_escapedChar (c : Char) (rev : List Char) (p : Place) (tail : List Char) :
    stringFrom false 0 rev p (escapedChar c ++ tail)
      = stringFrom false 0 (c :: rev) (p.behind (escapedChar c)) tail := by
  unfold escapedChar
  split
  · rfl
  · rfl
  · rfl
  · rfl
  · rfl
  · rfl
  · rfl
  · rename_i hquote hbackslash _ _ _ _ _
    split
    · rename_i hcontrol
      have hescape := escape_control hcontrol tail (p.after '\\')
      simp [stringFrom, hescape, Place.behind]
    · rename_i hplain
      have hquote : c ≠ '"' := hquote
      have hbackslash : c ≠ '\\' := hbackslash
      simp [stringFrom, Place.behind, hquote, hbackslash, hplain]

theorem stringFrom_escaped (cs rev : List Char) (p : Place) (tail : List Char) :
    stringFrom false 0 rev p (cs.flatMap escapedChar ++ '"' :: tail)
      = .ok (String.ofList (rev.reverse ++ cs),
          ⟨tail, p.behind (cs.flatMap escapedChar ++ ['"'])⟩) := by
  induction cs generalizing rev p with
  | nil => simp [stringFrom, Place.behind]
  | cons c cs ih =>
    rw [List.flatMap_cons, List.append_assoc, stringFrom_escapedChar, ih, List.append_assoc,
      Place.behind_append p]
    simp

theorem runAt_stringBody {c c' : Cursor} {s : String}
    (h : stringFrom false 0 [] c.place c.rest = .ok (s, c')) :
    (stringBody false).runAt c = (.ok s, c') := by
  have hlift : (liftM (stringFrom false 0 [] c.place c.rest) : Reader (String × Cursor)).runAt c
      = (.ok (s, c'), c) := by
    rw [h]
    rfl
  unfold stringBody
  rw [runAt_get_bind, runAt_bind_ok hlift]
  rfl

/-- **A string is read back from its escapes.** -/
theorem gives_stringBody (s : String) (ahead : List Char) :
    Gives (stringBody false) (s.toList.flatMap escapedChar ++ ['"']) ahead (some s) := by
  intro rest p
  have hstring := stringFrom_escaped s.toList [] p (ahead ++ rest)
  rw [List.reverse_nil, List.nil_append, String.ofList_toList] at hstring
  rw [List.append_assoc, List.singleton_append]
  exact runAt_stringBody hstring

theorem gives_string (s : String) (ahead : List Char) :
    Gives string (stringText s) ahead (some s) := by
  refine (gives_peekValue rfl _).peek ?_
  rw [if_pos (by decide)]
  exact (gives_advance '"' _).next (gives_stringBody s ahead)

theorem gives_optional_string (s : String) (ahead : List Char) :
    Gives (optional string) (stringText s) ahead (some (some s)) := by
  refine (gives_peekToken rfl _).peek ?_
  rw [if_neg (by decide)]
  exact (gives_string s ahead).map some

/-! ## Whole texts -/

theorem readText_eq_ok {r : Reader α} {s : String} {a : α} (h : Gives r s.toList [] (some a)) :
    readText r s = .ok a := by
  have hr : r.runAt (Cursor.start s) = (.ok a, ⟨[], Place.behind ⟨1, 0⟩ s.toList⟩) := by
    simpa [Cursor.start] using h [] ⟨1, 0⟩
  unfold readText
  rw [runAt_bind_ok hr]
  rfl

theorem readText_eq_tooDeep {r : Reader α} {s : String} (h : Gives r s.toList [] none) :
    ∃ place, readText r s = .error ⟨.tooDeep, some place⟩ := by
  obtain ⟨place, c, hr⟩ := h [] ⟨1, 0⟩
  have hr : r.runAt (Cursor.start s) = (.error ⟨.tooDeep, some place⟩, c) := by
    simpa [Cursor.start] using hr
  unfold readText
  rw [runAt_bind_error hr]
  exact ⟨place, rfl⟩

end Reader

end TableQuery.Json
