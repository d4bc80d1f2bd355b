import Mathlib.Data.List.Forall2
import TableQuery.Proofs.Json.Reading

/-!
# Proofs/Json/Decoding — values read back from their text

A value **as it is written** is a text together with its nesting, the depth of brackets and braces
in it (`Written`).  A reader **decodes** it if it gives the value where the depth it may open is at
least the nesting, and refuses the text where it is not (`Decodes`).  Lists, records and choices are
decoded if what they hold is decoded one level further in (`decodes_list`, `decodes_record`,
`decodes_choice`).
-/

namespace TableQuery.Json

open Reader

/-! ## What is written -/

/-- A value as it is written: its text, and the depth of brackets and braces in it. -/
@[ext]
structure Written where
  text : List Char
  nesting : Nat

namespace Written

/-- A string. -/
def string (s : String) : Written := ⟨stringText s, 0⟩

/-- A value behind a blank. -/
def blank (w : Written) : Written := ⟨' ' :: w.text, w.nesting⟩

/-- The nesting of the deepest of several values. -/
def deepest (ws : List Written) : Nat := (ws.map nesting).foldr max 0

/-- Items, the first one with or without a comma in front. -/
def itemsText : Bool → List Written → List Char
  | _, [] => []
  | first, w :: ws => separator first ++ (w.text ++ itemsText false ws)

/-- Members, the first one with or without a comma in front. -/
def membersText : Bool → List (String × Written) → List Char
  | _, [] => []
  | first, (name, w) :: ms =>
    separator first ++ (stringText name ++ ':' :: (w.text ++ membersText false ms))

/-- A list. -/
def array (ws : List Written) : Written := ⟨'[' :: (itemsText true ws ++ [']']), deepest ws + 1⟩

/-- An object. -/
def object (ms : List (String × Written)) : Written :=
  ⟨'\x7b' :: (membersText true ms ++ ['\x7d']), deepest (ms.map Prod.snd) + 1⟩

theorem text_object_singleton (name : String) (w : Written) :
    (object [(name, w)]).text = '\x7b' :: '"' ::
      (name.toList.flatMap escapedChar ++ ['"'] ++ ':' :: (w.text ++ ['\x7d'])) := by
  simp [object, membersText, separator, stringText]

/-- Whether a value is written as an object. -/
def IsBraced (w : Written) : Prop := ∃ cs, w.text = '\x7b' :: cs

theorem length_le_itemsText {ws : List Written} (h : ∀ w ∈ ws, w.IsBraced) (first : Bool) :
    ws.length ≤ (itemsText first ws).length := by
  induction ws generalizing first with
  | nil => exact Nat.le_refl 0
  | cons w ws ih =>
    obtain ⟨cs, hcs⟩ := h w List.mem_cons_self
    have hws := ih (fun w hw => h w (List.mem_cons_of_mem _ hw)) false
    simp only [itemsText, hcs, List.length_append, List.length_cons]
    omega

theorem length_le_membersText (ms : List (String × Written)) (first : Bool) :
    ms.length ≤ (membersText first ms).length := by
  induction ms generalizing first with
  | nil => exact Nat.le_refl 0
  | cons m ms ih =>
    have hms := ih false
    simp only [membersText, List.length_append, List.length_cons]
    omega

end Written

mutual

/-- The depth of brackets and braces in a value. -/
def nesting : Json → Nat
  | .array items => deepestItem items + 1
  | .object members => deepestMember members + 1
  | _ => 0

/-- The nesting of the deepest of several items. -/
def deepestItem : List Json → Nat
  | [] => 0
  | v :: vs => max v.nesting (deepestItem vs)

/-- The nesting of the deepest of several members. -/
def deepestMember : List (String × Json) → Nat
  | [] => 0
  | (_, v) :: ms => max v.nesting (deepestMember ms)

end

/-- A value in its compact text. -/
def written (v : Json) : Written := ⟨v.text, v.nesting⟩

theorem written_array (vs : List Json) : (Json.array vs).written = .array (vs.map written) := by
  have hnesting (vs : List Json) : deepestItem vs = Written.deepest (vs.map written) := by
    induction vs with
    | nil => rfl
    | cons v vs ih => exact congrArg (max v.nesting) ih
  have htext (vs : List Json) : itemsText vs = Written.itemsText false (vs.map written) := by
    induction vs with
    | nil => rfl
    | cons v vs ih => exact congrArg (',' :: v.text ++ ·) ih
  refine Written.ext ?_ (congrArg (· + 1) (hnesting vs))
  cases vs with
  | nil => rfl
  | cons v vs => simp [written, text, htext, Written.array, Written.itemsText, separator]

theorem written_object (ms : List (String × Json)) :
    (Json.object ms).written = .object (ms.map fun m => (m.1, m.2.written)) := by
  have hnesting (ms : List (String × Json)) : deepestMember ms
      = Written.deepest ((ms.map fun m => (m.1, m.2.written)).map Prod.snd) := by
    induction ms with
    | nil => rfl
    | cons m ms ih => exact congrArg (max m.2.nesting) ih
  have htext (ms : List (String × Json)) :
      membersText ms = Written.membersText false (ms.map fun m => (m.1, m.2.written)) := by
    induction ms with
    | nil => rfl
    | cons m ms ih => simp [membersText, ih, Written.membersText, separator, written]
  refine Written.ext ?_ (congrArg (· + 1) (hnesting ms))
  cases ms with
  | nil => rfl
  | cons m ms => simp [written, text, htext, Written.object, Written.membersText, separator]

namespace Reader

variable {α β : Type} {bound depth n m : Nat} {a : α} {w : Written}

/-! ## Depth -/

/-- A value, if its nesting is within the depth. -/
def within (n depth : Nat) (a : α) : Option α := if n ≤ depth then some a else none

theorem map_within (g : α → β) (n depth : Nat) (a : α) :
    (within n depth a).map g = within n depth (g a) := by
  unfold within
  split <;> rfl

theorem within_max_of_le (h : n ≤ depth) : within (max n m) depth a = within m depth a := by
  simp only [within, Nat.max_le, h, true_and]

theorem within_max_of_lt (h : depth < n) : within (max n m) depth a = none :=
  if_neg fun hle => Nat.not_le_of_lt h (Nat.le_trans (Nat.le_max_left n m) hle)

theorem within_succ_succ : within (n + 1) (depth + 1) a = within n depth a := by
  simp only [within, Nat.add_le_add_iff_right]

/-- **A reader decodes what is written**, at all depths below a bound. -/
def Decodes (bound : Nat) (r : Nat → Reader α) (w : Written) (a : α) : Prop :=
  ∀ depth < bound, ∀ ahead, Gives (r depth) w.text ahead (within w.nesting depth a)

variable {r : Nat → Reader α}

theorem Decodes.mono {bound' : Nat} (h : Decodes bound r w a) (hle : bound' ≤ bound) :
    Decodes bound' r w a := fun depth hd => h depth (Nat.lt_of_lt_of_le hd hle)

theorem Decodes.map (g : α → β) (h : Decodes bound r w a) :
    Decodes bound (fun depth => do return g (← r depth)) w (g a) := by
  intro depth hd ahead
  rw [← map_within]
  exact (h depth hd ahead).map g

theorem decodes_string (bound : Nat) (s : String) :
    Decodes bound (fun _ => string) (.string s) s := fun _ _ ahead => gives_string s ahead

theorem decodes_optional_string (bound : Nat) (s : String) :
    Decodes bound (fun _ => optional string) (.string s) (some s) :=
  fun _ _ ahead => gives_optional_string s ahead

/-- What is read behind a written value, if the value is within the depth. -/
theorem Decodes.bind (h : Decodes bound r w a) (hd : depth < bound) {f : α → Reader β} {b : β}
    {text ahead : List Char} (h' : Gives (f a) text ahead (within m depth b)) :
    Gives (r depth >>= f) (w.text ++ text) ahead (within (max w.nesting m) depth b) := by
  have hw := h depth hd (text ++ ahead)
  obtain hle | hlt := Nat.lt_or_ge depth w.nesting |>.symm
  · rw [within, if_pos hle] at hw
    rw [within_max_of_le hle]
    exact hw.bind h'
  · rw [within, if_neg (Nat.not_le_of_lt hlt)] at hw
    rw [within_max_of_lt hlt]
    exact hw.bind_none f

/-! ## Lists -/

theorem gives_items {ws : List Written} {as : List α} {fuel : Nat} (hd : depth < bound)
    (h : List.Forall₂ (Decodes bound r) ws as) (hbraced : ∀ w ∈ ws, w.IsBraced)
    (hfuel : ws.length < fuel) (first : Bool) (ahead : List Char) :
    Gives (items (r depth) fuel first) (Written.itemsText first ws) (']' :: ahead)
      (within (Written.deepest ws) depth as) := by
  induction h generalizing fuel first with
  | nil =>
    obtain ⟨fuel, rfl⟩ := Nat.exists_eq_succ_of_ne_zero (Nat.ne_zero_of_lt hfuel)
    refine (gives_hasNextItem_end first ahead).peek ?_
    exact gives_pure [] _
  | @cons w a ws as hw _ ih =>
    obtain ⟨fuel, rfl⟩ := Nat.exists_eq_succ_of_ne_zero (Nat.ne_zero_of_lt hfuel)
    obtain ⟨hwbraced, hbraced⟩ := List.forall_mem_cons.mp hbraced
    obtain ⟨cs, hcs⟩ := hwbraced
    have hnext : Gives (hasNextItem first) (separator first)
        (w.text ++ Written.itemsText false ws ++ ']' :: ahead) (some true) := by
      rw [hcs]
      exact gives_hasNextItem first _
    have hrest := (ih hbraced (Nat.lt_of_succ_lt_succ hfuel) false).map (a :: ·)
    rw [map_within] at hrest
    exact hnext.bind (hw.bind hd hrest)

/-- **A list is decoded** if its items are. -/
theorem decodes_list {ws : List Written} {as : List α} (h : List.Forall₂ (Decodes bound r) ws as)
    (hbraced : ∀ w ∈ ws, w.IsBraced) : Decodes (bound + 1) (list r) (.array ws) as := by
  intro depth hd ahead
  refine (gives_peekValue rfl _).peek ?_
  rw [if_pos (by decide)]
  cases depth with
  | zero => exact gives_failNext _ ahead
  | succ depth =>
    rw [Written.array, within_succ_succ]
    refine Gives.get fun c hc => Gives.located ?_
    have hfuel : ws.length < c.rest.length := by
      have hws := Written.length_le_itemsText hbraced true
      simp only [List.length_cons, List.length_append] at hc
      omega
    have hitems := gives_items (Nat.lt_of_succ_lt_succ hd) h hbraced hfuel true ahead
    exact Gives.closedBy ((gives_advance '[' _).next hitems) (gives_listEnd ahead)

/-! ## Records -/

/-- **Members fill in a record**: each one has a name not seen before and sets its field, and
behind the last one no field is missing. -/
inductive Fills (form : Record α) (bound : Nat) :
    List String → α → List (String × Written) → α → Prop
  | nil {seen : List String} {a : α}
      (hrequired : form.required.find? (fun name => !seen.contains name) = none) :
      Fills form bound seen a [] a
  | cons {seen : List String} {a a' b : α} {name : String} {w : Written}
      {ms : List (String × Written)} {set : Nat → α → Reader α}
      (hfield : form.field? name = some set) (hseen : seen.contains name = false)
      (hset : Decodes bound (fun depth => set depth a) w a')
      (hrest : Fills form bound (name :: seen) a' ms b) :
      Fills form bound seen a ((name, w) :: ms) b

theorem gives_ofMembers {form : Record α} {seen : List String} {ms : List (String × Written)}
    {b : α} {fuel : Nat} (hd : depth < bound) (h : Fills form bound seen a ms b)
    (hfuel : ms.length < fuel) (first : Bool) (ahead : List Char) :
    Gives (form.ofMembers depth fuel first seen a) (Written.membersText first ms) ('\x7d' :: ahead)
      (within (Written.deepest (ms.map Prod.snd)) depth b) := by
  induction h generalizing fuel first with
  | @nil seen a hrequired =>
    obtain ⟨fuel, rfl⟩ := Nat.exists_eq_succ_of_ne_zero (Nat.ne_zero_of_lt hfuel)
    refine (gives_hasNextMember_end first ahead).peek ?_
    simp only [hrequired]
    exact gives_pure a _
  | @cons seen a a' b name w ms set hfield hseen hset _ ih =>
    obtain ⟨fuel, rfl⟩ := Nat.exists_eq_succ_of_ne_zero (Nat.ne_zero_of_lt hfuel)
    have hrest := ih (Nat.lt_of_succ_lt_succ hfuel) false
    refine (gives_hasNextMember first _).bind ?_
    refine (gives_advance '"' _).next ?_
    refine (gives_stringBody name _).bind ?_
    simp only [hfield, hseen]
    exact (gives_colon _).next (hset.bind hd hrest)

/-- **A record is decoded** if its members fill it in. -/
theorem decodes_record {form : Record α} {ms : List (String × Written)} {b : α}
    (h : Fills form bound [] a ms b) : Decodes (bound + 1) (record form a) (.object ms) b := by
  intro depth hd ahead
  refine (gives_peekValue rfl _).peek ?_
  rw [if_pos (by decide)]
  cases depth with
  | zero => exact gives_failNext _ ahead
  | succ depth =>
    rw [Written.object, within_succ_succ]
    refine Gives.get fun c hc => Gives.located ?_
    have hfuel : ms.length < c.rest.length := by
      have hms := Written.length_le_membersText ms true
      simp only [List.length_cons, List.length_append] at hc
      omega
    have hmembers := gives_ofMembers (Nat.lt_of_succ_lt_succ hd) h hfuel true ahead
    rw [if_neg (by decide)]
    exact Gives.closedBy ((gives_advance '\x7b' _).next hmembers) (gives_objectEnd ahead)

/-- A blank in front of a record does not count. -/
theorem Decodes.blank {form : Record α} {b : α} (h : Decodes bound (record form a) w b) :
    Decodes bound (record form a) w.blank b := fun depth hd ahead => (h depth hd ahead).blank

/-! ## Choices -/

/-- The name of a choice. -/
def Choice.nameOf (form : Choice α) (which : Bool) : String :=
  if which then form.first else form.second

theorem gives_variant {form : Choice α} (h : form.first ≠ form.second) (which : Bool)
    (ahead : List Char) :
    Gives form.variant ((form.nameOf which).toList.flatMap escapedChar ++ ['"']) ahead
      (some which) := by
  refine Gives.located ?_
  rw [← List.append_nil (_ ++ _)]
  refine (gives_stringBody (form.nameOf which) ahead).bind ?_
  cases which with
  | true =>
    have hfirst : (form.nameOf true == form.first) = true := beq_self_eq_true form.first
    rw [if_pos hfirst]
    exact gives_pure true ahead
  | false =>
    have hfirst : ¬ (form.nameOf false == form.first) = true := fun hname =>
      h (beq_iff_eq.mp hname).symm
    have hsecond : (form.nameOf false == form.second) = true := beq_self_eq_true form.second
    rw [if_neg hfirst, if_pos hsecond]
    exact gives_pure false ahead

/-- **A choice is decoded** if what belongs to its name is. -/
theorem decodes_choice {form : Choice α} (hnames : form.first ≠ form.second) (which : Bool)
    (h : Decodes bound (form.content which) w a) :
    Decodes (bound + 1) (choice form) (.object [(form.nameOf which, w)]) a := by
  intro depth hd ahead
  rw [Written.text_object_singleton]
  refine (gives_peekValue rfl _).peek ?_
  rw [if_pos (by decide)]
  cases depth with
  | zero => exact gives_failNext _ ahead
  | succ depth =>
    rw [Written.object, within_succ_succ]
    refine (gives_advance '\x7b' _).next ?_
    refine (gives_openName _).next ?_
    refine (gives_variant hnames which _).bind ?_
    refine (gives_colon _).next ?_
    refine h.bind (Nat.lt_of_succ_lt_succ hd) ?_
    refine (gives_peekToken rfl _).peek ?_
    exact (gives_advance '\x7d' _).next (gives_pure a _)

end Reader

end TableQuery.Json
