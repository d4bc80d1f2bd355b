import Mathlib
import TableQuery.Proofs.Filter.LetterCase
import TableQuery.Proofs.Number.Characters
import TableQuery.Proofs.Token.Classes

/-!
# Proofs/Guid/RoundTrip — an identifier and its text determine each other, up to the case of letters

The texts of identifiers are 32 hexadecimal digits with hyphens put between them
(`IsHyphenated.exists_digits`, `isHyphenated_hyphenate`), so everything comes down to the digits.
Digits that are read as a number are written again in lower case (`hexDigits_hexNumber`), and the
digits written for a number are read as that number (`hexNumber_hexDigits`).

The form may be tested byte by byte: a byte of a character outside ASCII is neither a digit nor a
hyphen (`isHyphenated_byteChars_iff`).
-/

namespace TableQuery

open TableQuery.Text

/-! ## Bytes -/

namespace Text

/-- The bytes of a text in UTF-8, each taken for the character with its number. -/
def byteChars (s : String) : List Char := s.toByteArray.data.toList.map UInt8.toChar

theorem byteChars_eq_flatMap (s : String) :
    byteChars s = s.toList.flatMap fun c => (String.utf8EncodeChar c).map UInt8.toChar := by
  rw [byteChars, ← String.utf8Encode_toList, List.utf8Encode, List.data_toByteArray,
    List.toList_toArray, List.map_flatMap]

theorem map_utf8EncodeChar_of_lt {c : Char} (h : c.toNat < 128) :
    (String.utf8EncodeChar c).map UInt8.toChar = [c] := by
  have hsize : c.utf8Size = 1 := by
    rw [Char.utf8Size_eq_one_iff, UInt32.le_iff_toNat_le]
    exact Nat.le_of_lt_succ h
  have hbyte : c.val.toUInt8.toChar = c := by
    apply Char.toNat_inj.mp
    change c.toNat % 256 = c.toNat
    omega
  rw [String.utf8EncodeChar_eq_singleton hsize, List.map_singleton, hbyte]

/-- A character outside ASCII has a byte outside ASCII: its last one. -/
theorem exists_mem_utf8EncodeChar {c : Char} (h : 128 ≤ c.toNat) :
    ∃ b ∈ String.utf8EncodeChar c, 128 ≤ b.toChar.toNat := by
  have hlast : UInt8.ofNat (c.toNat % 64 + 128) ∈ String.utf8EncodeChar c := by
    rw [String.utf8EncodeChar, if_neg (show ¬ c.val.toNat ≤ 127 from Nat.not_le_of_gt h)]
    split
    · simp
    · split <;> simp
  refine ⟨_, hlast, ?_⟩
  change 128 ≤ (c.toNat % 64 + 128) % 256
  omega

theorem byteChars_of_ascii {s : String} (h : ∀ c ∈ s.toList, c.toNat < 128) :
    byteChars s = s.toList := by
  rw [byteChars_eq_flatMap]
  calc s.toList.flatMap (fun c => (String.utf8EncodeChar c).map UInt8.toChar)
      = s.toList.flatMap fun c => [c] :=
        List.flatMap_congr fun c hc => map_utf8EncodeChar_of_lt (h c hc)
    _ = s.toList := List.flatMap_singleton' _

theorem ascii_of_byteChars {s : String} (h : ∀ c ∈ byteChars s, c.toNat < 128) :
    ∀ c ∈ s.toList, c.toNat < 128 := by
  intro c hc
  by_contra hlarge
  obtain ⟨b, hb, hle⟩ := exists_mem_utf8EncodeChar (Nat.le_of_not_lt hlarge)
  have hmem : b.toChar ∈ byteChars s := by
    rw [byteChars_eq_flatMap]
    exact List.mem_flatMap.mpr ⟨c, hc, List.mem_map_of_mem hb⟩
  exact absurd (h _ hmem) (Nat.not_lt.mpr hle)

end Text

namespace Guid

/-! ## Digits -/

theorem toNat_lt_of_isHexDigit {c : Char} (h : IsHexDigit c) : c.toNat < 128 := by
  rcases h with h | ⟨-, h⟩ | ⟨-, h⟩
  · exact Token.toNat_lt_of_isDigit h
  all_goals exact Nat.lt_of_le_of_lt (UInt32.le_iff_toNat_le.mp (Char.le_def.mp h)) (by decide)

theorem exists_hexValue? {c : Char} (h : IsHexDigit c) : ∃ v, hexValue? c = some v :=
  Option.isSome_iff_exists.mp ((isSome_hexValue?_iff c).mpr h)

theorem hexDigit_of_hexValue?_ofNat : ∀ n < 128, ∀ v ∈ hexValue? (Char.ofNat n),
    v < 16 ∧ hexDigit v = (Char.ofNat n).toLower := by
  decide +kernel

/-- **A digit is written as it is read, in lower case.** -/
theorem hexDigit_of_hexValue? {c : Char} {v : Nat} (h : hexValue? c = some v) :
    v < 16 ∧ hexDigit v = c.toLower := by
  have hdigit : IsHexDigit c := (isSome_hexValue?_iff c).mp (Option.isSome_of_eq_some h)
  have htable := hexDigit_of_hexValue?_ofNat c.toNat (toNat_lt_of_isHexDigit hdigit) v
  rw [Char.ofNat_toNat] at htable
  exact htable h

theorem isHexDigit_hexDigit (v : Nat) (h : v < 16) : IsHexDigit (hexDigit v) :=
  (isSome_hexValue?_iff _).mp (Option.isSome_of_eq_some (hexValue?_hexDigit h))

/-! ## Numbers -/

theorem hexNumber_concat (ds : List Nat) (d : Nat) :
    hexNumber (ds ++ [d]) = 16 * hexNumber ds + d := by
  simp [hexNumber]

theorem hexNumber_eq_ofDigits (ds : List Nat) : hexNumber ds = Nat.ofDigits 16 ds.reverse := by
  rw [Nat.ofDigits_eq_foldr, List.foldr_reverse, hexNumber]
  simp [Nat.add_comm]

theorem hexNumber_lt {ds : List Nat} (h : ∀ d ∈ ds, d < 16) : hexNumber ds < 16 ^ ds.length := by
  rw [hexNumber_eq_ofDigits, ← List.length_reverse]
  exact Nat.ofDigits_lt_base_pow_length (by decide) (by simpa using h)

theorem hexDigits_hexNumber {ds : List Nat} (h : ∀ d ∈ ds, d < 16) :
    hexDigits ds.length (hexNumber ds) = ds.map hexDigit := by
  -- From the back: the last digit is the remainder of the number.
  induction ds using List.reverseRecOn with
  | nil => rfl
  | append_singleton ds d ih =>
    rw [List.forall_mem_append, List.forall_mem_singleton] at h
    rw [List.length_append, List.length_singleton, hexDigits, hexNumber_concat, List.map_append,
      List.map_singleton, show (16 * hexNumber ds + d) / 16 = hexNumber ds by omega,
      show (16 * hexNumber ds + d) % 16 = d by omega, ih h.1]

theorem length_hexDigits (n v : Nat) : (hexDigits n v).length = n := by
  induction n generalizing v with
  | zero => rfl
  | succ n ih => rw [hexDigits, List.length_append, ih, List.length_singleton]

theorem isHexDigit_of_mem_hexDigits (n v : Nat) : ∀ c ∈ hexDigits n v, IsHexDigit c :=
  hexDigits_chars isHexDigit_hexDigit n v

/-- **The digits written for a number are read as that number**, less what they have no place
for. -/
theorem hexNumber_hexDigits (n v : Nat) :
    hexNumber ((hexDigits n v).filterMap hexValue?) = v % 16 ^ n := by
  induction n generalizing v with
  | zero => simp [hexDigits, hexNumber, Nat.mod_one]
  | succ n ih =>
    have hlast : [hexDigit (v % 16)].filterMap hexValue? = [v % 16] := by
      simp [hexValue?_hexDigit (Nat.mod_lt v (show 0 < 16 by decide))]
    rw [hexDigits, List.filterMap_append, hlast, hexNumber_concat, ih, Nat.pow_succ',
      Nat.mod_mul, Nat.add_comm]

theorem mapM_hexValue? {cs : List Char} (h : ∀ c ∈ cs, IsHexDigit c) :
    cs.mapM hexValue? = some (cs.filterMap hexValue?) := by
  induction cs with
  | nil => rfl
  | cons c cs ih =>
    rw [List.forall_mem_cons] at h
    obtain ⟨v, hv⟩ := exists_hexValue? h.1
    simp [hv, ih h.2]

theorem map_hexDigit_filterMap_hexValue? {cs : List Char} (h : ∀ c ∈ cs, IsHexDigit c) :
    (cs.filterMap hexValue?).map hexDigit = cs.map Char.toLower := by
  induction cs with
  | nil => rfl
  | cons c cs ih =>
    rw [List.forall_mem_cons] at h
    obtain ⟨v, hv⟩ := exists_hexValue? h.1
    simp [hv, (hexDigit_of_hexValue? hv).2, ih h.2]

theorem filterMap_hexValue?_lt (cs : List Char) : ∀ v ∈ cs.filterMap hexValue?, v < 16 := by
  intro v hv
  obtain ⟨c, -, hc⟩ := List.mem_filterMap.mp hv
  exact (hexDigit_of_hexValue? hc).1

/-! ## Hyphens -/

/-- What may stand at a place in the text of an identifier. -/
def FitsAt (i : Nat) (c : Char) : Prop :=
  (i ∈ [8, 13, 18, 23] → c = '-') ∧ (i ∉ [8, 13, 18, 23] → IsHexDigit c)

theorem isHyphenated_iff_zipIdx (cs : List Char) :
    IsHyphenated cs ↔ cs.length = 36 ∧ ∀ p ∈ cs.zipIdx, FitsAt p.2 p.1 := by
  constructor
  · rintro ⟨hlength, hhyphen, hdigit⟩
    refine ⟨hlength, fun p hp => ?_⟩
    have hi := List.mk_mem_zipIdx_iff_getElem?.mp hp
    exact ⟨hhyphen _ _ hi, hdigit _ _ hi⟩
  · rintro ⟨hlength, hfits⟩
    have hplace (i : Nat) (c : Char) (hi : cs[i]? = some c) : FitsAt i c :=
      hfits (c, i) (List.mk_mem_zipIdx_iff_getElem?.mpr hi)
    exact ⟨hlength, fun i c hi => (hplace i c hi).1, fun i c hi => (hplace i c hi).2⟩

theorem fitsAt_iff_of_mem {i : Nat} (hi : i ∈ [8, 13, 18, 23]) (c : Char) :
    FitsAt i c ↔ c = '-' := by
  simp only [FitsAt, hi, true_imp_iff, not_true_eq_false, false_imp_iff, and_true]

/-- Between two hyphens there are digits. -/
theorem fitsAt_group {ds : List Char} {k : Nat}
    (hfree : ∀ i < ds.length, k + i ∉ [8, 13, 18, 23]) :
    (∀ p ∈ ds.zipIdx k, FitsAt p.2 p.1) ↔ ∀ c ∈ ds, IsHexDigit c := by
  constructor
  · intro hfits c hc
    obtain ⟨i, hi, rfl⟩ := List.mem_iff_getElem.mp hc
    have hmem : (ds[i], k + i) ∈ ds.zipIdx k := by
      rw [List.mk_add_mem_zipIdx_iff_getElem?]
      exact List.getElem?_eq_getElem hi
    exact (hfits _ hmem).2 (hfree i hi)
  · rintro hdigit ⟨c, j⟩ hp
    obtain ⟨hle, hlt, hc⟩ := List.mem_zipIdx hp
    have hj : j ∉ [8, 13, 18, 23] := by
      have := hfree (j - k) (by omega)
      rwa [Nat.add_sub_cancel' hle] at this
    exact ⟨fun hmem => absurd hmem hj, fun _ => hc ▸ hdigit _ (List.getElem_mem _)⟩

theorem take_append_take_drop (ds : List Char) :
    ds.take 8 ++ (ds.drop 8).take 4 ++ (ds.drop 12).take 4 ++ (ds.drop 16).take 4 ++ ds.drop 20
      = ds := by
  have hcut (k n : Nat) : (ds.drop k).take n ++ ds.drop (k + n) = ds.drop k := by
    rw [← List.drop_drop, List.take_append_drop]
  simp only [List.append_assoc]
  rw [hcut 16 4, hcut 12 4, hcut 8 4, List.take_append_drop]

section Groups

variable {a b c d e : List Char}

theorem hyphenate_append (ha : a.length = 8) (hb : b.length = 4) (hc : c.length = 4)
    (hd : d.length = 4) : hyphenate (a ++ b ++ c ++ d ++ e) =
      a ++ '-' :: b ++ '-' :: c ++ '-' :: d ++ '-' :: e := by
  simp (disch := omega) [hyphenate, List.drop_append, List.drop_eq_nil_of_le, ha, hb, hc]

/-- **The form, group by group.** -/
theorem isHyphenated_groups_iff (w x y z : Char) (ha : a.length = 8) (hb : b.length = 4)
    (hc : c.length = 4) (hd : d.length = 4) (he : e.length = 12) :
    IsHyphenated (a ++ w :: b ++ x :: c ++ y :: d ++ z :: e) ↔
      (w = '-' ∧ x = '-' ∧ y = '-' ∧ z = '-') ∧ ∀ u ∈ a ++ b ++ c ++ d ++ e, IsHexDigit u := by
  rw [isHyphenated_iff_zipIdx]
  simp only [List.zipIdx_append, List.zipIdx_cons, List.forall_mem_append, List.forall_mem_cons,
    List.length_append, List.length_cons, ha, hb, hc, hd, he]
  rw [fitsAt_group (by rw [ha]; decide), fitsAt_group (by rw [hb]; decide),
    fitsAt_group (by rw [hc]; decide), fitsAt_group (by rw [hd]; decide),
    fitsAt_group (by rw [he]; decide)]
  simp (disch := decide) only [fitsAt_iff_of_mem]
  tauto

end Groups

/-- **Hyphens between 32 digits make the text of an identifier.** -/
theorem isHyphenated_hyphenate {ds : List Char} (hlength : ds.length = 32)
    (h : ∀ u ∈ ds, IsHexDigit u) : IsHyphenated (hyphenate ds) := by
  have hfirst : (ds.take 8).length = 8 := by simp [hlength]
  have hmiddle (k : Nat) (hk : k ≤ 16) : ((ds.drop k).take 4).length = 4 := by
    rw [List.length_take, List.length_drop]
    omega
  have hlast : (ds.drop 20).length = 12 := by simp [hlength]
  have hgroups := isHyphenated_groups_iff '-' '-' '-' '-' hfirst (hmiddle 8 (by decide))
    (hmiddle 12 (by decide)) (hmiddle 16 (by decide)) hlast
  rw [take_append_take_drop] at hgroups
  exact hgroups.mpr ⟨⟨rfl, rfl, rfl, rfl⟩, h⟩

theorem exists_cut {cs : List Char} {n m : Nat} (h : cs.length = n + 1 + m) :
    ∃ front u rest, front.length = n ∧ rest.length = m ∧ cs = front ++ u :: rest := by
  have hlt : n < cs.length := by omega
  refine ⟨cs.take n, cs[n], cs.drop (n + 1), List.length_take_of_le hlt.le, ?_, by simp⟩
  rw [List.length_drop, h, Nat.add_sub_cancel_left]

/-- **The text of an identifier is 32 digits with hyphens between them.** -/
theorem IsHyphenated.exists_digits {cs : List Char} (h : IsHyphenated cs) :
    ∃ ds, ds.length = 32 ∧ (∀ u ∈ ds, IsHexDigit u) ∧ hyphenate ds = cs := by
  -- Cut at the four places, whatever stands there; the form then says that it is a hyphen.
  obtain ⟨a, w, cs₁, ha, h₁, rfl⟩ := exists_cut (show cs.length = 8 + 1 + 27 from h.length)
  obtain ⟨b, x, cs₂, hb, h₂, rfl⟩ := exists_cut (show cs₁.length = 4 + 1 + 22 from h₁)
  obtain ⟨c, y, cs₃, hc, h₃, rfl⟩ := exists_cut (show cs₂.length = 4 + 1 + 17 from h₂)
  obtain ⟨d, z, e, hd, he, rfl⟩ := exists_cut (show cs₃.length = 4 + 1 + 12 from h₃)
  have hgroups := isHyphenated_groups_iff w x y z ha hb hc hd he
  simp only [List.append_assoc, List.cons_append] at hgroups
  obtain ⟨⟨rfl, rfl, rfl, rfl⟩, hdigit⟩ := hgroups.mp h
  refine ⟨a ++ b ++ c ++ d ++ e, ?_, ?_, ?_⟩
  · simp only [List.length_append, ha, hb, hc, hd, he]
  · simpa only [List.append_assoc] using hdigit
  · rw [hyphenate_append ha hb hc hd]
    simp only [List.append_assoc, List.cons_append]

theorem map_hyphenate {f : Char → Char} (hf : f '-' = '-') (ds : List Char) :
    (hyphenate ds).map f = hyphenate (ds.map f) := by
  simp [hyphenate, hf]

theorem filterMap_hyphenate {α : Type} {f : Char → Option α} (hf : f '-' = none)
    (ds : List Char) : (hyphenate ds).filterMap f = ds.filterMap f := by
  conv => rhs; rw [← take_append_take_drop ds]
  simp [hyphenate, hf]

/-! ## Identifiers -/

/-- **A text of the form denotes the number of its digits.** -/
theorem read_of_isHyphenated {s : String} (h : IsHyphenated s.toList) :
    read s = some ⟨BitVec.ofNat 128 (hexNumber (s.toList.filterMap hexValue?))⟩ := by
  have hvalues : (s.toList.filter (· != '-')).filterMap hexValue? =
      s.toList.filterMap hexValue? := by
    rw [List.filterMap_filter]
    refine List.filterMap_congr fun c _ => ?_
    by_cases hc : c = '-'
    · rw [hc]
      rfl
    · simp [hc]
  rw [read, readCanonical, if_pos ((isCanonical_iff _).mpr h), ofHex,
    mapM_hexValue? h.isHexDigit_of_mem_filter, hvalues, Option.map_some]

/-- The digits of a text of the form: there are 32, and they make up the text in lower case. -/
theorem IsHyphenated.digits {cs : List Char} (h : IsHyphenated cs) :
    (cs.filterMap hexValue?).length = 32 ∧
      hyphenate ((cs.filterMap hexValue?).map hexDigit) = cs.map Char.toLower := by
  obtain ⟨ds, hlength, hdigit, rfl⟩ := h.exists_digits
  have hwritten := map_hexDigit_filterMap_hexValue? hdigit
  rw [filterMap_hyphenate rfl, map_hyphenate rfl, hwritten]
  refine ⟨?_, rfl⟩
  rw [← List.length_map hexDigit, hwritten, List.length_map, hlength]

theorem isHyphenated_of_read {s : String} {g : Guid} (h : read s = some g) :
    IsHyphenated s.toList :=
  (isSome_read_iff s).mp (Option.isSome_of_eq_some h)

theorem toNat_value_of_read {s : String} {g : Guid} (h : read s = some g) :
    g.value.toNat = hexNumber (s.toList.filterMap hexValue?) := by
  have hform := isHyphenated_of_read h
  obtain rfl := Option.some.inj ((read_of_isHyphenated hform).symm.trans h)
  have hlt : hexNumber (s.toList.filterMap hexValue?) < 16 ^ 32 := by
    rw [← hform.digits.1]
    exact hexNumber_lt (filterMap_hexValue?_lt _)
  exact Nat.mod_eq_of_lt (hlt.trans_eq (by norm_num))

/-- **An identifier is written as the text it is read from, in lower case.** -/
theorem text_of_read {s : String} {g : Guid} (h : read s = some g) : g.text = s.toLower := by
  have hform := isHyphenated_of_read h
  have hdigits : hexDigits 32 (hexNumber (s.toList.filterMap hexValue?)) =
      (s.toList.filterMap hexValue?).map hexDigit := by
    rw [← hexDigits_hexNumber (filterMap_hexValue?_lt _), hform.digits.1]
  rw [text, toNat_value_of_read h, hdigits, hform.digits.2, ← String.toList_inj]
  simp [String.toLower]

/-- **Every identifier is read from its text.** -/
theorem read_text (g : Guid) : read g.text = some g := by
  have hlist : g.text.toList = hyphenate (hexDigits 32 g.value.toNat) := String.toList_ofList
  have hform : IsHyphenated g.text.toList := by
    rw [hlist]
    exact isHyphenated_hyphenate (length_hexDigits _ _) (isHexDigit_of_mem_hexDigits _ _)
  have hlt : g.value.toNat < 16 ^ 32 := g.value.isLt.trans_eq (by norm_num)
  rw [read_of_isHyphenated hform, hlist, filterMap_hyphenate rfl, hexNumber_hexDigits,
    Nat.mod_eq_of_lt hlt, BitVec.ofNat_toNat, BitVec.setWidth_eq]

theorem text_injective {g g' : Guid} (h : g.text = g'.text) : g = g' := by
  have hread := read_text g
  rw [h, read_text] at hread
  exact (Option.some.inj hread).symm

/-! ## Bytes of identifiers -/

theorem IsHyphenated.ascii {cs : List Char} (h : IsHyphenated cs) : ∀ c ∈ cs, c.toNat < 128 := by
  intro c hc
  by_cases hne : c = '-'
  · rw [hne]
    decide
  · exact toNat_lt_of_isHexDigit (h.isHexDigit hc hne)

/-- **A text has the form exactly if its bytes have it.** -/
theorem isHyphenated_byteChars_iff (s : String) :
    IsHyphenated (byteChars s) ↔ IsHyphenated s.toList := by
  constructor
  · intro h
    rwa [byteChars_of_ascii (ascii_of_byteChars h.ascii)] at h
  · intro h
    rwa [byteChars_of_ascii h.ascii]

/-- **Reading an identifier loses the case of its letters, and nothing else.**  A text denotes an
identifier exactly if it is 36 ASCII characters, hyphens at four places and hexadecimal digits at
all others, and it is the same to look at its bytes.  The identifier is then the number that the
digits write, the most significant one first, and it is written as the text in lower case.  Two
texts denote the same identifier exactly if they differ in the case of letters only, and each
identifier is read from its own text. -/
theorem read_loses_letter_case_only (s t : String) :
    ((read s).isSome = true ↔ (∀ c ∈ s.toList, c.toNat < 128) ∧ IsHyphenated s.toList) ∧
    ((read s).isSome = true ↔ IsHyphenated (byteChars s)) ∧
    (∀ g, read s = some g →
      g.value.toNat = Nat.ofDigits 16 (s.toList.filterMap hexValue?).reverse ∧
      g.text = s.toLower) ∧
    (∀ g g', read s = some g → read t = some g' → (g = g' ↔ eqIgnoreCase s t = true)) ∧
    ∀ g : Guid, read g.text = some g := by
  refine ⟨?_, ?_, fun g hg => ⟨?_, text_of_read hg⟩, fun g g' hg hg' => ?_, read_text⟩
  · rw [isSome_read_iff]
    exact ⟨fun h => ⟨h.ascii, h⟩, And.right⟩
  · rw [isSome_read_iff, isHyphenated_byteChars_iff]
  · rw [toNat_value_of_read hg, hexNumber_eq_ofDigits]
  · rw [eqIgnoreCase_iff_toLower_eq, ← text_of_read hg, ← text_of_read hg']
    exact ⟨congrArg text, text_injective⟩

/-- Capital and small letters write the same identifier, and it is shown in small ones. -/
theorem capitals_and_small_letters_agree :
    ∃ g, read "E4C7772B-8947-4E46-98ED-644B417D2A08" = some g ∧
      read "e4c7772b-8947-4e46-98ed-644b417d2a08" = some g ∧
      g.value.toNat = 0xE4C7772B89474E4698ED644B417D2A08 ∧
      g.text = "e4c7772b-8947-4e46-98ed-644b417d2a08" := by
  have hlarge : IsHyphenated "E4C7772B-8947-4E46-98ED-644B417D2A08".toList :=
    (isCanonical_iff _).mp (by decide)
  have hsmall : IsHyphenated "e4c7772b-8947-4e46-98ed-644b417d2a08".toList :=
    (isCanonical_iff _).mp (by decide)
  obtain ⟨hsome, -, hread, hsame, -⟩ := read_loses_letter_case_only
    "E4C7772B-8947-4E46-98ED-644B417D2A08" "e4c7772b-8947-4e46-98ed-644b417d2a08"
  obtain ⟨g, hg⟩ := Option.isSome_iff_exists.mp (hsome.mpr ⟨hlarge.ascii, hlarge⟩)
  have hg' := read_of_isHyphenated hsmall
  obtain rfl := (hsame g _ hg hg').mpr (by decide)
  obtain ⟨hvalue, htext⟩ := hread _ hg
  refine ⟨_, hg, hg', hvalue.trans (by decide), htext.trans (String.toList_inj.mp ?_)⟩
  rw [String.toLower, String.toList_map]
  decide

end Guid

end TableQuery
