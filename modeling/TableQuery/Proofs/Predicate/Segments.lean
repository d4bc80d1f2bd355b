import TableQuery.Proofs.Predicate.Rendering

/-!
# Proofs/Predicate/Segments — one layout for question marks and values

The text of a predicate is a row of **segments** with something shown between each two: a question
mark, or the value of a comparison.  The segments are what its pieces say between their values
(`join_textWith`), and the values come in the order of the comparisons (`params_eq`), so the texts
with and without values and the values on their own list the comparisons of a predicate alike.  And
each value stands behind the column and the sign of its own comparison (`leadTo_segments`).
-/

namespace TableQuery.Predicate

/-- Segments with texts between them: behind each segment the next text, as long as there is one. -/
def interleave : List String → List String → String
  | [], _ => ""
  | s :: segments, texts => s ++ texts.headD "" ++ interleave segments texts.tail

/-- **The segments of pieces**: what they say in front of the first value, between two, and behind
the last. -/
def segments : List Piece → List String
  | [] => [""]
  | .text s :: ps => (segments ps).modifyHead (s ++ ·)
  | .value _ :: ps => "" :: segments ps

/-- There is one segment more than there are values. -/
theorem length_segments (ps : List Piece) :
    (segments ps).length = (ps.filterMap Piece.value?).length + 1 := by
  induction ps with
  | nil => rfl
  | cons piece ps ih =>
    cases piece with
    | text s => rw [segments, List.length_modifyHead, ih, List.filterMap_cons_none rfl]
    | value v =>
      rw [segments, List.length_cons, ih]
      rfl

theorem interleave_modifyHead (s : String) {segments : List String} (h : segments ≠ [])
    (texts : List String) :
    interleave (segments.modifyHead (s ++ ·)) texts = s ++ interleave segments texts := by
  cases segments with
  | nil => exact absurd rfl h
  | cons t segments => simp only [List.modifyHead_cons, interleave, String.append_assoc]

/-- **The text of pieces is their segments with the values between them**, however these are
shown. -/
theorem join_textWith (shown : Literal → String) (ps : List Piece) :
    String.join (ps.map (Piece.textWith shown)) =
      interleave (segments ps) ((ps.filterMap Piece.value?).map shown) := by
  induction ps with
  | nil => rfl
  | cons piece ps ih =>
    rw [List.map_cons, String.join_cons, ih]
    cases piece with
    | text s =>
      have hne : segments ps ≠ [] := List.ne_nil_of_length_eq_add_one (length_segments ps)
      rw [segments, List.filterMap_cons_none rfl, interleave_modifyHead s hne]
      rfl
    | value v =>
      rw [segments, interleave, String.empty_append]
      rfl

/-! ## Whose value it is -/

/-- What stands in front of the value of a comparison. -/
def Comparison.lead (c : Comparison) : String := c.column ++ " " ++ c.op.sign ++ " "

/-- **Segments that lead to comparisons**: one for each, with its column and sign at the end, and
one behind the last. -/
inductive LeadTo : List String → List Comparison → Prop where
  | last (s : String) : LeadTo [s] []
  | next {front : String} {segments : List String} {c : Comparison} {cs : List Comparison} :
      LeadTo segments cs → LeadTo ((front ++ c.lead) :: segments) (c :: cs)

/-- A text in front belongs to the first segment. -/
theorem leadTo_text {ps : List Piece} {cs : List Comparison} (h : LeadTo (segments ps) cs)
    (s : String) : LeadTo (segments (.text s :: ps)) cs := by
  rw [segments]
  generalize segments ps = segments at h
  cases h with
  | last t => exact .last (s ++ t)
  | next h =>
    rw [List.modifyHead_cons, ← String.append_assoc]
    exact .next h

/-- Parentheses around pieces change neither their comparisons nor what leads to these. -/
theorem leadTo_grouped {ps rest : List Piece} {cs ds : List Comparison}
    (hps : ∀ rest, LeadTo (segments rest) ds → LeadTo (segments (ps ++ rest)) (cs ++ ds))
    (hrest : LeadTo (segments rest) ds) (parens : Bool) :
    LeadTo (segments ((if parens then parenthesized ps else ps) ++ rest)) (cs ++ ds) := by
  cases parens with
  | false => exact hps rest hrest
  | true =>
    have hsplit : parenthesized ps ++ rest = .text "(" :: (ps ++ .text ")" :: rest) := by
      simp [parenthesized]
    rw [if_pos rfl, hsplit]
    exact leadTo_text (hps _ (leadTo_text hrest ")")) "("

/-- **The pieces of a predicate lead to its comparisons**, whatever stands behind. -/
theorem leadTo_pieces_append (p : Predicate) {rest : List Piece} {ds : List Comparison}
    (h : LeadTo (segments rest) ds) :
    LeadTo (segments (p.pieces ++ rest)) (p.comparisons ++ ds) := by
  induction p generalizing rest ds with
  | compare c =>
    have hlead : segments (pieces (.compare c) ++ rest) = ("" ++ c.lead) :: segments rest := by
      rw [String.empty_append]
      exact congrArg (· :: segments rest) String.append_empty
    rw [hlead]
    exact .next h
  | and l r ihl ihr =>
    rw [pieces, comparisons, List.append_assoc, List.append_assoc, List.cons_append]
    have hright := leadTo_grouped (fun _ => ihr) h r.isOr
    exact leadTo_grouped (fun _ => ihl) (leadTo_text hright " AND ") l.isOr
  | or l r ihl ihr =>
    rw [pieces, comparisons, List.append_assoc, List.append_assoc, List.cons_append]
    have hright := leadTo_grouped (fun _ => ihr) h true
    exact leadTo_grouped (fun _ => ihl) (leadTo_text hright " OR ") true

theorem leadTo_segments (p : Predicate) : LeadTo (segments p.pieces) p.comparisons := by
  have h : LeadTo (segments (p.pieces ++ [])) (p.comparisons ++ []) :=
    leadTo_pieces_append p (.last "")
  rwa [List.append_nil, List.append_nil] at h

/-- **All listings of the comparisons of a predicate agree.**  The values of the question marks are
those of the comparisons, in their order; and the text with question marks and the text with values
have the same segments, between which stand as many question marks as there are comparisons, or the
values of these in the same order, each behind the column and the sign it is compared by. -/
theorem listings_of_comparisons_agree (p : Predicate) :
    p.params = p.comparisons.map Comparison.value ∧
    ∃ segments : List String, segments.length = p.comparisons.length + 1 ∧
      p.render = interleave segments (p.comparisons.map fun _ => "?") ∧
      p.display = interleave segments (p.comparisons.map fun c => c.value.display) ∧
      LeadTo segments p.comparisons := by
  have hvalues : p.pieces.filterMap Piece.value? = p.comparisons.map Comparison.value := params_eq p
  refine ⟨params_eq p, segments p.pieces, ?_, ?_, ?_, leadTo_segments p⟩
  · rw [length_segments, hvalues, List.length_map]
  · rw [render, join_textWith, hvalues, List.map_map]
    rfl
  · rw [display, join_textWith, hvalues, List.map_map]
    rfl

end TableQuery.Predicate
