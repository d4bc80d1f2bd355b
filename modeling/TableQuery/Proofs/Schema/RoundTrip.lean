import TableQuery.Proofs.Json.Decoding
import TableQuery.Resource

/-!
# Proofs/Schema/RoundTrip — schemas read back from their text

Fields, members and schemas are decoded from their compact text (`decodes_field`, `decodes_member`,
`decodes_schema`).  The induction for schemas is on the levels of embedding that are left to the
reader: at every depth there is a level more than brackets and braces can be opened.

A resource that only describes its schema has one pair of braces around it, so the nesting of the
schema itself must stay one level below what a text may have.
-/

namespace TableQuery

open Json Json.Reader

variable {bound : Nat}

/-! ## Fields and members -/

theorem decodes_field (f : Field) : Decodes (bound + 1) Field.reader f.toJson.written f := by
  have hname := (decodes_string bound f.name).map fun s => { Field.named "" with name := s }
  have halias (g : Field) (s : String) :=
    (decodes_optional_string bound s).map fun s => { g with clientAlias := s }
  have hcolumn (g : Field) (s : String) :=
    (decodes_optional_string bound s).map fun s => { g with column := s }
  obtain ⟨name, clientAlias, column⟩ := f
  rw [Field.toJson, written_object]
  refine decodes_record (.cons rfl rfl hname ?_)
  cases clientAlias with
  | none =>
    cases column with
    | none => exact .nil rfl
    | some c => exact .cons rfl rfl (hcolumn _ c) (.nil rfl)
  | some s =>
    refine .cons rfl rfl (halias _ s) ?_
    cases column with
    | none => exact .nil rfl
    | some c => exact .cons rfl rfl (hcolumn _ c) (.nil rfl)

/-- **A member is decoded** if embedded schemas are. -/
theorem decodes_member {embedded : Nat → Reader Schema} (m : Member)
    (h : ∀ s : Schema, Decodes bound embedded s.toJson.written s) :
    Decodes (bound + 1) (choice (Member.form embedded)) m.toJson.written m := by
  have hnames : "field" ≠ "embedded" := by decide
  cases m with
  | field f =>
    rw [Member.toJson, written_object]
    exact decodes_choice hnames true (((decodes_field f).mono (Nat.le_succ bound)).map Member.field)
  | embedded table members =>
    rw [Member.toJson, written_object]
    exact decodes_choice hnames false ((h ⟨table, members⟩).map Schema.embed)

theorem written_allToJson (ms : List Member) :
    (Member.allToJson ms).map written = ms.map fun m => m.toJson.written := by
  induction ms with
  | nil => rfl
  | cons m ms ih => rw [Member.allToJson, List.map_cons, ih, List.map_cons]

theorem isBraced_member (m : Member) : m.toJson.written.IsBraced := by
  cases m with
  | field f => exact ⟨_, rfl⟩
  | embedded table members => exact ⟨_, rfl⟩

/-! ## Schemas -/

/-- **A schema is decoded** by the reader of any number of levels, at all depths below it. -/
theorem decodes_schema (levels : Nat) (s : Schema) :
    Decodes levels (Schema.readerWithin levels) s.toJson.written s := by
  induction levels generalizing s with
  | zero => exact fun depth hd => absurd hd (Nat.not_lt_zero depth)
  | succ levels ih =>
    -- Every layer gains a depth, so three are gained by an embedding and one is all that is needed.
    have hmembers : List.Forall₂
        (Decodes levels (choice (Member.form (Schema.readerWithin levels))))
        ((Member.allToJson s.members).map written) s.members := by
      rw [written_allToJson, List.forall₂_map_left_iff, List.forall₂_same]
      exact fun m _ => (decodes_member m ih).mono (Nat.le_succ levels)
    have hbraced : ∀ w ∈ (Member.allToJson s.members).map written, w.IsBraced := by
      rw [written_allToJson]
      exact List.forall_mem_map.mpr fun m _ => isBraced_member m
    have htable := (decodes_string levels s.table).map fun t => (⟨t, []⟩ : Schema)
    have hlist := ((decodes_list hmembers hbraced).mono (Nat.le_succ levels)).map
      fun ms => (⟨s.table, ms⟩ : Schema)
    rw [← written_array] at hlist
    rw [Schema.toJson, Schema.jsonOf, written_object]
    exact decodes_record (.cons rfl rfl htable (.cons rfl rfl hlist (.nil rfl)))

/-! ## Resources -/

namespace Resource

/-- The text that describes a schema and nothing else. -/
def describing (s : Schema) : String := "\x7b\"schema\": " ++ s.toJson.compact ++ "\x7d"

theorem toList_describing (s : Schema) :
    (describing s).toList = (Written.object [("schema", s.toJson.written.blank)]).text := by
  simp [describing, compact, Written.object, Written.membersText, Written.blank, written, separator,
    stringText, escapedChar]

/-- What is read of a schema's description depends on its nesting, with the braces around it. -/
theorem gives_describing (s : Schema) :
    Gives (record form ⟨⟨"", []⟩, {}⟩ maxDepth) (describing s).toList []
      (within (Json.object [("schema", s.toJson)]).nesting maxDepth ⟨s, {}⟩) := by
  have hschema : Decodes maxDepth Schema.reader s.toJson.written.blank s :=
    fun depth _ => (decodes_schema (depth + 1) s).blank depth (Nat.lt_succ_self depth)
  have hset := hschema.map fun t => (⟨t, {}⟩ : Resource)
  rw [toList_describing]
  exact decodes_record (.cons rfl rfl hset (.nil rfl)) maxDepth (Nat.lt_succ_self maxDepth) []

theorem ofText_describing {s : Schema}
    (h : (Json.object [("schema", s.toJson)]).nesting ≤ maxDepth) :
    ofText (describing s) = .ok ⟨s, {}⟩ := by
  have hgives := gives_describing s
  rw [within, if_pos h] at hgives
  exact readText_eq_ok hgives

theorem ofText_describing_tooDeep {s : Schema}
    (h : maxDepth < (Json.object [("schema", s.toJson)]).nesting) :
    ∃ place, ofText (describing s) = .error ⟨.tooDeep, some place⟩ := by
  have hgives := gives_describing s
  rw [within, if_neg (Nat.not_le_of_lt h)] at hgives
  exact readText_eq_tooDeep hgives

/-- **A schema is read back from its description**, with the options left at their defaults, if the
description is nested less than 128 levels deep; any deeper one is refused for its depth. -/
theorem schema_read_back_below_limit (s : Schema) :
    ((Json.object [("schema", s.toJson)]).nesting < 128 → ofText (describing s) = .ok ⟨s, {}⟩) ∧
    (128 ≤ (Json.object [("schema", s.toJson)]).nesting →
      ∃ place, ofText (describing s) = .error ⟨.tooDeep, some place⟩) :=
  ⟨fun h => ofText_describing (Nat.le_of_lt_succ h), ofText_describing_tooDeep⟩

/-- A schema inside a number of schemas that have no other member. -/
def enclosed : Nat → Schema → Schema
  | 0, s => s
  | n + 1, s => ⟨"", [(enclosed n s).embed]⟩

/-- Each embedding opens three levels: the outer schema, its list of members, and the member. -/
theorem nesting_enclosed (n : Nat) (s : Schema) :
    (enclosed n s).toJson.nesting = 3 * n + s.toJson.nesting := by
  induction n with
  | zero => exact (Nat.zero_add _).symm
  | succ n ih =>
    have hlevels : (enclosed (n + 1) s).toJson.nesting = (enclosed n s).toJson.nesting + 3 := by
      simp [enclosed, Schema.embed, Schema.toJson, Schema.jsonOf, Member.allToJson, Member.toJson,
        nesting, deepestMember, deepestItem]
    rw [hlevels, ih]
    omega

/-- The braces around a schema count: nested 127 levels deep on its own, it is refused. -/
theorem schema_of_127_levels_refused :
    (enclosed 41 ⟨"", [.field (.named "a")]⟩).toJson.nesting < 128 ∧
    ofText (describing (enclosed 41 ⟨"", [.field (.named "a")]⟩))
      ≠ .ok ⟨enclosed 41 ⟨"", [.field (.named "a")]⟩, {}⟩ := by
  have hnesting : (enclosed 41 ⟨"", [.field (.named "a")]⟩).toJson.nesting = 127 :=
    nesting_enclosed 41 _
  refine ⟨by rw [hnesting]; decide, fun hok => ?_⟩
  have hdeep : maxDepth
      < (Json.object [("schema", (enclosed 41 ⟨"", [.field (.named "a")]⟩).toJson)]).nesting := by
    rw [nesting, deepestMember, hnesting]
    decide
  obtain ⟨place, herror⟩ := ofText_describing_tooDeep hdeep
  rw [hok] at herror
  cases herror

end Resource

end TableQuery
