import Mathlib.Logic.Relation
import TableQuery.Schema

/-!
# Proofs/Schema/Lookup — the first field with a name decides

A schema is searched member by member, and an embedded schema in the same way at its place.  The
answer is that of the flat list of fields: the column of the first one that clients call by the name
(`Member.resolveAll_eq`).  So nothing about a schema counts but its flat list, and there a field
behind another one of the same name never counts either: members may be **reshaped**
(`Member.Reshapes`) without any lookup noticing (`Member.resolveAll_eq_of_reshapes`).
-/

namespace TableQuery

open TableQuery.Text

namespace Member

/-! ## Flat lists -/

mutual

theorem resolve_eq (property : String) : ∀ m : Member,
    m.resolve property = (m.fields.find? (·.answersTo property)).map Field.columnName
  | .field f => by
    rw [resolve, fields, List.find?_singleton]
    split <;> rfl
  | .embedded _ members => by rw [resolve, fields, resolveAll_eq property members]

/-- **Nested members are searched as their flat list is.**  A miss in an embedded schema falls
through to the members behind it. -/
theorem resolveAll_eq (property : String) : ∀ ms : List Member,
    resolveAll property ms = ((allFields ms).find? (·.answersTo property)).map Field.columnName
  | [] => rfl
  | m :: ms => by
    rw [resolveAll, allFields, List.find?_append, Option.map_or, m.resolve_eq property,
      resolveAll_eq property ms]

end

theorem allFields_append (ms ns : List Member) :
    allFields (ms ++ ns) = allFields ms ++ allFields ns := by
  induction ms with
  | nil => rfl
  | cons m ms ih => rw [List.cons_append, allFields, allFields, ih, List.append_assoc]

/-- An embedded schema contributes what its members do. -/
theorem allFields_embedded (front members back : List Member) (table : String) :
    allFields (front ++ .embedded table members :: back) =
      allFields front ++ (allFields members ++ allFields back) := by
  rw [allFields_append, allFields, fields]

/-! ## Reshaping -/

/-- **A change of members that no lookup notices**, behind fields that are declared already. -/
inductive Reshapes : List Field → List Member → List Member → Prop where
  /-- The members of an embedded schema take its place. -/
  | inline {declared : List Field} (front members back : List Member) (table : String) :
      Reshapes declared (front ++ .embedded table members :: back) (front ++ members ++ back)
  /-- Neighbours become the members of an embedded schema. -/
  | nest {declared : List Field} (front members back : List Member) (table : String) :
      Reshapes declared (front ++ members ++ back) (front ++ .embedded table members :: back)
  /-- A field is removed behind another one that clients call by the same name. -/
  | remove {declared : List Field} {f g : Field} (front back : List Member) :
      f ∈ declared ++ allFields front → eqIgnoreCase f.clientName g.clientName = true →
      Reshapes declared (front ++ .field g :: back) (front ++ back)
  /-- The members of an embedded schema change. -/
  | within {declared : List Field} {members members' : List Member} (front back : List Member)
      (table : String) : Reshapes (declared ++ allFields front) members members' →
      Reshapes declared (front ++ .embedded table members :: back)
        (front ++ .embedded table members' :: back)

/-- A field does not count behind another one of the same name. -/
theorem find?_remove {front : List Field} {f g : Field} (hf : f ∈ front)
    (hname : eqIgnoreCase f.clientName g.clientName = true) (back : List Field)
    (property : String) :
    (front ++ g :: back).find? (·.answersTo property) =
      (front ++ back).find? (·.answersTo property) := by
  have hsame : g.answersTo property = f.answersTo property := by
    simp only [eqIgnoreCase, beq_iff_eq] at hname
    simp only [Field.answersTo, eqIgnoreCase, hname]
  rw [List.find?_append, List.find?_append]
  by_cases hanswers : f.answersTo property = true
  · -- The search ends in front of both.
    have hfound : (front.find? (·.answersTo property)).isSome = true :=
      List.find?_isSome.mpr ⟨f, hf, hanswers⟩
    obtain ⟨h, hh⟩ := Option.isSome_iff_exists.mp hfound
    rw [hh, Option.some_or, Option.some_or]
  · rw [List.find?_cons_of_neg (by rwa [hsame])]

/-- **A change keeps what is found**, among the fields declared before and its own. -/
theorem Reshapes.find?_eq {declared : List Field} {ms ns : List Member}
    (h : Reshapes declared ms ns) (property : String) :
    (declared ++ allFields ms).find? (·.answersTo property) =
      (declared ++ allFields ns).find? (·.answersTo property) := by
  induction h with
  | inline front members back table | nest front members back table =>
    rw [allFields_embedded, allFields_append, allFields_append, List.append_assoc]
  | @remove declared f g front back hf hname =>
    rw [allFields_append, allFields_append, allFields, fields, List.singleton_append,
      ← List.append_assoc, ← List.append_assoc]
    exact find?_remove hf hname (allFields back) property
  | within front back table _ ih =>
    rw [allFields_embedded, allFields_embedded, ← List.append_assoc, ← List.append_assoc,
      ← List.append_assoc, ← List.append_assoc, List.find?_append, ih, ← List.find?_append]

/-- **Any number of changes keeps every lookup.** -/
theorem resolveAll_eq_of_reshapes {ms ns : List Member}
    (h : Relation.ReflTransGen (Reshapes []) ms ns) (property : String) :
    resolveAll property ns = resolveAll property ms := by
  induction h with
  | refl => rfl
  | tail _ hstep ih =>
    have hfind := hstep.find?_eq property
    rw [List.nil_append, List.nil_append] at hfind
    rw [← ih, resolveAll_eq, resolveAll_eq, hfind]

end Member

namespace Schema

/-- **A property has the column of the first field that clients call by its name**, and none if
there is no such field.  So embedded members may be written out and neighbours embedded, at any
depth, and fields behind others of the same name removed: every property keeps its column. -/
theorem resolve_is_first_match (s : Schema) :
    (∀ property column, s.resolve property = some column ↔
      ∃ front f back, s.fields = front ++ f :: back ∧
        (∀ g ∈ front, eqIgnoreCase (g.clientAlias.getD g.name) property = false) ∧
        eqIgnoreCase (f.clientAlias.getD f.name) property = true ∧
        column = f.column.getD (snakeCase f.name)) ∧
    (∀ property, s.resolve property = none ↔
      ∀ f ∈ s.fields, eqIgnoreCase (f.clientAlias.getD f.name) property = false) ∧
    ∀ s' : Schema, Relation.ReflTransGen (Member.Reshapes []) s.members s'.members →
      ∀ property, s'.resolve property = s.resolve property := by
  have hresolve (property : String) : s.resolve property =
      (s.fields.find? fun f => eqIgnoreCase (f.clientAlias.getD f.name) property).map
        fun f => f.column.getD (snakeCase f.name) :=
    Member.resolveAll_eq property s.members
  refine ⟨fun property column => ?_, fun property => ?_,
    fun s' h => Member.resolveAll_eq_of_reshapes h⟩
  · rw [hresolve, Option.map_eq_some_iff]
    constructor
    · rintro ⟨f, hfind, rfl⟩
      obtain ⟨hanswers, front, back, hfields, hfront⟩ := List.find?_eq_some_iff_append.mp hfind
      exact ⟨front, f, back, hfields, fun g hg => by simpa using hfront g hg, hanswers, rfl⟩
    · rintro ⟨front, f, back, hfields, hfront, hanswers, rfl⟩
      refine ⟨f, List.find?_eq_some_iff_append.mpr ⟨hanswers, front, back, hfields, ?_⟩, rfl⟩
      exact fun g hg => by simp [hfront g hg]
  · rw [hresolve, Option.map_eq_none_iff, List.find?_eq_none]
    simp only [Bool.not_eq_true]

/-- One field goes behind its namesake in another embedded schema, the first embedded schema is
written out, and the two fields left behind its first one become an embedded schema. -/
theorem resolve_behind_three_changes :
    ∃ s s' : Schema,
      s = ⟨"users", [.embedded "audit"
          [.field (.named "Age"), .field ⟨"Id", some "Key", some "pk"⟩],
        .embedded "" [.field ⟨"Years", some "AGE", none⟩, .field (.named "LastName")]]⟩ ∧
      s' = ⟨"people", [.field (.named "Age"), .embedded "rest"
        [.field ⟨"Id", some "Key", some "pk"⟩, .embedded "" [.field (.named "LastName")]]]⟩ ∧
      Relation.ReflTransGen (Member.Reshapes []) s.members s'.members ∧
      (∀ property, s'.resolve property = s.resolve property) ∧
      s'.resolve "age" = some "age" ∧ s'.resolve "KEY" = some "pk" ∧
      s'.resolve "lastname" = some "last_name" ∧ s'.resolve "id" = none := by
  refine ⟨_, _, rfl, rfl, ?_⟩
  suffices h : Relation.ReflTransGen (Member.Reshapes []) _ _ from
    ⟨h, (resolve_is_first_match _).2.2 _ h, by decide +kernel⟩
  refine .tail (.tail (.single (.within [_] [] "" (.remove [] [_] List.mem_cons_self ?_)))
    (.inline [] [_, _] [_] "audit")) (.nest [_] [_, _] [] "rest")
  decide

end Schema

end TableQuery
