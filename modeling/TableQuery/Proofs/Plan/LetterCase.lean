import TableQuery.Plan
import TableQuery.Proofs.Filter.LetterCase
import TableQuery.Proofs.Token.Scanning

/-!
# Proofs/Plan/LetterCase — neither layout nor the case of words changes a compiled filter

A schema looks a property up without regard to case (`Schema.resolve_toLower`), so a folded filter
has the predicate of the filter itself (`Predicate.ofFilter_folded`).  Tokens also tell whether a
text is blank (`isBlankText_eq_of_alike`).  Therefore two texts with alike tokens are compiled to
the same predicate, to none, or to errors of one kind (`compileFilter_agrees_of_alike`).
-/

namespace TableQuery

open Text (isBlankText)

/-! ## Lookup -/

theorem Field.answersTo_toLower (f : Field) (property : String) :
    f.answersTo property.toLower = f.answersTo property :=
  eqIgnoreCase_toLower_right f.clientName property

mutual

theorem Member.resolve_toLower (property : String) :
    ∀ m : Member, m.resolve property.toLower = m.resolve property
  | .field f => by rw [Member.resolve, Member.resolve, f.answersTo_toLower]
  | .embedded _ members => by
    rw [Member.resolve, Member.resolve, Member.resolveAll_toLower property members]

theorem Member.resolveAll_toLower (property : String) :
    ∀ ms : List Member, Member.resolveAll property.toLower ms = Member.resolveAll property ms
  | [] => rfl
  | m :: ms => by
    rw [Member.resolveAll, Member.resolveAll, m.resolve_toLower property,
      Member.resolveAll_toLower property ms]

end

/-- **The case of a property does not change its column.** -/
theorem Schema.resolve_toLower (schema : Schema) (property : String) :
    schema.resolve property.toLower = schema.resolve property :=
  Member.resolveAll_toLower property schema.members

/-! ## Predicates -/

/-- An error of the same kind without its place, words in small letters. -/
def QueryError.folded : QueryError → QueryError
  | .topExceedsMaximum top maxTop => .topExceedsMaximum top maxTop
  | .unknownField name => .unknownField name.toLower
  | .malformedFilter error => .malformedFilter error.folded

theorem Predicate.ofFilter_folded {resolve : Resolver}
    (hresolve : ∀ property, resolve property.toLower = resolve property) (e : Filter) :
    ofFilter resolve e.folded = (ofFilter resolve e).mapError QueryError.folded := by
  induction e with
  | compare field op value raw =>
    rw [Filter.folded, ofFilter, ofFilter, hresolve]
    cases resolve field <;> rfl
  | join op l r ihl ihr =>
    rw [Filter.folded, ofFilter, ofFilter, ihl, ihr]
    cases ofFilter resolve l with
    | error => rfl
    | ok => cases ofFilter resolve r <;> rfl

/-! ## Blank texts -/

/-- A token is blank if it is blank folded: words, which folding changes, are not. -/
theorem isBlankText_iff_forall_mem_folded {s : String} : isBlankText s.toList = true ↔
    ∀ t ∈ (Token.tokenize s).map Token.folded,
      t.kind = .illegal ∧ isBlankText t.text.toList = true := by
  rw [Token.isBlankText_iff_forall_mem_tokenize, List.forall_mem_map]
  refine forall₂_congr fun t _ => and_congr_right fun hkind => ?_
  rw [Token.text_folded_of_ne (by rw [hkind]; decide)]

theorem isBlankText_eq_of_alike {s t : String}
    (h : List.Forall₂ Token.Alike (Token.tokenize s) (Token.tokenize t)) :
    isBlankText s.toList = isBlankText t.toList := by
  rw [Bool.eq_iff_iff, isBlankText_iff_forall_mem_folded, isBlankText_iff_forall_mem_folded,
    Token.map_folded_eq_of_alike h]

/-! ## Compiled filters -/

namespace Plan

theorem compileFilter_folded_of_alike {resolve : Resolver}
    (hresolve : ∀ property, resolve property.toLower = resolve property) (options : QueryOptions)
    {s t : String} (h : List.Forall₂ Token.Alike (Token.tokenize s) (Token.tokenize t)) :
    (compileFilter resolve options s).mapError QueryError.folded =
      (compileFilter resolve options t).mapError QueryError.folded := by
  have hread := Filter.read_folded_of_alike h
  have hcomm (x : Except QueryError Predicate) : (x.map some).mapError QueryError.folded =
      (x.mapError QueryError.folded).map some := by cases x <;> rfl
  rw [compileFilter, compileFilter, isBlankText_eq_of_alike h]
  split
  · rfl
  cases hs : Filter.read s <;> cases ht : Filter.read t <;> rw [hs, ht] at hread
  case error.error e f =>
    have herror : e.folded = f.folded := Except.error.inj hread
    cases options.malformedFilter with
    | ignore => rfl
    | reject => exact congrArg (fun e => Except.error (QueryError.malformedFilter e)) herror
  case ok.ok e f =>
    have hfolded : e.folded = f.folded := Except.ok.inj hread
    dsimp only
    rw [hcomm, hcomm, ← Predicate.ofFilter_folded hresolve, ← Predicate.ofFilter_folded hresolve,
      hfolded]
  all_goals cases hread

/-- **Texts with alike tokens compile alike.**  Whatever the white space between the tokens and the
case of the words, there is one predicate, or no predicate, or an error of one kind: the same
property is unknown, or the same thing is missing at the same token. -/
theorem compileFilter_agrees_of_alike (schema : Schema) (options : QueryOptions) (s t : String)
    (h : List.Forall₂ Token.Alike (Token.tokenize s) (Token.tokenize t)) :
    (∃ p, compileFilter schema.resolve options s = .ok p ∧
      compileFilter schema.resolve options t = .ok p) ∨
    ∃ e f, compileFilter schema.resolve options s = .error e ∧
      compileFilter schema.resolve options t = .error f ∧ e.folded = f.folded := by
  have hfolded := compileFilter_folded_of_alike schema.resolve_toLower options h
  cases hs : compileFilter schema.resolve options s <;>
    cases ht : compileFilter schema.resolve options t <;> rw [hs, ht] at hfolded
  case error.error e f => exact .inr ⟨e, f, rfl, rfl, Except.error.inj hfolded⟩
  case ok.ok p q =>
    obtain rfl : p = q := Except.ok.inj hfolded
    exact .inl ⟨p, rfl, rfl⟩
  all_goals cases hfolded

/-- A property of an embedded schema and one with an alias, in two layouts and two spellings. -/
theorem one_filter_in_two_spellings :
    ∃ schema s t p, schema = (⟨"notes", [.embedded "audit" [.field (.named "CreatedBy")],
        .field ⟨"name", some "Title", none⟩]⟩ : Schema) ∧
      s = "title eq 'Tea' and (createdby gt 3 or createdby eq 0)" ∧
      t = "\tTITLE Eq'Tea'AND(CreatedBy GT 3\nOR createdBy eQ 0 )  " ∧
      p = Predicate.and (.compare ⟨"name", .equal, .text "Tea"⟩)
        (.or (.compare ⟨"created_by", .greater, .integer 3⟩)
          (.compare ⟨"created_by", .equal, .integer 0⟩)) ∧
      List.Forall₂ Token.Alike (Token.tokenize s) (Token.tokenize t) ∧
      compileFilter schema.resolve {} s = .ok (some p) ∧
      compileFilter schema.resolve {} t = .ok (some p) := by
  refine ⟨_, _, _, _, rfl, rfl, rfl, rfl, ?_⟩
  suffices h : List.Forall₂ Token.Alike _ _ ∧ compileFilter _ _ _ = .ok _ by
    obtain ⟨halike, hcompiled⟩ := h
    refine ⟨halike, hcompiled, ?_⟩
    rcases compileFilter_agrees_of_alike _ {} _ _ halike with ⟨p, hs, ht⟩ | ⟨e, f, hs, ht, -⟩
    · exact ht.trans (hs.symm.trans hcompiled)
    · exact absurd (hs.symm.trans hcompiled) nofun
  exact ⟨by decide +kernel, by decide +kernel⟩

end Plan

end TableQuery
