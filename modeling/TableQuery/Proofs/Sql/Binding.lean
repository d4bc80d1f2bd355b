import TableQuery.Proofs.Plan.Making
import TableQuery.Proofs.Sql.Clause

/-!
# Proofs/Sql/Binding — values are bound to a statement and never written into its text

The **skeleton** of a predicate or a condition is what is left of it when all values are blotted
out: its tree, its columns and its comparators.  Grouping, merging and folding see skeletons only
(`skeleton_both`, `fold_skeleton`), and so does the text with placeholders.  Hence two statements
that differ in nothing but values have one text (`Alike.parameterized_eq`), and the values stand
beside it, in the order of the placeholders (`Statement.values_eq`).
-/

namespace TableQuery

/-- **The skeleton of a predicate**: its tree, its columns and its comparators. -/
def Predicate.skeleton : Predicate → Predicate
  | .compare c => .compare { c with value := .text "" }
  | .and l r => .and l.skeleton r.skeleton
  | .or l r => .or l.skeleton r.skeleton

namespace Sql

open Predicate (Comparison)

/-! ## Skeletons -/

/-- A condition on one column without its value. -/
def Atom.skeleton : Atom → Atom
  | .compare column op _ => .compare column op (.string "")
  | .like column _ escaped => .like column "" escaped

mutual

/-- **The skeleton of a condition**: its groups, its columns and its comparators. -/
def Condition.skeleton : Condition → Condition
  | .atom a => .atom a.skeleton
  | .group j cs => .group j (Condition.skeletons cs)

/-- The skeletons of some conditions. -/
def Condition.skeletons : List Condition → List Condition
  | [] => []
  | c :: cs => c.skeleton :: Condition.skeletons cs

end

/-- A formula without its values. -/
def Formula.skeleton : Formula → Formula
  | .atom a => .atom a.skeleton
  | .constant b => .constant b
  | .binary j l r => .binary j l.skeleton r.skeleton

/-- A piece without its value. -/
def Piece.skeleton : Piece → Piece
  | .value _ => .value (.string "")
  | piece => piece

namespace Condition

theorem skeletons_append (cs ds : List Condition) :
    skeletons (cs ++ ds) = skeletons cs ++ skeletons ds := by
  induction cs with
  | nil => rfl
  | cons c cs ih => rw [List.cons_append, skeletons, skeletons, ih, List.cons_append]

/-- Whether a group has one item shows in its skeleton. -/
theorem skeleton_asItem (c : Condition) : c.asItem.skeleton = c.skeleton.asItem := by
  cases c with
  | atom a => rfl
  | group j cs =>
    match cs with
    | [] => rfl
    | [c] => rfl
    | c :: d :: cs => rfl

/-- **Conditions are merged by their skeletons.** -/
theorem skeleton_both (a b : Condition) : (a.both b).skeleton = a.skeleton.both b.skeleton := by
  cases a with
  | atom a => simp only [both, skeleton, skeletons, skeleton_asItem]
  | group j cs =>
    cases j with
    | any => simp only [both, skeleton, skeletons, skeleton_asItem]
    | all =>
      cases b with
      | atom b => simp only [both, skeleton, skeletons, skeletons_append, skeleton_asItem]
      | group j ds =>
        cases j <;> simp only [both, skeleton, skeletons, skeletons_append, skeleton_asItem]

/-- **The condition of a predicate has the skeleton of the predicate.** -/
theorem skeleton_ofPredicate (p : Predicate) :
    (ofPredicate p.skeleton).skeleton = (ofPredicate p).skeleton := by
  induction p with
  | compare c =>
    obtain ⟨column, op, value⟩ := c
    cases op <;> rfl
  | and l r ihl ihr | or l r ihl ihr =>
    simp only [Predicate.skeleton, ofPredicate, skeleton, skeletons, skeleton_asItem, ihl, ihr]

mutual

/-- **Conditions are folded by their skeletons.** -/
theorem fold_skeleton : ∀ c : Condition, c.skeleton.fold = c.fold.skeleton
  | .atom _ => rfl
  | .group j [] => by cases j <;> rfl
  | .group j (c :: cs) => by
    rw [skeleton, skeletons, fold, fold, fold_skeleton c, foldFrom_skeletons j c.fold cs]

theorem foldFrom_skeletons (j : Junction) (left : Formula) : ∀ cs : List Condition,
    foldFrom j left.skeleton (skeletons cs) = (foldFrom j left cs).skeleton
  | [] => rfl
  | c :: cs => by
    rw [skeletons, foldFrom, foldFrom, fold_skeleton c, ← foldFrom_skeletons j _ cs]
    rfl

end

end Condition

/-! ## The text -/

theorem map_skeleton_parenthesized (ps : List Piece) :
    (parenthesized ps).map Piece.skeleton = parenthesized (ps.map Piece.skeleton) := by
  simp [parenthesized, Piece.skeleton]

theorem Formula.junction?_skeleton (f : Formula) : f.skeleton.junction? = f.junction? := by
  cases f <;> rfl

/-- Parentheses are set by skeletons. -/
theorem Formula.pieces_skeleton (f : Formula) :
    f.skeleton.pieces = f.pieces.map Piece.skeleton := by
  induction f with
  | atom a =>
    cases a with
    | compare => rfl
    | like column pattern escaped => cases escaped <;> rfl
  | constant b => rfl
  | binary j l r ihl ihr =>
    simp only [skeleton, pieces, junction?_skeleton, ihl, ihr, List.map_append, List.map_cons,
      apply_ite (List.map Piece.skeleton), map_skeleton_parenthesized, Piece.skeleton]

namespace Statement

/-- **A placeholder does not show its value.** -/
theorem placeholderText_skeleton (d : Dialect) (n : Nat) (ps : List Piece) :
    placeholderText d n (ps.map Piece.skeleton) = placeholderText d n ps := by
  induction ps generalizing n with
  | nil => rfl
  | cons piece ps ih =>
    cases piece <;> simp only [List.map_cons, Piece.skeleton, placeholderText, ih]

/-- **Statements that differ in nothing but values.** -/
structure Alike (s t : Statement) : Prop where
  table : s.table = t.table
  projection : s.projection = t.projection
  condition : s.condition.map Condition.skeleton = t.condition.map Condition.skeleton
  order : s.order = t.order
  limit : s.limit.isSome = t.limit.isSome
  offset : s.offset.isSome = t.offset.isSome

/-- Of a number only its presence is left. -/
theorem map_skeleton_numberPieces {m n : Option Nat} (h : m.isSome = n.isSome) (clause : String) :
    (numberPieces clause m).map Piece.skeleton = (numberPieces clause n).map Piece.skeleton := by
  cases m <;> cases n <;> first | rfl | cases h

theorem map_skeleton_conditionPieces {c c' : Option Condition}
    (h : c.map Condition.skeleton = c'.map Condition.skeleton) :
    (conditionPieces c).map Piece.skeleton = (conditionPieces c').map Piece.skeleton := by
  have hpieces : ∀ c : Option Condition, (conditionPieces c).map Piece.skeleton
      = conditionPieces (c.map Condition.skeleton) := by
    rintro (_ | c)
    · rfl
    · rw [Option.map_some, conditionPieces, conditionPieces, Condition.fold_skeleton,
        Formula.pieces_skeleton, List.map_cons]
      rfl
  rw [hpieces, hpieces, h]

/-- **Statements that differ in nothing but values have one text with placeholders.** -/
theorem Alike.parameterized_eq {s t : Statement} (h : Alike s t) (d : Dialect) :
    s.parameterized d = t.parameterized d := by
  have hpieces : s.pieces.map Piece.skeleton = t.pieces.map Piece.skeleton := by
    simp only [pieces, List.map_cons, List.map_append, h.table, h.projection, h.order,
      map_skeleton_conditionPieces h.condition, map_skeleton_numberPieces h.limit,
      map_skeleton_numberPieces h.offset]
  rw [parameterized, parameterized, ← placeholderText_skeleton, hpieces, placeholderText_skeleton]

end Statement

/-! ## The values -/

/-- The values that a condition binds, from left to right. -/
def Condition.values (c : Condition) : List Value := c.fold.pieces.filterMap Statement.pieceValue?

namespace Condition

theorem values_foldFrom (j : Junction) (left : Formula) (cs : List Condition) :
    (foldFrom j left cs).pieces.filterMap Statement.pieceValue?
      = left.pieces.filterMap Statement.pieceValue? ++ cs.flatMap values := by
  induction cs generalizing left with
  | nil => simp [foldFrom]
  | cons c cs ih =>
    rw [foldFrom, ih, values_binary, List.flatMap_cons, List.append_assoc]
    rfl

/-- A group binds the values of its items in turn. -/
theorem values_group (j : Junction) (cs : List Condition) :
    (group j cs).values = cs.flatMap values := by
  cases cs with
  | nil => rfl
  | cons c cs =>
    rw [values, fold, values_foldFrom, List.flatMap_cons]
    rfl

theorem values_asItem (c : Condition) : c.asItem.values = c.values := by
  rw [values, values, fold_asItem]

/-- **Both conditions bind the values of the first, then those of the second.** -/
theorem values_both (a b : Condition) : (a.both b).values = a.values ++ b.values := by
  unfold both
  split <;> simp only [values_group, values_asItem, List.flatMap_append, List.flatMap_cons,
    List.flatMap_nil, List.append_nil]

end Condition

namespace Statement

theorem filterMap_orderPieces (order : List (String × Direction)) :
    (orderPieces order).filterMap pieceValue? = [] := by
  cases order <;> rfl

theorem filterMap_numberPieces (clause : String) (n : Option Nat) :
    (numberPieces clause n).filterMap pieceValue? = n.toList.map .bigUnsigned := by
  cases n <;> rfl

/-- **The values of a statement are those of its condition, its limit and its offset.** -/
theorem values_eq (s : Statement) :
    s.values = s.condition.elim [] Condition.values ++ s.limit.toList.map .bigUnsigned ++
      s.offset.toList.map .bigUnsigned := by
  have hcondition : (conditionPieces s.condition).filterMap pieceValue?
      = s.condition.elim [] Condition.values := by
    cases s.condition <;> rfl
  rw [values, pieces, List.filterMap_cons_none rfl]
  simp only [List.filterMap_append, hcondition, filterMap_orderPieces, filterMap_numberPieces,
    List.append_nil]

end Statement

end Sql

/-! ## Runs -/

namespace Query

open Plan Sql

/-- The condition behind filter and search. -/
theorem condition_selected (query : Query) (handler : Option (String → Condition))
    (filter : Option Predicate) (table : String) :
    (query.searched handler).elim
        (filter.elim (.select table) (Statement.backend.filter (.select table)))
        (Statement.backend.condition
          (filter.elim (.select table) (Statement.backend.filter (.select table))))
      = { table, condition := (filter.map .ofPredicate).merge .both (query.searched handler) } := by
  cases filter <;> cases query.searched handler <;> rfl

/-- **A query hands a statement its conditions, its order, its offset and its limit.** -/
theorem query_shaped_statement (query : Query) (options : QueryOptions)
    (handler : Option (String → Condition)) (filter : Option Predicate)
    (order : List (String × Direction)) (table : String) :
    (query.shaped options Statement.backend handler filter order (.select table)).query
      = { table, condition := (filter.map .ofPredicate).merge .both (query.searched handler),
          order, limit := query.limited options, offset := query.skipped } := by
  have horder := foldl_orderBy Statement.backend (fun s keys => { s with order := s.order ++ keys })
    (by simp) (by simp [Statement.backend])
  unfold shaped
  simp only [condition_selected, horder]
  cases query.skipped <;> cases query.limited options <;> rfl

/-- **The values that a run binds**: those that its filter compares with, from left to right, those
of its search, then its limit, then its offset. -/
def boundValues (filter : Option Predicate) (search : Option Condition)
    (limit offset : Option Nat) : List Value :=
  filter.elim [] (fun p => p.comparisons.map comparedValue) ++ search.elim [] Condition.values ++
    limit.toList.map .bigUnsigned ++ offset.toList.map .bigUnsigned

theorem values_merge (filter : Option Predicate) (search : Option Condition) :
    ((filter.map .ofPredicate).merge .both search).elim [] Condition.values
      = filter.elim [] (fun p => p.comparisons.map comparedValue) ++
        search.elim [] Condition.values := by
  have hfilter (p : Predicate) :
      (Condition.ofPredicate p).values = p.comparisons.map comparedValue := values_pieces p
  cases filter <;> cases search <;> simp [Option.merge, Condition.values_both, hfilter]

theorem map_skeleton_merge (a b : Option Condition) :
    (a.merge .both b).map Condition.skeleton
      = (a.map Condition.skeleton).merge .both (b.map Condition.skeleton) := by
  cases a <;> cases b <;> simp [Option.merge, Condition.skeleton_both]

/-- The condition of a filter has the skeleton that the filter has. -/
theorem map_skeleton_ofPredicate {p q : Option Predicate}
    (h : p.map Predicate.skeleton = q.map Predicate.skeleton) :
    (p.map Condition.ofPredicate).map Condition.skeleton
      = (q.map Condition.ofPredicate).map Condition.skeleton := by
  have hskeleton : Condition.skeleton ∘ Condition.ofPredicate
      = (Condition.skeleton ∘ Condition.ofPredicate) ∘ Predicate.skeleton :=
    funext fun p => (Condition.skeleton_ofPredicate p).symm
  rw [Option.map_map, Option.map_map, hskeleton, ← Option.map_map, h, Option.map_map]

/-- **Values never reach the text of a statement.**  A run binds the values that its filter compares
with, from left to right, then those of its search, its limit and its offset; they are the same for
both dialects.  Two runs on one table whose filters have one skeleton, and so their searches, that
sort alike and agree on whether there is an offset and a limit, have one text with placeholders in
either dialect. -/
theorem values_never_reach_the_text (table : String) (resolve resolve' : Resolver)
    (options options' : QueryOptions) (query query' : Query)
    (handler handler' : Option (String → Condition))
    (applied applied' : Applied Statement Statement)
    (h : query.apply resolve options Statement.backend handler (.select table) = .ok applied)
    (h' : query'.apply resolve' options' Statement.backend handler' (.select table)
      = .ok applied') :
    ∃ filter order filter' order',
      compileFilter resolve options query.filter = .ok filter ∧
      resolveOrder resolve query.orderBy = .ok order ∧
      compileFilter resolve' options' query'.filter = .ok filter' ∧
      resolveOrder resolve' query'.orderBy = .ok order' ∧
      applied.query.values = boundValues filter (query.searched handler) applied.query.limit
        applied.query.offset ∧
      applied'.query.values = boundValues filter' (query'.searched handler') applied'.query.limit
        applied'.query.offset ∧
      (filter.map Predicate.skeleton = filter'.map Predicate.skeleton →
        (query.searched handler).map Condition.skeleton
          = (query'.searched handler').map Condition.skeleton →
        order = order' →
        applied.query.offset.isSome = applied'.query.offset.isSome →
        applied.query.limit.isSome = applied'.query.limit.isSome →
        ∀ d, applied.query.parameterized d = applied'.query.parameterized d) := by
  obtain ⟨filter, order, -, hfilter, horder, rfl⟩ := exists_of_apply_eq_ok h
  obtain ⟨filter', order', -, hfilter', horder', rfl⟩ := exists_of_apply_eq_ok h'
  refine ⟨filter, order, filter', order', hfilter, horder, hfilter', horder', ?_, ?_, ?_⟩
  · rw [Statement.values_eq, query_shaped_statement, values_merge, boundValues]
  · rw [Statement.values_eq, query_shaped_statement, values_merge, boundValues]
  · intro hskeleton hsearch hsame hoffset hlimit
    refine Statement.Alike.parameterized_eq ⟨?_, ?_, ?_, ?_, hlimit, hoffset⟩ <;>
      simp only [query_shaped_statement]
    · rw [map_skeleton_merge, map_skeleton_merge, map_skeleton_ofPredicate hskeleton, hsearch]
    · exact hsame

/-- Two filters of one skeleton, with values of different types, one of which looks like a
statement. -/
theorem values_of_two_filters_of_one_skeleton :
    ∃ applied applied' : Applied Statement Statement,
      Query.apply { top := 5, filter := "name contains 'a' or age gt 1" } some {} Statement.backend
        none (.select "users") = .ok applied ∧
      Query.apply { top := 7, filter := "name contains '; DROP' or (age gt 'x')" } some {}
        Statement.backend none (.select "users") = .ok applied' ∧
      applied.query.values = [.string "%a%", .bigInt 1, .bigUnsigned 5] ∧
      applied'.query.values = [.string "%; DROP%", .string "x", .bigUnsigned 7] ∧
      ∀ d, applied.query.parameterized d = applied'.query.parameterized d := by
  have happlied : Query.apply { top := 5, filter := "name contains 'a' or age gt 1" } some {}
      Statement.backend none (.select "users")
      = .ok ⟨{ table := "users", limit := some 5, condition := some (.group .any
          [.atom (.like "name" "%a%" true), .atom (.compare "age" .greater (.bigInt 1))]) },
        none⟩ := rfl
  have happlied' : Query.apply { top := 7, filter := "name contains '; DROP' or (age gt 'x')" }
      some {} Statement.backend none (.select "users")
      = .ok ⟨{ table := "users", limit := some 7, condition := some (.group .any
          [.atom (.like "name" "%; DROP%" true),
            .atom (.compare "age" .greater (.string "x"))]) }, none⟩ := rfl
  obtain ⟨filter, order, filter', order', hfilter, horder, hfilter', horder', -, -, htext⟩ :=
    values_never_reach_the_text _ _ _ _ _ _ _ _ _ _ _ happlied happlied'
  obtain rfl : some (.or (.compare ⟨"name", .like, .text "%a%"⟩)
      (.compare ⟨"age", .greater, .integer 1⟩)) = filter := Except.ok.inj hfilter
  obtain rfl : some (.or (.compare ⟨"name", .like, .text "%; DROP%"⟩)
      (.compare ⟨"age", .greater, .text "x"⟩)) = filter' := Except.ok.inj hfilter'
  obtain rfl : [] = order := Except.ok.inj horder
  obtain rfl : [] = order' := Except.ok.inj horder'
  exact ⟨_, _, happlied, happlied', rfl, rfl, htext rfl rfl rfl rfl rfl⟩

end Query

end TableQuery
