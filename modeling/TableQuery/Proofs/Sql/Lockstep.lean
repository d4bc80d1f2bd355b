import TableQuery.Row.Selection
import TableQuery.Sql.Statement

/-!
# Proofs/Sql/Lockstep — rows in memory and statements stay in step

A selection drops rows at once; a statement collects a condition, and how a further condition goes
into it depends on the groups that are there.  `Condition.truth` reads such a condition: all of a
group, or any.  Both sides then see the same rows after every list of calls, since a call keeps them
**in step** (`InStep.apply`).
-/

namespace TableQuery.Sql

/-! ## The truth of a condition -/

mutual

/-- **The truth of a condition**, given the truth of its atoms. -/
def Condition.truth (leaf : Atom → Bool) : Condition → Bool
  | .atom a => leaf a
  | .group .all cs => Condition.allTrue leaf cs
  | .group .any cs => Condition.anyTrue leaf cs

/-- Whether all of some conditions are true. -/
def Condition.allTrue (leaf : Atom → Bool) : List Condition → Bool
  | [] => true
  | c :: cs => c.truth leaf && Condition.allTrue leaf cs

/-- Whether any of some conditions is true. -/
def Condition.anyTrue (leaf : Atom → Bool) : List Condition → Bool
  | [] => false
  | c :: cs => c.truth leaf || Condition.anyTrue leaf cs

end

namespace Condition

variable (leaf : Atom → Bool)

@[simp] theorem truth_all (cs : List Condition) :
    (group .all cs).truth leaf = cs.all fun c => c.truth leaf := by
  rw [truth]
  induction cs with
  | nil => rfl
  | cons c cs ih => rw [allTrue, ih, List.all_cons]

@[simp] theorem truth_any (cs : List Condition) :
    (group .any cs).truth leaf = cs.any fun c => c.truth leaf := by
  rw [truth]
  induction cs with
  | nil => rfl
  | cons c cs ih => rw [anyTrue, ih, List.any_cons]

/-- A group of one is that one. -/
@[simp] theorem truth_asItem (c : Condition) : c.asItem.truth leaf = c.truth leaf := by
  unfold asItem
  split
  · rename_i j c
    cases j <;> simp
  · rfl

/-- **Both conditions are true if each is**, whatever groups they are. -/
theorem truth_both (a b : Condition) :
    (a.both b).truth leaf = (a.truth leaf && b.truth leaf) := by
  unfold both
  split <;> simp

end Condition

/-! ## Conditions on rows -/

/-- The literal behind a value. -/
def Value.toLiteral : Value → Literal
  | .bigInt n => .integer n
  | .bigUnsigned n => .integer n
  | .double x => .float x
  | .string s => .text s
  | .uuid g => .guid g
  | .dateTimeUtc t => .time t

@[simp] theorem Value.toLiteral_ofLiteral (v : Literal) : (Value.ofLiteral v).toLiteral = v := by
  cases v <;> rfl

/-- **Whether a row meets an atom**: as it meets the comparison that the atom stands for.  A match
without a clause for the escape character belongs to a search, and `plain` says what it means. -/
def Atom.holds (plain : String → String → Json → Bool) : Atom → Json → Bool
  | .compare column op value, row => Predicate.Comparison.holds ⟨column, op, value.toLiteral⟩ row
  | .like column pattern true, row => Predicate.Comparison.holds ⟨column, .like, .text pattern⟩ row
  | .like column pattern false, row => plain column pattern row

/-- Whether a row meets a condition. -/
def Condition.holds (plain : String → String → Json → Bool) (c : Condition) (row : Json) : Bool :=
  c.truth fun a => a.holds plain row

/-- Whether a statement keeps a row. -/
def Statement.keeps (plain : String → String → Json → Bool) (s : Statement) (row : Json) : Bool :=
  s.condition.elim true fun c => c.holds plain row

/-- Whether a comparison is no match, or matches a text. -/
def LikesText (c : Predicate.Comparison) : Prop := c.op = .like → ∃ s, c.value = .text s

/-- Whether every match of a predicate is against a text. -/
def LikesTexts (p : Predicate) : Prop := ∀ c ∈ p.comparisons, LikesText c

variable {plain : String → String → Json → Bool}

theorem Condition.holds_ofComparison {c : Predicate.Comparison} (h : LikesText c) (row : Json) :
    (Condition.ofComparison c).holds plain row = c.holds row := by
  obtain ⟨column, op, value⟩ := c
  cases op with
  | like =>
    obtain ⟨s, rfl⟩ : ∃ s, value = .text s := h rfl
    rfl
  | equal | notEqual | less | lessEqual | greater | greaterEqual =>
    simp [ofComparison, Condition.holds, truth, Atom.holds]

/-- **The condition of a predicate is met by the rows that meet the predicate.** -/
theorem Condition.holds_ofPredicate {p : Predicate} (h : LikesTexts p) (row : Json) :
    (Condition.ofPredicate p).holds plain row = p.holds row := by
  induction p with
  | compare c =>
    have hc : (ofComparison c).holds plain row = c.holds row :=
      holds_ofComparison (h c (by simp [Predicate.comparisons])) row
    simpa [ofPredicate, Condition.holds, Predicate.holds] using hc
  | and l r ihl ihr | or l r ihl ihr =>
    have hl := ihl fun c hc => h c (by simp [Predicate.comparisons, hc])
    have hr := ihr fun c hc => h c (by simp [Predicate.comparisons, hc])
    simp only [Condition.holds] at hl hr
    simp [ofPredicate, Condition.holds, Predicate.holds, hl, hr]

theorem Statement.keeps_addCondition (s : Statement) (c : Condition) (row : Json) :
    (s.addCondition c).keeps plain row = (s.keeps plain row && c.holds plain row) := by
  unfold Statement.keeps Statement.addCondition
  cases s.condition with
  | none => rfl
  | some current => exact Condition.truth_both _ current c

/-! ## Calls -/

/-- **A search with one meaning on both sides**: a condition, and the rows that it keeps. -/
structure Search (plain : String → String → Json → Bool) where
  condition : Condition
  keeps : Json → Bool
  agrees : ∀ row, condition.holds plain row = keeps row

/-- A call that shapes a query. -/
inductive Call (plain : String → String → Json → Bool) where
  | filter (p : Predicate) (texts : LikesTexts p)
  | search (s : Search plain)
  | orderBy (column : String) (direction : Direction)
  | offset (n : Nat)
  | limit (n : Nat)

/-- A call made on a backend, given what a search is there. -/
def Call.apply {Q C N : Type} (b : Backend Q C N) (condition : Search plain → C) (q : Q) :
    Call plain → Q
  | .filter p _ => b.filter q p
  | .search s => b.condition q (condition s)
  | .orderBy column direction => b.orderBy q column direction
  | .offset n => b.offset q n
  | .limit n => b.limit q n

/-- **A selection from some rows and a statement that are in step**: the statement keeps the rows
that the selection holds, and both sort and cut them alike. -/
structure InStep (plain : String → String → Json → Bool) (rows : List Json) (m : Selection)
    (s : Statement) : Prop where
  rows : rows.filter (s.keeps plain) = m.rows
  order : s.order = m.order
  offset : s.offset.getD 0 = m.offset
  limit : s.limit = m.limit

variable {rows : List Json} {m : Selection} {s : Statement}

theorem InStep.start (rows : List Json) (table : String) :
    InStep plain rows { rows } (.select table) := by
  refine ⟨?_, rfl, rfl, rfl⟩
  change rows.filter (fun _ => true) = rows
  simp

/-- A further condition keeps what a further filter keeps. -/
theorem InStep.addCondition {c : Condition} {keeps : Json → Bool} (h : InStep plain rows m s)
    (hc : ∀ row, c.holds plain row = keeps row) :
    InStep plain rows { m with rows := m.rows.filter keeps } (s.addCondition c) := by
  refine ⟨?_, h.order, h.offset, h.limit⟩
  rw [← h.rows, List.filter_filter]
  refine List.filter_congr fun row _ => ?_
  rw [Statement.keeps_addCondition, hc row, Bool.and_comm]

/-- **A call keeps both sides in step.** -/
theorem InStep.apply (h : InStep plain rows m s) (call : Call plain) :
    InStep plain rows (call.apply Selection.backend Search.keeps m)
      (call.apply Statement.backend Search.condition s) := by
  cases call with
  | filter p texts => exact h.addCondition fun row => Condition.holds_ofPredicate texts row
  | search search => exact h.addCondition search.agrees
  | orderBy column direction =>
    refine ⟨h.rows, ?_, h.offset, h.limit⟩
    exact congrArg (· ++ [(column, direction)]) h.order
  | offset n => exact ⟨h.rows, h.order, rfl, h.limit⟩
  | limit n => exact ⟨h.rows, h.order, h.offset, rfl⟩

theorem InStep.run (h : InStep plain rows m s) (calls : List (Call plain)) :
    InStep plain rows (calls.foldl (Call.apply Selection.backend Search.keeps) m)
      (calls.foldl (Call.apply Statement.backend Search.condition) s) := by
  induction calls generalizing m s with
  | nil => exact h
  | cons call calls ih => exact ih (h.apply call)

/-- **Rows in memory and statements stay in step over every list of calls.** -/
theorem backends_stay_in_step (plain : String → String → Json → Bool) (rows : List Json)
    (table : String) (calls : List (Call plain)) :
    InStep plain rows (calls.foldl (Call.apply Selection.backend Search.keeps) { rows })
      (calls.foldl (Call.apply Statement.backend Search.condition) (.select table)) :=
  (InStep.start rows table).run calls

end TableQuery.Sql
