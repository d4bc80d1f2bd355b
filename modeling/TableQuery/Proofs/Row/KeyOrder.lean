import TableQuery.Proofs.Row.Sorting

/-!
# Proofs/Row/KeyOrder — rows sorted by columns of one kind

In a column of **one kind** all cells but the null ones are whole numbers of 64 bits with a sign, or
texts, or truth values.  There the comparison of cells is the order one expects (`Below`), with null
below everything, so the keys of an order rank the rows: the first key that tells two rows apart
decides (`PutsBefore`), and where no key does, the rows **agree**.  A descending key turns its own
order round and nothing else; rows that agree stay as they stood.
-/

namespace TableQuery.Row

open TableQuery.Number

/-! ## Cells of one kind -/

/-- **A cell lies below another**: null below every value, whole numbers by their size, texts by
their characters, and false below true. -/
inductive Below : Json → Json → Prop where
  | null {b : Json} : b ≠ .null → Below .null b
  | integer {m n : Int} : m < n → Below (.integer m) (.integer n)
  | text {s t : String} : s.toList < t.toList → Below (.string s) (.string t)
  | truth : Below (.bool false) (.bool true)

/-- The kinds of values that sort well. -/
inductive ColumnKind where
  | integer
  | text
  | truth

/-- The values of a kind.  Whole numbers must fit into 64 bits with a sign. -/
def ColumnKind.Holds : ColumnKind → Json → Prop
  | .integer, v => ∃ n : Int, v = .integer n ∧ -(maxSigned + 1 : Int) ≤ n ∧ n ≤ maxSigned
  | .text, v => ∃ s, v = .string s
  | .truth, v => ∃ b, v = .bool b

/-- What a column of a kind may hold. -/
def ColumnKind.Allows (kind : ColumnKind) (v : Json) : Prop := v = .null ∨ kind.Holds v

/-- **A column is of one kind.**  A cell that is missing is null. -/
def IsUniform (rows : List Json) (column : String) : Prop :=
  ∃ kind : ColumnKind, ∀ row ∈ rows, kind.Allows (cell row column)

variable {a b c : Json} {kind : ColumnKind}

theorem ColumnKind.Holds.ne_null (h : kind.Holds a) : a ≠ .null := by
  rintro rfl
  cases kind <;> obtain ⟨_, h⟩ := h <;> simp at h

theorem ColumnKind.Allows.signed? {n : Int} (h : kind.Allows (.integer n)) :
    signed? (.integer n) = some n := by
  rcases h with h | h
  · cases h
  cases kind with
  | integer =>
    obtain ⟨m, hm, -, hle⟩ := h
    cases hm
    exact if_pos hle
  | text | truth =>
    obtain ⟨_, h⟩ := h
    cases h

theorem Below.trans (hab : Below a b) (hbc : Below b c) : Below a c := by
  cases hab with
  | null =>
    refine .null ?_
    rintro rfl
    cases hbc
    contradiction
  | integer hmn =>
    cases hbc with
    | integer hnp => exact .integer (Int.lt_trans hmn hnp)
  | text hst =>
    cases hbc with
    | text htu => exact .text (List.lt_trans hst htu)
  | truth => cases hbc

theorem compareCells_self (a : Json) : compareCells a a = .eq := by
  have hswap := compareCells_swap a a
  generalize compareCells a a = o at hswap
  cases o with
  | eq => rfl
  | lt | gt => cases hswap

/-- **What lies below sorts in front**, as long as whole numbers fit into 64 bits with a sign. -/
theorem compareCells_of_below (ha : kind.Allows a) (hb : kind.Allows b) (h : Below a b) :
    compareCells a b = .lt := by
  cases h with
  | null hne =>
    cases b with
    | null => exact absurd rfl hne
    | bool | integer | float | string | array | object => rfl
  | integer hmn =>
    change compareNumbers _ _ = _
    rw [compareNumbers, ha.signed?, hb.signed?]
    exact Int.compare_eq_lt.mpr hmn
  | text hst => exact compareOfLessAndEq_eq_lt.mpr (String.lt_iff.mpr hst)
  | truth => rfl

theorem below_or_eq_or_below_of_holds (ha : kind.Holds a) (hb : kind.Holds b) :
    Below a b ∨ a = b ∨ Below b a := by
  cases kind with
  | integer =>
    obtain ⟨m, rfl, -⟩ := ha
    obtain ⟨n, rfl, -⟩ := hb
    exact (Int.lt_trichotomy m n).imp .integer (Or.imp (congrArg Json.integer) .integer)
  | text =>
    obtain ⟨s, rfl⟩ := ha
    obtain ⟨t, rfl⟩ := hb
    by_cases hst : s.toList < t.toList
    · exact Or.inl (.text hst)
    by_cases hts : t.toList < s.toList
    · exact Or.inr (Or.inr (.text hts))
    · have heq : s = t := String.toList_inj.mp (List.le_antisymm hts hst)
      exact Or.inr (Or.inl (congrArg Json.string heq))
  | truth =>
    obtain ⟨x, rfl⟩ := ha
    obtain ⟨y, rfl⟩ := hb
    cases x <;> cases y
    · exact Or.inr (Or.inl rfl)
    · exact Or.inl .truth
    · exact Or.inr (Or.inr .truth)
    · exact Or.inr (Or.inl rfl)

/-- **In a column of one kind, of two cells that differ one lies below the other.** -/
theorem below_or_eq_or_below (ha : kind.Allows a) (hb : kind.Allows b) :
    Below a b ∨ a = b ∨ Below b a := by
  rcases ha with rfl | ha
  · rcases hb with rfl | hb
    · exact Or.inr (Or.inl rfl)
    · exact Or.inl (.null hb.ne_null)
  · rcases hb with rfl | hb
    · exact Or.inr (Or.inr (.null ha.ne_null))
    · exact below_or_eq_or_below_of_holds ha hb

end TableQuery.Row

namespace TableQuery.Selection

open TableQuery.Number TableQuery.Row

variable {order : List (String × Direction)} {a b c : Json}

/-! ## Rows, by their first key that differs -/

/-- Whether a key with a direction puts a cell in front of another. -/
def Leads : Direction → Json → Json → Prop
  | .ascending, x, y => Below x y
  | .descending, x, y => Below y x

/-- **The first key on which two rows differ puts one in front of the other.** -/
inductive PutsBefore : List (String × Direction) → Json → Json → Prop where
  | here {column : String} {direction : Direction} {rest : List (String × Direction)}
      {a b : Json} : Leads direction (cell a column) (cell b column) →
      PutsBefore ((column, direction) :: rest) a b
  | later {column : String} {direction : Direction} {rest : List (String × Direction)}
      {a b : Json} : cell a column = cell b column → PutsBefore rest a b →
      PutsBefore ((column, direction) :: rest) a b

/-- **Rows agree** if they are equal on every key. -/
def Agree (order : List (String × Direction)) (a b : Json) : Prop :=
  ∀ key ∈ order, cell a key.1 = cell b key.1

theorem Leads.trans {direction : Direction} (hab : Leads direction a b)
    (hbc : Leads direction b c) : Leads direction a c := by
  cases direction with
  | ascending => exact Below.trans hab hbc
  | descending => exact Below.trans hbc hab

theorem Agree.trans (hab : Agree order a b) (hbc : Agree order b c) : Agree order a c :=
  fun key hkey => (hab key hkey).trans (hbc key hkey)

theorem PutsBefore.of_agree_left (hab : Agree order a b) (hbc : PutsBefore order b c) :
    PutsBefore order a c := by
  induction hbc with
  | here hlead => exact .here (by rwa [hab _ List.mem_cons_self])
  | later heq _ ih =>
    have hrest := List.forall_mem_cons.mp hab
    exact .later (hrest.1.trans heq) (ih hrest.2)

theorem PutsBefore.of_agree_right (hab : PutsBefore order a b) (hbc : Agree order b c) :
    PutsBefore order a c := by
  induction hab with
  | here hlead => exact .here (by rwa [← hbc _ List.mem_cons_self])
  | later heq _ ih =>
    have hrest := List.forall_mem_cons.mp hbc
    exact .later (heq.trans hrest.1) (ih hrest.2)

/-- The first key that differs of three rows is the one that differs first of either pair. -/
theorem PutsBefore.trans (hab : PutsBefore order a b) (hbc : PutsBefore order b c) :
    PutsBefore order a c := by
  induction hab with
  | here hlead =>
    cases hbc with
    | here hlead' => exact .here (hlead.trans hlead')
    | later heq _ => exact .here (by rwa [← heq])
  | later heq _ ih =>
    cases hbc with
    | here hlead' => exact .here (by rwa [heq])
    | later heq' hrest => exact .later (heq.trans heq') (ih hrest)

/-! ## Rows compared by columns of one kind -/

/-- Whether two rows hold values of one kind under every key. -/
def KindsMatch (order : List (String × Direction)) (a b : Json) : Prop :=
  ∀ key ∈ order, ∃ kind : ColumnKind, kind.Allows (cell a key.1) ∧ kind.Allows (cell b key.1)

theorem KindsMatch.symm (h : KindsMatch order a b) : KindsMatch order b a :=
  fun key hkey => (h key hkey).imp fun _ hkind => hkind.symm

theorem kindsMatch_of_isUniform {rows : List Json} (h : ∀ key ∈ order, IsUniform rows key.1)
    (ha : a ∈ rows) (hb : b ∈ rows) : KindsMatch order a b :=
  fun key hkey => (h key hkey).imp fun _ hkind => ⟨hkind a ha, hkind b hb⟩

theorem directed_of_leads {direction : Direction} {kind : ColumnKind} (ha : kind.Allows a)
    (hb : kind.Allows b) (h : Leads direction a b) :
    directed direction (compareCells a b) = .lt := by
  cases direction with
  | ascending => exact compareCells_of_below ha hb h
  | descending =>
    rw [compareCells_swap, compareCells_of_below hb ha h]
    rfl

theorem directed_compareCells_self (direction : Direction) (a : Json) :
    directed direction (compareCells a a) = .eq := by
  rw [compareCells_self]
  cases direction <;> rfl

theorem compareRows_of_putsBefore (hkinds : KindsMatch order a b)
    (h : PutsBefore order a b) : compareRows order a b = .lt := by
  induction h with
  | here hlead =>
    obtain ⟨kind, ha, hb⟩ := hkinds _ List.mem_cons_self
    rw [compareRows, directed_of_leads ha hb hlead]
    rfl
  | later heq _ ih =>
    rw [compareRows, heq, directed_compareCells_self]
    exact ih (List.forall_mem_cons.mp hkinds).2

theorem compareRows_of_agree (h : Agree order a b) : compareRows order a b = .eq := by
  induction order with
  | nil => rfl
  | cons key rest ih =>
    obtain ⟨heq, hrest⟩ := List.forall_mem_cons.mp h
    rw [compareRows, heq, directed_compareCells_self]
    exact ih hrest

/-- **Rows that can be compared agree, or a first key tells them apart.** -/
theorem putsBefore_or_agree_or_putsBefore (h : KindsMatch order a b) :
    PutsBefore order a b ∨ Agree order a b ∨ PutsBefore order b a := by
  induction order with
  | nil => exact Or.inr (Or.inl (List.forall_mem_nil _))
  | cons key rest ih =>
    obtain ⟨column, direction⟩ := key
    obtain ⟨⟨kind, ha, hb⟩, hrest⟩ := List.forall_mem_cons.mp h
    rcases below_or_eq_or_below ha hb with hbelow | heq | habove
    · cases direction with
      | ascending => exact Or.inl (.here hbelow)
      | descending => exact Or.inr (Or.inr (.here hbelow))
    · rcases ih hrest with hbefore | hagree | hbehind
      · exact Or.inl (.later heq hbefore)
      · exact Or.inr (Or.inl (List.forall_mem_cons.mpr ⟨heq, hagree⟩))
      · exact Or.inr (Or.inr (.later heq.symm hbehind))
    · cases direction with
      | ascending => exact Or.inr (Or.inr (.here habove))
      | descending => exact Or.inl (.here habove)

/-- **A row may stand in front of another exactly if the first key that differs says so, or no key
differs.** -/
theorem precedes_iff (h : KindsMatch order a b) :
    Precedes order a b ↔ PutsBefore order a b ∨ Agree order a b := by
  constructor
  · intro hprecedes
    rcases putsBefore_or_agree_or_putsBefore h with hbefore | hagree | hbehind
    · exact Or.inl hbefore
    · exact Or.inr hagree
    · exact absurd (compareRows_eq_gt_iff.mpr (compareRows_of_putsBefore h.symm hbehind)) hprecedes
  · rintro (hbefore | hagree)
    · simp [Precedes, compareRows_of_putsBefore h hbefore]
    · simp [Precedes, compareRows_of_agree hagree]

/-- **Columns of one kind rank the rows.** -/
theorem ranks_of_isUniform {rows : List Json} (h : ∀ key ∈ order, IsUniform rows key.1) :
    Ranks order rows := by
  intro a ha b hb c hc hab hbc
  rw [precedes_iff (kindsMatch_of_isUniform h ha hb)] at hab
  rw [precedes_iff (kindsMatch_of_isUniform h hb hc)] at hbc
  rw [precedes_iff (kindsMatch_of_isUniform h ha hc)]
  rcases hab with hab | hab <;> rcases hbc with hbc | hbc
  · exact Or.inl (hab.trans hbc)
  · exact Or.inl (hab.of_agree_right hbc)
  · exact Or.inl (hbc.of_agree_left hab)
  · exact Or.inr (hab.trans hbc)

/-! ## The sorted rows -/

/-- Rows that agree stand in the sorted rows as they stood. -/
theorem Sorts.sublist_of_agree {rows sorted group : List Json} (hsorts : Sorts order rows sorted)
    (hranks : Ranks order rows) (hgroup : group.Sublist rows)
    (hagree : group.Pairwise (Agree order)) : group.Sublist sorted := by
  cases group with
  | nil => exact List.nil_sublist _
  | cons x group =>
    have hx : x ∈ rows := hgroup.subset List.mem_cons_self
    have hties : ∀ y ∈ x :: group, ties order x y = true := by
      rw [List.forall_mem_cons]
      refine ⟨?_, fun y hy => ?_⟩
      · simp [ties, compareRows_of_agree fun _ _ => rfl]
      · simp [ties, compareRows_of_agree (List.rel_of_pairwise_cons hagree hy)]
    have hfiltered := hgroup.filter (ties order x)
    rw [List.filter_eq_self.mpr hties, ← hsorts.stable hranks x hx] at hfiltered
    exact hfiltered.trans List.filter_sublist

theorem toRows_eq_sortRows {s : Selection} (hoffset : s.offset = 0) (hlimit : s.limit = none) :
    s.toRows = sortRows s.order s.rows := by
  have hcut : s.cut = id := by
    funext sorted
    rw [cut, hoffset, hlimit]
    rfl
  rw [toRows, hcut, Option.map_id, id]

/-- **Rows are sorted by several keys, and stably.**  If every column of the order is of one kind,
the rows can be sorted, and the result has the rows that were there.  Of any two rows of it the one
in front is put there by the first key on which they differ, unless they agree on all of them; and
whatever rows agree, they stand in the result as they stood before. -/
theorem toRows_sorts_stably (s : Selection) (hoffset : s.offset = 0) (hlimit : s.limit = none)
    (huniform : ∀ key ∈ s.order, IsUniform s.rows key.1) :
    ∃ sorted, s.toRows = some sorted ∧ sorted.Perm s.rows ∧
      sorted.Pairwise (fun a b => PutsBefore s.order a b ∨ Agree s.order a b) ∧
      ∀ group : List Json, group.Sublist s.rows → group.Pairwise (Agree s.order) →
        group.Sublist sorted := by
  rw [toRows_eq_sortRows hoffset hlimit]
  have hranks := ranks_of_isUniform huniform
  obtain ⟨sorted, hsorted⟩ := exists_sortRows (Or.inl hranks)
  have hsorts := sorts_of_sortRows hsorted
  refine ⟨sorted, hsorted, hsorts.perm, ?_, fun group => hsorts.sublist_of_agree hranks⟩
  refine (hsorts.ordered hranks).imp_of_mem fun ha hb hprecedes => ?_
  have ha := hsorts.perm.mem_iff.mp ha
  have hb := hsorts.perm.mem_iff.mp hb
  exact (precedes_iff (kindsMatch_of_isUniform huniform ha hb)).mp hprecedes

/-- Names from the last to the first, and for one name the unknown age first.  The two rows that
agree on both stay as they stood, though the first key is a descending one. -/
theorem names_descending_then_ages :
    Selection.toRows
        { rows := [.object [("name", .string "a"), ("age", .integer 30), ("id", .integer 2)],
            .object [("name", .string "b"), ("age", .integer 40)],
            .object [("name", .string "a"), ("age", .integer 30), ("id", .integer 1)],
            .object [("name", .string "a")]],
          order := [("name", .descending), ("age", .ascending)] }
        = some [.object [("name", .string "b"), ("age", .integer 40)],
          .object [("name", .string "a")],
          .object [("name", .string "a"), ("age", .integer 30), ("id", .integer 2)],
          .object [("name", .string "a"), ("age", .integer 30), ("id", .integer 1)]] ∧
      List.Pairwise (fun a b => PutsBefore [("name", .descending), ("age", .ascending)] a b ∨
          Agree [("name", .descending), ("age", .ascending)] a b)
        [.object [("name", .string "b"), ("age", .integer 40)],
          .object [("name", .string "a")],
          .object [("name", .string "a"), ("age", .integer 30), ("id", .integer 2)],
          .object [("name", .string "a"), ("age", .integer 30), ("id", .integer 1)]] := by
  obtain ⟨sorted, hsorted, -, hordered, -⟩ := toRows_sorts_stably
    { rows := [.object [("name", .string "a"), ("age", .integer 30), ("id", .integer 2)],
        .object [("name", .string "b"), ("age", .integer 40)],
        .object [("name", .string "a"), ("age", .integer 30), ("id", .integer 1)],
        .object [("name", .string "a")]],
      order := [("name", .descending), ("age", .ascending)] } rfl rfl (by
        rw [List.forall_mem_cons, List.forall_mem_singleton]
        refine ⟨⟨.text, ?_⟩, ⟨.integer, ?_⟩⟩
        · simp [ColumnKind.Allows, ColumnKind.Holds, cell, Json.get?, Json.lookup]
        · simp [ColumnKind.Allows, ColumnKind.Holds, cell, Json.get?, Json.lookup, maxSigned])
  rw [← Option.some.inj hsorted] at hordered
  exact ⟨rfl, hordered⟩

end TableQuery.Selection
