import TableQuery.Proofs.Sorting.Short

/-!
# Proofs/Sorting/Runs — sorting run by run

A list is cut into runs, and neighbouring runs are merged until one is left.  What is kept all along
is that the runs **cover** the list: one behind the other they stand for its pieces, as they are or
sorted.  Pivots only part a list into pieces that are sorted by themselves.  So whatever the sort
makes of a list sorts it, and the sort does not fail where the test orders the elements
(`yields_sort`).
-/

namespace TableQuery.Sorting

variable {α : Type} {less : α → α → Bool} {xs ys : List α}

/-! ## Runs and what they stand for -/

/-- **A run stands for a piece of a list**: it has its elements, in order if it is sorted and as
they stood if it is not. -/
def Run.StandsFor (less : α → α → Bool) (run : Run α) (xs : List α) : Prop :=
  if run.sorted then Sorts less xs run.items else run.items = xs

/-- **Runs cover a list**: one behind the other they stand for its pieces. -/
inductive Cover (less : α → α → Bool) : List (Run α) → List α → Prop where
  | nil : Cover less [] []
  | cons {run : Run α} {runs : List (Run α)} {piece xs : List α} : run.StandsFor less piece →
      Cover less runs xs → Cover less (run :: runs) (piece ++ xs)

theorem Cover.singleton {run : Run α} (h : Cover less [run] xs) : run.StandsFor less xs := by
  cases h with
  | cons hrun hnil =>
    cases hnil
    rwa [List.append_nil]

theorem Cover.split {front back : List (Run α)} (h : Cover less (front ++ back) xs) :
    ∃ u v, xs = u ++ v ∧ Cover less front u ∧ Cover less back v := by
  induction front generalizing xs with
  | nil => exact ⟨[], xs, rfl, .nil, h⟩
  | cons run front ih =>
    cases h with
    | cons hrun hrest =>
      obtain ⟨u, v, rfl, hu, hv⟩ := ih hrest
      exact ⟨_ ++ u, v, (List.append_assoc _ u v).symm, .cons hrun hu, hv⟩

theorem Cover.append {front back : List (Run α)} (hfront : Cover less front xs)
    (hback : Cover less back ys) : Cover less (front ++ back) (xs ++ ys) := by
  induction hfront with
  | nil => exact hback
  | cons hrun _ ih =>
    rw [List.append_assoc]
    exact .cons hrun ih

/-! ## Cutting a list into runs -/

/-- Elements that rise, or fall, from one to the next do so all along. -/
theorem pairwise_run (falling : Bool) (x : α) (rest : List α)
    (ho : Orders less (x :: rest.take (runLength less falling x rest))) :
    (x :: rest.take (runLength less falling x rest)).Pairwise fun a b => less b a = falling := by
  induction rest generalizing x with
  | nil => simp
  | cons y rest ih =>
    rw [runLength] at ho ⊢
    split at ho
    · rename_i hyx
      rw [if_pos hyx]
      have hyx : less y x = falling := by simpa using hyx
      rw [List.take_succ_cons] at ho ⊢
      have hrest := ih y (ho.subset (List.subset_cons_self x _))
      refine List.pairwise_cons.mpr ⟨fun z hz => ?_, hrest⟩
      rcases List.mem_cons.mp hz with rfl | hz'
      · exact hyx
      · have hzy := List.rel_of_pairwise_cons hrest hz'
        have hz : z ∈ x :: y :: rest.take (runLength less falling y rest) := by simp [hz']
        cases falling with
        | false => exact ho.trans x (by simp) y (by simp) z hz hyx hzy
        | true => exact ho.less_trans hz (by simp) (by simp) hzy hyx
    · rename_i hyx
      rw [if_neg hyx]
      simp

theorem yields_toRun {eager : Bool} {good n : Nat} {x : α} {rest : List α} {kind : Stretch}
    (h : stretch less eager good x rest = (kind, n)) :
    Yields (Orders less (x :: rest.take n)) (fun run => run.StandsFor less (x :: rest.take n))
      (kind.toRun less eager (x :: rest.take n)) := by
  unfold stretch at h
  generalize (rest.head?.any fun y => less y x) = falling at h
  simp only at h
  split at h
  · obtain ⟨rfl, rfl⟩ := Prod.mk.inj h
    have hrun := @pairwise_run _ less falling x rest
    cases falling with
    | false => exact Yields.some (Sorts.refl hrun)
    | true => exact Yields.some (Sorts.reverse_of_falling hrun)
  · obtain ⟨rfl, rfl⟩ := Prod.mk.inj h
    cases eager with
    | false => exact Yields.some rfl
    | true => exact (yields_sortShort _).map fun sorted hsorted => hsorted

theorem yields_runs (eager : Bool) (good : Nat) (xs : List α) :
    Yields (Orders less xs) (fun found => Cover less found xs) (runs less eager good xs) := by
  fun_induction runs less eager good xs with
  | case1 => exact Yields.some .nil
  | case2 x rest kind n hstretch ih =>
    have hcut : x :: rest = (x :: rest.take n) ++ rest.drop n := by simp
    rw [hcut]
    have hfront := List.subset_append_left (x :: rest.take n) (rest.drop n)
    have hback := List.subset_append_right (x :: rest.take n) (rest.drop n)
    refine ((yields_toRun hstretch).mono (·.subset hfront) fun _ h => h).bind fun first hfirst => ?_
    refine (ih.mono (·.subset hback) fun _ h => h).bind fun more hmore => ?_
    exact Yields.some (.cons hfirst hmore)

/-! ## Merging runs -/

theorem Run.StandsFor.settle {later : List α → Option (List α)} {run : Run α}
    (hlater : ∀ ys, Yields (Orders less ys) (Sorts less ys) (later ys))
    (h : run.StandsFor less xs) : Yields (Orders less xs) (Sorts less xs) (run.settle later) := by
  unfold Run.StandsFor at h
  unfold Run.settle
  split at h
  · rename_i hsorted
    rw [if_pos hsorted]
    exact Yields.some h
  · rename_i hsorted
    rw [if_neg hsorted, h]
    exact hlater xs

/-- **Runs are joined well**: what comes of two runs stands for the pieces of both. -/
def Joins (less : α → α → Bool) (join : Run α → Run α → Option (Run α)) : Prop :=
  ∀ left right xs ys, left.StandsFor less xs → right.StandsFor less ys →
    Yields (Orders less (xs ++ ys)) (fun run => run.StandsFor less (xs ++ ys)) (join left right)

theorem joins_join {later : List α → Option (List α)} (room : Nat)
    (hlater : ∀ ys, Yields (Orders less ys) (Sorts less ys) (later ys)) :
    Joins less (Run.join less later room) := by
  intro left right xs ys hleft hright
  unfold Run.join
  split
  · refine ((hleft.settle hlater).mono (·.subset (List.subset_append_left xs ys))
      fun _ h => h).bind fun l hl => ?_
    refine ((hright.settle hlater).mono (·.subset (List.subset_append_right xs ys))
      fun _ h => h).bind fun r hr => ?_
    exact Yields.some (hl.mergeRuns hr)
  · rename_i hunsorted
    simp only [Bool.or_eq_true, not_or, Bool.not_eq_true] at hunsorted
    simp only [Run.StandsFor, hunsorted.1.1, hunsorted.1.2] at hleft hright
    exact Yields.some (congrArg₂ (· ++ ·) hleft hright)

variable {join : Run α → Run α → Option (Run α)}

/-- Runs cover a list as before when two neighbours are made one. -/
theorem Cover.join_neighbours (hjoin : Joins less join) {front back : List (Run α)}
    {left right : Run α} (h : Cover less (front ++ left :: right :: back) xs) :
    Yields (Orders less xs) (fun run => Cover less (front ++ run :: back) xs)
      (join left right) := by
  obtain ⟨u, v, rfl, hfront, hback⟩ := h.split
  cases hback with
  | cons hleft hback =>
    rename_i p v
    cases hback with
    | cons hright hback =>
      rename_i q v
      have hsub : p ++ q ⊆ u ++ (p ++ (q ++ v)) := by
        rw [← List.append_assoc p]
        exact List.Subset.trans (List.subset_append_left _ v) (List.subset_append_right u _)
      refine (hjoin left right p q hleft hright).mono (·.subset hsub) fun run hrun => ?_
      rw [← List.append_assoc p]
      exact hfront.append (.cons hrun hback)

/-- The runs of a stack, the first one first. -/
def Stack.runs (stack : Stack α) : List (Run α) := (stack.map (·.1)).reverse

theorem Stack.runs_cons (left : Run α × Nat) (stack : Stack α) (rest : List (Run α)) :
    Stack.runs (left :: stack) ++ rest = Stack.runs stack ++ left.1 :: rest := by
  simp [Stack.runs]

theorem yields_collapse (hjoin : Joins less join) (depth : Nat) {stack : Stack α} {last : Run α}
    {rest : List (Run α)} (h : Cover less (stack.runs ++ last :: rest) xs) :
    Yields (Orders less xs)
      (fun out => Cover less (Stack.runs out.1 ++ out.2 :: rest) xs ∧ (depth = 0 → out.1 = []))
      (collapse join depth stack last) := by
  induction stack generalizing last with
  | nil => exact Yields.some ⟨h, fun _ => rfl⟩
  | cons left stack ih =>
    obtain ⟨left, d⟩ := left
    rw [collapse]
    split
    · rw [Stack.runs_cons] at h
      exact (h.join_neighbours hjoin).bind fun run hrun => ih hrun
    · exact Yields.some ⟨h, fun hdepth => by omega⟩

/-- **Merging the runs that cover a list makes one run of it.** -/
theorem yields_gather (hjoin : Joins less join) (n place : Nat) {stack : Stack α} {last : Run α}
    {rest : List (Run α)} (h : Cover less (stack.runs ++ last :: rest) xs) :
    Yields (Orders less xs) (fun run => run.StandsFor less xs)
      (gather join n place stack last rest) := by
  induction rest generalizing place stack last with
  | nil =>
    refine (yields_collapse hjoin 0 h).map fun out hout => ?_
    have hcover := hout.1
    rw [hout.2 rfl] at hcover
    exact hcover.singleton
  | cons next rest ih =>
    refine (yields_collapse hjoin _ h).bind fun out hout => ih _ ?_
    rw [Stack.runs_cons]
    exact hout.1

theorem yields_sortRuns (eager : Bool) {later : List α → Option (List α)}
    (hlater : ∀ ys, Yields (Orders less ys) (Sorts less ys) (later ys)) (xs : List α) :
    Yields (Orders less xs) (Sorts less xs) (sortRuns less eager later xs) := by
  refine (yields_runs eager _ xs).bind fun found hfound => ?_
  cases found with
  | nil =>
    cases hfound
    exact Yields.some Sorts.nil
  | cons first rest =>
    have hcover : Cover less (Stack.runs [] ++ first :: rest) xs := hfound
    exact (yields_gather (joins_join _ hlater) _ _ hcover).bind
      fun run hrun => hrun.settle hlater

/-! ## Pivots -/

/-- A sample is one of the elements it is taken from. -/
theorem sample_mem {get : Nat → α} (hget : ∀ i, get i ∈ xs) (m i : Nat) :
    sample less get m i ∈ xs := by
  have hmedian : ∀ a ∈ xs, ∀ b ∈ xs, ∀ c ∈ xs, median less a b c ∈ xs := by
    intro a ha b hb c hc
    unfold median
    split
    · split
      · exact hb
      · exact hc
    · exact ha
  fun_induction sample less get m i with
  | case1 => exact hmedian _ (hget _) _ (hget _) _ (hget _)
  | case2 m i _ ih₁ ih₂ ih₃ => exact hmedian _ ih₁ _ ih₂ _ ih₃

theorem getD_mem_cons (x : α) (rest : List α) (i : Nat) : (x :: rest).getD i x ∈ x :: rest := by
  rw [List.getD_eq_getElem?_getD]
  cases hi : (x :: rest)[i]? with
  | none => exact List.mem_cons_self
  | some y => exact List.mem_of_getElem? hi

/-- **An element bounds a list from below**: what it does not come before in the list has nothing
before it there. -/
def BoundsBelow (less : α → α → Bool) (xs : List α) (a : α) : Prop :=
  ∀ p ∈ xs, less a p = false → ∀ x ∈ xs, less x p = false

theorem BoundsBelow.subset {a : α} (h : BoundsBelow less ys a) (hsub : xs ⊆ ys) :
    BoundsBelow less xs a :=
  fun p hp hap x hx => h p (hsub hp) hap x (hsub hx)

/-- A pivot bounds what does not come before it. -/
theorem boundsBelow_filter {pivot : α} (ho : Orders less xs) (hpivot : pivot ∈ xs) {ys : List α}
    (hsub : ys ⊆ xs) : BoundsBelow less (ys.filter (!less · pivot)) pivot := by
  intro p hp hpivotp x hx
  have hp := List.mem_filter.mp hp
  have hx := List.mem_filter.mp hx
  exact ho.trans p (hsub hp.1) pivot hpivot x (hsub hx.1) hpivotp (by simpa using hx.2)

/-- What comes before a pivot and what does not, each sorted by itself. -/
theorem Sorts.append_pivot {pivot : α} {l r : List α} (hpivot : pivot ∈ xs)
    (hl : Sorts less (xs.filter (less · pivot)) l)
    (hr : Sorts less (xs.filter (!less · pivot)) r) : Sorts less xs (l ++ r) :=
  hl.append_filter (fun ho _ ha _ hb hap hbp => ho.less_of_less ha hpivot hb hap hbp) hr

/-- Where nothing comes before a pivot, what does not come behind it is in place. -/
theorem Sorts.append_ties {pivot : α} {r : List α} (hpivot : pivot ∈ xs) (ho : Orders less xs)
    (hleast : ∀ x ∈ xs, less x pivot = false) (hr : Sorts less (xs.filter (less pivot ·)) r) :
    Sorts less xs (xs.filter (!less pivot ·) ++ r) := by
  have hties : Sorts less (xs.filter (!less pivot ·)) (xs.filter (!less pivot ·)) := by
    refine Sorts.refl fun _ => List.pairwise_of_forall_mem_list fun a ha b hb => ?_
    rw [List.mem_filter, Bool.not_eq_eq_eq_not, Bool.not_true] at ha
    have hb := (List.mem_filter.mp hb).1
    exact ho.trans a ha.1 pivot hpivot b hb ha.2 (hleast b hb)
  refine hties.append_filter (fun _ a ha b hb hpa hpb => ?_) (by simpa using hr)
  exact ho.less_of_not_less ha hpivot hb (by simpa using hpa) (by simpa using hpb)

/-- **A piece of a list is sorted**, as far as the test orders the whole of the list. -/
structure SortsPiece (less : α → α → Bool) (all xs ys : List α) : Prop where
  perm : ys.Perm xs
  sorts : Orders less all → Sorts less xs ys

theorem yields_quicksort {all : List α} (limit : Nat) (below : Option α) (xs : List α)
    (hsub : xs ⊆ all) (hbelow : Orders less all → ∀ a ∈ below, BoundsBelow less xs a) :
    Yields (Orders less all) (SortsPiece less all xs) (quicksort less limit below xs) := by
  fun_induction quicksort less limit below xs with
  | case1 => exact Yields.some ⟨List.Perm.refl _, fun _ => Sorts.nil⟩
  | case2 _ xs =>
    exact (yields_sortShort xs).mono (·.subset hsub) fun _ h => ⟨h.perm, fun _ => h⟩
  | case3 _ xs =>
    exact (yields_sortRuns true yields_sortShort xs).mono (·.subset hsub)
      fun _ h => ⟨h.perm, fun _ => h⟩
  | case4 _ _ x rest =>
    exact (yields_sortShort (x :: rest)).mono (·.subset hsub) fun _ h => ⟨h.perm, fun _ => h⟩
  | case5 below limit x rest _ xs pivot before htied ih =>
    have hpivot : pivot ∈ xs := sample_mem (getD_mem_cons x rest) _ _
    have hfilter : xs.filter (less pivot ·) ⊆ all := fun y hy => hsub (List.mem_of_mem_filter hy)
    refine (ih hfilter (by simp)).bind fun behind hbehind => ?_
    refine Yields.some ⟨(hbehind.perm.append_left _).trans ?_, fun ho => ?_⟩
    · simpa using List.filter_append_perm (!less pivot ·) xs
    refine (hbehind.sorts ho).append_ties hpivot (ho.subset hsub) fun y hy => ?_
    rw [Bool.or_eq_true] at htied
    rcases htied with hany | hempty
    · obtain ⟨a, ha, hap⟩ := (Option.any_eq_true _ _).mp hany
      exact hbelow ho a ha pivot hpivot (by simpa using hap) y hy
    · have hnone : xs.filter (less · pivot) = [] := List.isEmpty_iff.mp hempty
      simpa using List.filter_eq_nil_iff.mp hnone y hy
  | case6 below limit x rest _ xs pivot before _ ihfront ihbehind =>
    have hpivot : pivot ∈ xs := sample_mem (getD_mem_cons x rest) _ _
    have hbefore : before ⊆ xs := List.filter_sublist.subset
    have hfront : before ⊆ all := List.Subset.trans hbefore hsub
    have hbehind : xs.filter (!less · pivot) ⊆ all := fun y hy => hsub (List.mem_of_mem_filter hy)
    refine (ihfront hfront fun ho a ha => (hbelow ho a ha).subset hbefore).bind fun l hl => ?_
    refine (ihbehind hbehind fun ho a ha => ?_).bind fun r hr => ?_
    · obtain rfl : pivot = a := Option.some.inj ha
      exact boundsBelow_filter ho (hsub hpivot) hsub
    · exact Yields.some ⟨(hl.perm.append hr.perm).trans (List.filter_append_perm _ xs),
        fun ho => (hl.sorts ho).append_pivot hpivot (hr.sorts ho)⟩

/-- **The sort sorts, and it does not fail where the test orders the elements.** -/
theorem yields_sort (xs : List α) : Yields (Orders less xs) (Sorts less xs) (sort less xs) := by
  unfold sort
  split
  · exact Yields.some (sorts_insertAll xs)
  · refine yields_sortRuns _ (fun ys => ?_) xs
    exact (yields_quicksort _ none ys (List.Subset.refl ys) (by simp)).mono (fun ho => ho)
      fun _ h => Sorts.of_orders h.perm h.sorts

end TableQuery.Sorting
