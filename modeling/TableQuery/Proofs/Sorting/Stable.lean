import Mathlib.Data.List.Basic
import TableQuery.Sorting

/-!
# Proofs/Sorting/Stable — what a stable sort is

A test **orders** elements if of two elements not both come before the other, and if what may stand
behind an element may also stand behind all that the element may stand behind.  A list **sorts**
another if it has the same elements and, where the test orders them, none stands behind one that it
comes before and those that tie stand as they stood.  There is only one such list (`Sorts.unique`),
so every way to sort comes to the same.

Sorted lists are made of smaller ones in two ways: by merging (`Sorts.merge`), and by putting what
comes before in front (`Sorts.append_filter`).  Turning the test and the lists round changes nothing
(`Sorts.reverse`), so merging from the back needs no proof of its own.
-/

namespace TableQuery.Sorting

variable {α : Type} {less : α → α → Bool} {xs ys zs : List α}

/-! ## Orders -/

/-- **A test orders the elements of a list.** -/
structure Orders (less : α → α → Bool) (xs : List α) : Prop where
  asymm : ∀ a ∈ xs, ∀ b ∈ xs, less a b = true → less b a = false
  trans : ∀ a ∈ xs, ∀ b ∈ xs, ∀ c ∈ xs, less b a = false → less c b = false → less c a = false

/-- **A list is in order**: no element stands behind one that it comes before. -/
abbrev Ordered (less : α → α → Bool) (xs : List α) : Prop :=
  xs.Pairwise fun a b => less b a = false

/-- Whether neither of two elements comes before the other. -/
def ties (less : α → α → Bool) (x : α) : α → Bool := fun a => !less x a && !less a x

/-- **A property picks elements that tie**, of a list. -/
def PicksTies (less : α → α → Bool) (p : α → Bool) (xs : List α) : Prop :=
  ∀ a ∈ xs, ∀ b ∈ xs, p a = true → p b = true → less a b = false

theorem PicksTies.subset {p : α → Bool} (h : PicksTies less p ys) (hsub : xs ⊆ ys) :
    PicksTies less p xs :=
  fun a ha b hb => h a (hsub ha) b (hsub hb)

namespace Orders

theorem subset (h : Orders less ys) (hsub : xs ⊆ ys) : Orders less xs where
  asymm a ha b hb := h.asymm a (hsub ha) b (hsub hb)
  trans a ha b hb c hc := h.trans a (hsub ha) b (hsub hb) c (hsub hc)

theorem swap (h : Orders less xs) : Orders (fun x y => less y x) xs where
  asymm a ha b hb := h.asymm b hb a ha
  trans a ha b hb c hc hab hbc := h.trans c hc b hb a ha hbc hab

theorem irrefl (h : Orders less xs) {a : α} (ha : a ∈ xs) : less a a = false := by
  by_cases haa : less a a = true
  · exact h.asymm a ha a ha haa
  · simpa using haa

variable {a b c : α} {l : List α}

/-- What comes before an element comes before all that may stand behind it. -/
theorem less_of_less (h : Orders less xs) (ha : a ∈ xs) (hb : b ∈ xs) (hc : c ∈ xs)
    (hab : less a b = true) (hbc : less c b = false) : less a c = true := by
  by_contra hac
  have hac : less a c = false := by simpa using hac
  have hba := h.trans b hb c hc a ha hbc hac
  rw [hab] at hba
  cases hba

/-- What may stand in front of an element comes before all that the element comes before. -/
theorem less_of_not_less (h : Orders less xs) (ha : a ∈ xs) (hb : b ∈ xs) (hc : c ∈ xs)
    (hab : less b a = false) (hbc : less b c = true) : less a c = true := by
  by_contra hac
  have hac : less a c = false := by simpa using hac
  have hcb := h.trans c hc a ha b hb hac hab
  rw [hbc] at hcb
  cases hcb

theorem less_trans (h : Orders less xs) (ha : a ∈ xs) (hb : b ∈ xs) (hc : c ∈ xs)
    (hab : less a b = true) (hbc : less b c = true) : less a c = true :=
  h.less_of_less ha hb hc hab (h.asymm b hb c hc hbc)

/-- What may stand in front of the first element of a list in order may stand in front of all. -/
theorem not_less_of_ordered (h : Orders less xs) (ha : a ∈ xs) (hsub : b :: l ⊆ xs)
    (hl : Ordered less (b :: l)) (hba : less b a = false) : ∀ z ∈ b :: l, less z a = false := by
  intro z hz
  rcases List.mem_cons.mp hz with rfl | hzl
  · exact hba
  · exact h.trans a ha b (hsub List.mem_cons_self) z (hsub hz) hba
      (List.rel_of_pairwise_cons hl hzl)

/-- What comes before the first element of a list in order comes before all of them. -/
theorem less_of_ordered (h : Orders less xs) (ha : a ∈ xs) (hsub : b :: l ⊆ xs)
    (hl : Ordered less (b :: l)) (hab : less a b = true) : ∀ z ∈ b :: l, less a z = true := by
  intro z hz
  rcases List.mem_cons.mp hz with rfl | hzl
  · exact hab
  · exact h.less_of_less ha (hsub List.mem_cons_self) (hsub hz) hab
      (List.rel_of_pairwise_cons hl hzl)

theorem ties_self (h : Orders less xs) (ha : a ∈ xs) : ties less a a = true := by
  simp [ties, h.irrefl ha]

/-- All that tie with one element tie with each other. -/
theorem picksTies (h : Orders less xs) (ha : a ∈ xs) : PicksTies less (ties less a) xs := by
  intro b hb c hc hab hac
  simp only [ties, Bool.and_eq_true, Bool.not_eq_eq_eq_not, Bool.not_true] at hab hac
  exact h.trans c hc a ha b hb hac.1 hab.2

end Orders

/-! ## Stable sorts -/

/-- **What it is to sort a list.** -/
structure Sorts (less : α → α → Bool) (xs ys : List α) : Prop where
  perm : ys.Perm xs
  ordered : Orders less xs → Ordered less ys
  stable : Orders less xs → ∀ p, PicksTies less p xs → ys.filter p = xs.filter p

namespace Sorts

/-- What has the elements of a list sorts it, if it does so where the test orders them. -/
theorem of_orders (hperm : ys.Perm xs) (h : Orders less xs → Sorts less xs ys) :
    Sorts less xs ys where
  perm := hperm
  ordered ho := (h ho).ordered ho
  stable ho := (h ho).stable ho

/-- A list in order is sorted. -/
theorem refl (h : Orders less xs → Ordered less xs) : Sorts less xs xs where
  perm := List.Perm.refl xs
  ordered := h
  stable _ _ _ := rfl

theorem nil : Sorts less [] [] := refl fun _ => List.Pairwise.nil

theorem singleton (x : α) : Sorts less [x] [x] := refl fun _ => List.pairwise_singleton _ x

/-- A list of which each element comes before those in front of it is sorted when it is reversed,
since no two of its elements tie. -/
theorem reverse_of_falling (h : Orders less xs → xs.Pairwise fun a b => less b a = true) :
    Sorts less xs xs.reverse where
  perm := List.reverse_perm xs
  ordered ho := by
    refine List.pairwise_reverse.mpr ((h ho).imp_of_mem fun ha hb hba => ?_)
    exact ho.asymm _ hb _ ha hba
  stable ho p hp := by
    have hfalling := (h ho).filter p
    have hties : ∀ a ∈ xs.filter p, ∀ b ∈ xs.filter p, less b a = false := by
      intro a ha b hb
      rw [List.mem_filter] at ha hb
      exact hp b hb.1 a ha.1 hb.2 ha.2
    rw [List.filter_reverse]
    -- Two elements of the filtered list would both tie and not tie.
    cases hfilter : xs.filter p with
    | nil => rfl
    | cons a rest =>
      cases rest with
      | nil => rfl
      | cons b rest =>
        rw [hfilter] at hfalling hties
        have hba := List.rel_of_pairwise_cons hfalling (List.mem_cons_self (a := b))
        rw [hties a (by simp) b (by simp)] at hba
        cases hba

/-- **Turning test and lists round.** -/
theorem reverse (h : Sorts less xs ys) : Sorts (fun x y => less y x) xs.reverse ys.reverse where
  perm := (List.reverse_perm ys).trans (h.perm.trans (List.reverse_perm xs).symm)
  ordered ho :=
    List.pairwise_reverse.mpr (h.ordered (ho.swap.subset fun x hx => List.mem_reverse.mpr hx))
  stable ho p hp := by
    rw [List.filter_reverse, List.filter_reverse]
    have hswap := ho.swap.subset fun x hx => List.mem_reverse.mpr hx
    refine congrArg List.reverse (h.stable hswap p ?_)
    intro a ha b hb hpa hpb
    exact hp b (List.mem_reverse.mpr hb) a (List.mem_reverse.mpr ha) hpb hpa

end Sorts

/-- An ordered list is determined by its elements, if those that tie stand in the same order. -/
theorem eq_of_perm_of_filter_ties (ho : Orders less ys) (hperm : zs.Perm ys)
    (hys : Ordered less ys) (hzs : Ordered less zs)
    (hties : ∀ x ∈ ys, ys.filter (ties less x) = zs.filter (ties less x)) : ys = zs := by
  induction ys generalizing zs with
  | nil => exact (List.Perm.eq_nil hperm).symm
  | cons y ys ih =>
    cases zs with
    | nil => cases hperm.symm.eq_nil
    | cons z zs =>
      have hy : y ∈ y :: ys := List.mem_cons_self
      have hz : z ∈ y :: ys := hperm.mem_iff.mp List.mem_cons_self
      have hzy : less z y = false := by
        rcases List.mem_cons.mp hz with rfl | hz
        · exact ho.irrefl hy
        · exact List.rel_of_pairwise_cons hys hz
      have hyz : less y z = false := by
        rcases List.mem_cons.mp (hperm.mem_iff.mpr hy) with rfl | hy'
        · exact hzy
        · exact List.rel_of_pairwise_cons hzs hy'
      -- The first elements tie, so they are the first of those that tie with them.
      have hfirst := hties y hy
      rw [List.filter_cons_of_pos (ho.ties_self hy),
        List.filter_cons_of_pos (by simp [ties, hyz, hzy])] at hfirst
      obtain rfl : y = z := (List.cons.inj hfirst).1
      have hrest : ys = zs := by
        refine ih (ho.subset (List.subset_cons_self y ys)) hperm.cons_inv hys.of_cons hzs.of_cons ?_
        intro x hx
        have hx := hties x (List.mem_cons_of_mem y hx)
        by_cases hxy : ties less x y = true
        · rw [List.filter_cons_of_pos hxy, List.filter_cons_of_pos hxy] at hx
          exact (List.cons.inj hx).2
        · rwa [List.filter_cons_of_neg hxy, List.filter_cons_of_neg hxy] at hx
      rw [hrest]

/-- **There is only one way to sort a list stably.** -/
theorem Sorts.unique (ho : Orders less xs) (hys : Sorts less xs ys) (hzs : Sorts less xs zs) :
    ys = zs := by
  have hsub : ys ⊆ xs := hys.perm.subset
  refine eq_of_perm_of_filter_ties (ho.subset hsub) (hzs.perm.trans hys.perm.symm) (hys.ordered ho)
    (hzs.ordered ho) fun x hx => ?_
  have hties := ho.picksTies (hsub hx)
  rw [hys.stable ho _ hties, hzs.stable ho _ hties]

/-! ## Merging -/

theorem append_subset_append_cons (l r : List α) (y : α) : l ++ r ⊆ l ++ y :: r :=
  ((List.sublist_cons_self y r).append_left l).subset

/-- **Lists in order are merged into one in order.** -/
theorem ordered_merge {l r : List α} (ho : Orders less (l ++ r)) (hl : Ordered less l)
    (hr : Ordered less r) : Ordered less (l.merge r fun x y => !less y x) := by
  induction l generalizing r with
  | nil => simpa using hr
  | cons x l ihl =>
    induction r with
    | nil => simpa using hl
    | cons y r ihr =>
      have hx : x ∈ x :: l ++ y :: r := by simp
      have hy : y ∈ x :: l ++ y :: r := by simp
      rw [List.cons_merge_cons]
      split
      · rename_i hyx
        have hbehind := ho.not_less_of_ordered hx (List.subset_append_right _ _) hr
          (by simpa using hyx)
        refine List.pairwise_cons.mpr ⟨fun z hz => ?_, ihl (ho.subset (by simp)) hl.of_cons hr⟩
        rcases List.mem_merge.mp hz with hz | hz
        · exact List.rel_of_pairwise_cons hl hz
        · exact hbehind z hz
      · rename_i hyx
        have hbehind := ho.not_less_of_ordered hy (List.subset_append_left _ _) hl
          (ho.asymm y hy x hx (by simpa using hyx))
        refine List.pairwise_cons.mpr
          ⟨fun z hz => ?_, ihr (ho.subset (append_subset_append_cons _ r y)) hr.of_cons⟩
        rcases List.mem_merge.mp hz with hz | hz
        · exact hbehind z hz
        · exact List.rel_of_pairwise_cons hr hz

/-- **Merging puts what ties of the first list in front of what ties of the second.** -/
theorem filter_merge {l r : List α} (ho : Orders less (l ++ r)) (hl : Ordered less l)
    {p : α → Bool} (hp : PicksTies less p (l ++ r)) :
    (l.merge r fun x y => !less y x).filter p = l.filter p ++ r.filter p := by
  induction l generalizing r with
  | nil => simp
  | cons x l ihl =>
    induction r with
    | nil => simp
    | cons y r ihr =>
      have hsubx : l ++ y :: r ⊆ x :: l ++ y :: r := List.subset_cons_self x _
      have hsuby := append_subset_append_cons (x :: l) r y
      rw [List.cons_merge_cons]
      split
      · have hrest := ihl (ho.subset hsubx) hl.of_cons (hp.subset hsubx)
        by_cases hpx : p x = true <;> simp [hpx, hrest]
      · rename_i hyx
        have hyx : less y x = true := by simpa using hyx
        rw [List.filter_cons, ihr (ho.subset hsuby) (hp.subset hsuby)]
        by_cases hpy : p y = true
        · -- `y` comes before all of the first list, so nothing there ties with it.
          have hy : y ∈ x :: l ++ y :: r := by simp
          have hbefore := ho.less_of_ordered hy (List.subset_append_left _ _) hl hyx
          have hnone : (x :: l).filter p = [] := by
            rw [List.filter_eq_nil_iff]
            intro z hz hpz
            have hyz := hbefore z hz
            rw [hp y hy z (List.mem_append_left _ hz) hpy hpz] at hyz
            cases hyz
          simp [hnone, hpy]
        · simp [hpy]

/-- Elements that all lie in one of two parts are not moved when the parts are put together. -/
theorem filter_append_filter_not {p f : α → Bool}
    (h : (∀ x ∈ xs, p x = true → f x = true) ∨ ∀ x ∈ xs, p x = true → f x = false) :
    ((xs.filter fun x => p x && f x) ++ xs.filter fun x => p x && !f x) = xs.filter p := by
  rcases h with h | h
  · have hfront : (xs.filter fun x => p x && f x) = xs.filter p :=
      List.filter_congr fun x hx => by simpa using h x hx
    have hback : (xs.filter fun x => p x && !f x) = [] :=
      List.filter_eq_nil_iff.mpr fun x hx => by simpa using h x hx
    rw [hfront, hback, List.append_nil]
  · have hfront : (xs.filter fun x => p x && f x) = [] :=
      List.filter_eq_nil_iff.mpr fun x hx => by simpa using h x hx
    have hback : (xs.filter fun x => p x && !f x) = xs.filter p :=
      List.filter_congr fun x hx => by simpa using h x hx
    rw [hfront, hback, List.nil_append]

namespace Sorts

/-- **Sorted lists merged sort the lists put together.** -/
theorem merge {l r : List α} (hl : Sorts less xs l) (hr : Sorts less ys r) :
    Sorts less (xs ++ ys) (l.merge r fun x y => !less y x) := by
  have hleft : xs ⊆ xs ++ ys := List.subset_append_left xs ys
  have hright : ys ⊆ xs ++ ys := List.subset_append_right xs ys
  have hperm : (l ++ r).Perm (xs ++ ys) := hl.perm.append hr.perm
  refine ⟨(List.merge_perm_append _).trans hperm, fun ho => ?_, fun ho p hp => ?_⟩
  · exact ordered_merge (ho.subset hperm.subset) (hl.ordered (ho.subset hleft))
      (hr.ordered (ho.subset hright))
  · rw [filter_merge (ho.subset hperm.subset) (hl.ordered (ho.subset hleft))
        (hp.subset hperm.subset), hl.stable (ho.subset hleft) p (hp.subset hleft),
      hr.stable (ho.subset hright) p (hp.subset hright), List.filter_append]

/-- **What comes before the rest of a list may be sorted by itself and put in front.** -/
theorem append_filter {f : α → Bool} {l r : List α}
    (hf : Orders less xs → ∀ a ∈ xs, ∀ b ∈ xs, f a = true → f b = false → less a b = true)
    (hl : Sorts less (xs.filter f) l) (hr : Sorts less (xs.filter fun x => !f x) r) :
    Sorts less xs (l ++ r) := by
  have hfront : xs.filter f ⊆ xs := List.filter_sublist.subset
  have hback : (xs.filter fun x => !f x) ⊆ xs := List.filter_sublist.subset
  refine ⟨(hl.perm.append hr.perm).trans (List.filter_append_perm f xs), fun ho => ?_,
    fun ho p hp => ?_⟩
  · refine List.pairwise_append.mpr ⟨hl.ordered (ho.subset hfront), hr.ordered (ho.subset hback),
      fun a ha b hb => ?_⟩
    have ha := List.mem_filter.mp (hl.perm.mem_iff.mp ha)
    have hb := List.mem_filter.mp (hr.perm.mem_iff.mp hb)
    exact ho.asymm a ha.1 b hb.1 (hf ho a ha.1 b hb.1 ha.2 (by simpa using hb.2))
  · rw [List.filter_append, hl.stable (ho.subset hfront) p (hp.subset hfront),
      hr.stable (ho.subset hback) p (hp.subset hback), List.filter_filter, List.filter_filter]
    -- Elements that tie are all in front or all behind.
    refine filter_append_filter_not ?_
    by_cases hsome : ∃ a ∈ xs, p a = true ∧ f a = true
    · obtain ⟨a, ha, hpa, hfa⟩ := hsome
      refine Or.inl fun b hb hpb => ?_
      by_contra hfb
      have hab := hf ho a ha b hb hfa (by simpa using hfb)
      rw [hp a ha b hb hpa hpb] at hab
      cases hab
    · refine Or.inr fun b hb hpb => ?_
      simpa using fun hfb => hsome ⟨b, hb, hpb, hfb⟩

end Sorts

/-- **Merging runs from either end.** -/
theorem Sorts.mergeRuns {l r : List α} (hl : Sorts less xs l) (hr : Sorts less ys r) :
    Sorts less (xs ++ ys) (mergeRuns less l r) := by
  unfold Sorting.mergeRuns
  split
  · exact hl.merge hr
  · have hmerged := (hr.reverse.merge hl.reverse).reverse
    rwa [← List.reverse_append, List.reverse_reverse] at hmerged

end TableQuery.Sorting
