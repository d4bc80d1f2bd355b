import TableQuery.Proofs.Sorting.Stable

/-!
# Proofs/Sorting/Short — sorting a short stretch

A short stretch is sorted in halves, by insertion, and the halves are merged from both ends at a
time.  Insertion is merging with one element.  Merging from an end **cuts** the two lists: what lies
in front of the cut is merged in front of the rest.  Where the test orders the elements there is one
cut for every number of elements (`Cut.unique`), so the cut made from the front and the one made
from the back are the same, and the two ends meet (`yields_mergeMeeting`).
-/

namespace TableQuery.Sorting

variable {α : Type} {less : α → α → Bool} {xs ys zs : List α}

/-! ## Insertion -/

theorem insertBehind_eq_merge (x : α) (done : List α) :
    insertBehind less x done = [x].merge done fun a b => !less a b := by
  induction done with
  | nil => simp [insertBehind]
  | cons y rest ih =>
    rw [insertBehind, List.cons_merge_cons, ih]
    by_cases h : less x y = true <;> simp [h]

theorem Sorts.insertBehind {done : List α} (h : Sorts less xs done.reverse) (x : α) :
    Sorts less (xs ++ [x]) (insertBehind less x done).reverse := by
  have hmerged := ((Sorts.singleton x).merge h.reverse).reverse
  rw [List.reverse_append, List.reverse_reverse, List.reverse_reverse] at hmerged
  rw [insertBehind_eq_merge]
  exact hmerged

theorem Sorts.foldl_insertBehind {done : List α} (h : Sorts less xs done.reverse) (zs : List α) :
    Sorts less (xs ++ zs)
      (zs.foldl (fun done x => Sorting.insertBehind less x done) done).reverse := by
  induction zs generalizing xs done with
  | nil => simpa using h
  | cons z zs ih =>
    have hrest := ih (h.insertBehind z)
    rwa [List.append_assoc] at hrest

/-- **Elements inserted into sorted ones.** -/
theorem Sorts.insertAll (h : Sorts less xs ys) (zs : List α) :
    Sorts less (xs ++ zs) (insertAll less ys zs) :=
  Sorts.foldl_insertBehind (by rwa [List.reverse_reverse]) zs

theorem sorts_insertAll (xs : List α) : Sorts less xs (insertAll less [] xs) :=
  Sorts.nil.insertAll xs

/-! ## Four elements -/

theorem sortTwo_eq_merge (x y : α) :
    [(sortTwo less x y).1, (sortTwo less x y).2] = [x].merge [y] fun a b => !less b a := by
  rw [sortTwo, List.cons_merge_cons]
  by_cases h : less y x = true <;> simp [h]

theorem sorts_sortTwo (x y : α) :
    Sorts less [x, y] [(sortTwo less x y).1, (sortTwo less x y).2] := by
  rw [sortTwo_eq_merge]
  exact (Sorts.singleton x).merge (Sorts.singleton y)

theorem joinPairs_perm (a b c d : α) : (joinPairs less (a, b) (c, d)).Perm ([a, b] ++ [c, d]) := by
  classical
  rw [List.perm_iff_count]
  intro x
  have hmiddle := fun u v => (@sorts_sortTwo _ less u v).perm.count_eq x
  by_cases hca : less c a = true
  · by_cases hdb : less d b = true
    · have had := hmiddle a d
      simp [joinPairs, hca, hdb, List.count_cons] at had ⊢
      omega
    · have hab := hmiddle a b
      simp [joinPairs, hca, hdb, List.count_cons] at hab ⊢
      omega
  · by_cases hdb : less d b = true
    · have hcd := hmiddle c d
      simp [joinPairs, hca, hdb, List.count_cons] at hcd ⊢
      omega
    · have hbc := hmiddle b c
      simp [joinPairs, hca, hdb, List.count_cons] at hbc ⊢
      omega

/-- Where the test orders the elements, two pairs in order are joined as a merge would do it. -/
theorem joinPairs_eq_merge {a b c d : α} (ho : Orders less ([a, b] ++ [c, d]))
    (hab : less b a = false) (hcd : less d c = false) :
    joinPairs less (a, b) (c, d) = [a, b].merge [c, d] fun x y => !less y x := by
  have ha : a ∈ [a, b] ++ [c, d] := by simp
  have hb : b ∈ [a, b] ++ [c, d] := by simp
  have hc : c ∈ [a, b] ++ [c, d] := by simp
  have hd : d ∈ [a, b] ++ [c, d] := by simp
  by_cases hca : less c a = true
  · by_cases hdb : less d b = true
    · by_cases hda : less d a = true <;>
        simp [joinPairs, sortTwo, hca, hdb, hda]
    · have hdb : less d b = false := by simpa using hdb
      have hda : less d a = false := ho.trans a ha b hb d hd hab hdb
      simp [joinPairs, sortTwo, hca, hdb, hda, hab]
  · by_cases hdb : less d b = true
    · have hcb : less c b = true := ho.less_of_not_less hc hd hb hcd hdb
      simp [joinPairs, sortTwo, hca, hdb, hcb, hcd]
    · by_cases hcb : less c b = true <;>
        simp [joinPairs, sortTwo, hca, hdb, hcb]

theorem sorts_sortFour (p q r s : α) : Sorts less [p, q, r, s] (sortFour less p q r s) := by
  have hleft := @sorts_sortTwo _ less p q
  have hright := @sorts_sortTwo _ less r s
  have hmerged := hleft.merge hright
  have hperm := hleft.perm.append hright.perm
  refine Sorts.of_orders ((joinPairs_perm _ _ _ _).trans hperm) fun ho => ?_
  have heq := joinPairs_eq_merge (ho.subset hperm.subset)
    (List.rel_of_pairwise_cons (hleft.ordered (ho.subset (by simp))) List.mem_cons_self)
    (List.rel_of_pairwise_cons (hright.ordered (ho.subset (by simp))) List.mem_cons_self)
  rw [sortFour, heq]
  exact hmerged

theorem sorts_sortHalf (long : Bool) (xs : List α) : Sorts less xs (sortHalf less long xs) := by
  unfold sortHalf
  split
  · exact (sorts_sortFour _ _ _ _).insertAll _
  · exact sorts_insertAll _

/-! ## Steps of a merge, and where they cut -/

variable {l r : List α}

/-- **A cut of two lists**, behind `a` elements of the first and `b` of the second: what lies in
front of it has to be merged in front of the rest. -/
structure Cut (less : α → α → Bool) (l r : List α) (a b : Nat) : Prop where
  left : ∀ x ∈ l.take a, ∀ y ∈ r.drop b, less y x = false
  right : ∀ y ∈ r.take b, ∀ x ∈ l.drop a, less y x = true

namespace Cut

variable {a b c d : Nat}

/-- A cut behind as many elements that goes further in the first list would have to put an element
both in front of another and behind it. -/
theorem le_of_add_eq (h : Cut less l r a b) (h' : Cut less l r c d) (hsum : a + b = c + d)
    (hc : c ≤ l.length) (hb : b ≤ r.length) : c ≤ a := by
  by_contra hlt
  have hx : l[a] ∈ l.take c ∧ l[a] ∈ l.drop a :=
    ⟨List.mem_take_iff_getElem.mpr ⟨a, by omega, rfl⟩,
      List.mem_drop_iff_getElem.mpr ⟨0, by omega, by simp⟩⟩
  have hy : r[d] ∈ r.take b ∧ r[d] ∈ r.drop d :=
    ⟨List.mem_take_iff_getElem.mpr ⟨d, by omega, rfl⟩,
      List.mem_drop_iff_getElem.mpr ⟨0, by omega, by simp⟩⟩
  have hfalse := h'.left _ hx.1 _ hy.2
  rw [h.right _ hy.1 _ hx.2] at hfalse
  cases hfalse

/-- **There is one cut for every number of elements.** -/
theorem unique (h : Cut less l r a b) (h' : Cut less l r c d) (hsum : a + b = c + d)
    (ha : a ≤ l.length) (hb : b ≤ r.length) (hc : c ≤ l.length) (hd : d ≤ r.length) : a = c :=
  Nat.le_antisymm (h'.le_of_add_eq h hsum.symm ha hd) (h.le_of_add_eq h' hsum hc hb)

/-- A cut goes one element further in the first list if that may stand in front of all of the
second. -/
theorem cons_left {x : α} (h : Cut less l r a b) (hx : ∀ y ∈ r, less y x = false) :
    Cut less (x :: l) r (a + 1) b where
  left z hz y hy := by
    rw [List.take_succ_cons, List.mem_cons] at hz
    rcases hz with rfl | hz
    · exact hx y (List.mem_of_mem_drop hy)
    · exact h.left z hz y hy
  right := h.right

/-- A cut goes one element further in the second list if that comes before all of the first. -/
theorem cons_right {y : α} (h : Cut less l r a b) (hy : ∀ x ∈ l, less y x = true) :
    Cut less l (y :: r) a (b + 1) where
  left := h.left
  right z hz x hx := by
    rw [List.take_succ_cons, List.mem_cons] at hz
    rcases hz with rfl | hz
    · exact hy x (List.mem_of_mem_drop hx)
    · exact h.right z hz x hx

/-- A cut of what lies behind a cut. -/
theorem add (h : Cut less l r a b) (h' : Cut less (l.drop a) (r.drop b) c d) :
    Cut less l r (a + c) (b + d) where
  left x hx y hy := by
    rw [← List.drop_drop] at hy
    rw [List.take_add, List.mem_append] at hx
    rcases hx with hx | hx
    · exact h.left x hx y (List.mem_of_mem_drop hy)
    · exact h'.left x hx y hy
  right y hy x hx := by
    rw [← List.drop_drop] at hx
    rw [List.take_add, List.mem_append] at hy
    rcases hy with hy | hy
    · exact h.right y hy x (List.mem_of_mem_drop hx)
    · exact h'.right y hy x hx

/-- A cut seen from the back. -/
theorem reverse (h : Cut (fun x y => less y x) r.reverse l.reverse b a) :
    Cut less l r (l.length - a) (r.length - b) where
  left x hx y hy := by
    refine h.left y ?_ x ?_
    · rwa [List.take_reverse, List.mem_reverse]
    · rwa [List.drop_reverse, List.mem_reverse]
  right y hy x hx := by
    refine h.right x ?_ y ?_
    · rwa [List.take_reverse, List.mem_reverse]
    · rwa [List.drop_reverse, List.mem_reverse]

end Cut

/-- Steps of a merge, and the merge of what they leave. -/
theorem mergeSteps_append_merge (n : Nat) (l r : List α) :
    (mergeSteps less n l r).1
        ++ (mergeSteps less n l r).2.1.merge (mergeSteps less n l r).2.2 (fun x y => !less y x)
      = l.merge r fun x y => !less y x := by
  fun_induction mergeSteps less n l r with
  | case1 => simp
  | case2 => simp
  | case3 => simp
  | case4 n x l y r hyx front rest heq ih =>
    rw [heq] at ih
    rw [List.cons_merge_cons_neg _ _ _ (by simpa using hyx), ← ih]
    rfl
  | case5 n x l y r hyx front rest heq ih =>
    rw [heq] at ih
    rw [List.cons_merge_cons_pos _ _ _ (by simpa using hyx), ← ih]
    rfl

/-- What `n` steps of a merge do: the elements in front of a place in either list have been
taken. -/
structure Steps (less : α → α → Bool) (l r : List α) (a b : Nat)
    (taken : List α × List α × List α) : Prop where
  left_le : a ≤ l.length
  right_le : b ≤ r.length
  left_eq : taken.2.1 = l.drop a
  right_eq : taken.2.2 = r.drop b
  perm : taken.1.Perm (l.take a ++ r.take b)
  cut : Orders less (l ++ r) → Ordered less l → Ordered less r → Cut less l r a b

theorem Steps.length_eq {a b : Nat} {taken : List α × List α × List α}
    (h : Steps less l r a b taken) : taken.1.length = a + b := by
  rw [h.perm.length_eq, List.length_append, List.length_take_of_le h.left_le,
    List.length_take_of_le h.right_le]

theorem exists_steps {n : Nat} (hn : n ≤ l.length + r.length) :
    ∃ a b, a + b = n ∧ Steps less l r a b (mergeSteps less n l r) := by
  fun_induction mergeSteps less n l r with
  | case1 l r =>
    refine ⟨0, 0, rfl, Nat.zero_le _, Nat.zero_le _, rfl, rfl, by simp, fun _ _ _ => ⟨?_, ?_⟩⟩
    · simp
    · simp
  | case2 n r =>
    refine ⟨0, n + 1, by omega, Nat.zero_le _, by simpa using hn, rfl, rfl, by simp,
      fun _ _ _ => ⟨by simp, by simp⟩⟩
  | case3 n l =>
    refine ⟨n + 1, 0, by omega, by simpa using hn, Nat.zero_le _, rfl, rfl, by simp,
      fun _ _ _ => ⟨by simp, by simp⟩⟩
  | case4 n x l y r hyx front rest heq ih =>
    rw [heq] at ih
    obtain ⟨a, b, hab, h⟩ := ih (by simp at hn ⊢; omega)
    refine ⟨a, b + 1, by omega, h.left_le, by simpa using h.right_le, h.left_eq, h.right_eq,
      (h.perm.cons y).trans List.perm_middle.symm, fun ho hl hr => ?_⟩
    have hcut := h.cut (ho.subset (append_subset_append_cons _ r y)) hl hr.of_cons
    exact hcut.cons_right (ho.less_of_ordered (by simp) (List.subset_append_left _ _) hl hyx)
  | case5 n x l y r hyx front rest heq ih =>
    rw [heq] at ih
    obtain ⟨a, b, hab, h⟩ := ih (by simp at hn ⊢; omega)
    refine ⟨a + 1, b, by omega, by simpa using h.left_le, h.right_le, h.left_eq, h.right_eq,
      h.perm.cons x, fun ho hl hr => ?_⟩
    have hcut := h.cut (ho.subset (List.subset_cons_self x _)) hl.of_cons hr
    exact hcut.cons_left (ho.not_less_of_ordered (by simp) (List.subset_append_right _ _) hr
      (by simpa using hyx))

/-! ## Sorts that may give up -/

/-- **What comes of something that may fail**: what comes out meets `post`, and something comes out
if `pre` holds. -/
structure Yields {β : Type} (pre : Prop) (post : β → Prop) (outcome : Option β) : Prop where
  sound : ∀ b, outcome = some b → post b
  returns : pre → ∃ b, outcome = some b

namespace Yields

variable {β γ : Type} {pre pre' : Prop} {post post' : β → Prop} {goal : γ → Prop}
  {outcome : Option β}

theorem some {b : β} (h : post b) : Yields pre post (some b) where
  sound c hc := by rwa [← Option.some.inj hc]
  returns _ := ⟨b, rfl⟩

theorem mono (h : Yields pre post outcome) (hpre : pre' → pre) (hpost : ∀ b, post b → post' b) :
    Yields pre' post' outcome where
  sound b hb := hpost b (h.sound b hb)
  returns hp := h.returns (hpre hp)

theorem bind {f : β → Option γ} (h : Yields pre post outcome)
    (hf : ∀ b, post b → Yields pre goal (f b)) : Yields pre goal (outcome >>= f) where
  sound c hc := by
    obtain ⟨b, hb, hfb⟩ := Option.bind_eq_some_iff.mp hc
    exact (hf b (h.sound b hb)).sound c hfb
  returns hp := by
    obtain ⟨b, hb⟩ := h.returns hp
    obtain ⟨c, hc⟩ := (hf b (h.sound b hb)).returns hp
    exact ⟨c, Option.bind_eq_some_iff.mpr ⟨b, hb, hc⟩⟩

theorem map {f : β → γ} (h : Yields pre post outcome) (hf : ∀ b, post b → goal (f b)) :
    Yields pre goal (outcome.map f) where
  sound c hc := by
    obtain ⟨b, hb, rfl⟩ := Option.map_eq_some_iff.mp hc
    exact hf b (h.sound b hb)
  returns hp := by
    obtain ⟨b, hb⟩ := h.returns hp
    exact ⟨f b, Option.map_eq_some_iff.mpr ⟨b, hb, rfl⟩⟩

end Yields

/-- The merge from both ends, told by the places that the steps reach. -/
theorem mergeMeeting_eq_of_steps {a b c d : Nat}
    (hfront : Steps less l r a b (mergeSteps less l.length l r))
    (hback : Steps (fun x y => less y x) r.reverse l.reverse d c
      (mergeSteps (fun x y => less y x) l.length r.reverse l.reverse)) {n : Nat}
    (hn : n = if l.length < (l.length - a) + (l.length - c) then r.length - l.length else 0) :
    mergeMeeting less l r =
      if (l.length - a) + (l.length - c) = l.length + n then
        some ((mergeSteps less l.length l r).1
          ++ ((l.drop a).take n ++ (r.drop b).take (r.length - l.length - n))
          ++ (mergeSteps (fun x y => less y x) l.length r.reverse l.reverse).1.reverse)
      else none := by
  have hleft : (mergeSteps less l.length l r).2.1.length = l.length - a := by
    rw [hfront.left_eq, List.length_drop]
  have hright : (mergeSteps (fun x y => less y x) l.length r.reverse l.reverse).2.2.length
      = l.length - c := by
    rw [hback.right_eq, List.length_drop, List.length_reverse]
  rw [← hleft, ← hright] at hn ⊢
  rw [← hfront.left_eq, ← hfront.right_eq, hn]
  rfl

theorem mergeMeeting_perm (hle : l.length ≤ r.length) {zs : List α}
    (h : mergeMeeting less l r = some zs) : zs.Perm (l ++ r) := by
  obtain ⟨a, b, hab, hfront⟩ := @exists_steps _ less l r l.length (by omega)
  obtain ⟨d, c, hcd, hback⟩ := @exists_steps _ (fun x y => less y x) r.reverse l.reverse l.length
    (by simp)
  rw [mergeMeeting_eq_of_steps hfront hback rfl] at h
  generalize hn :
    (if l.length < (l.length - a) + (l.length - c) then r.length - l.length else 0) = n at h
  split at h
  · rename_i hmeet
    have hnle : n ≤ r.length - l.length := by
      subst hn
      split <;> omega
    have ha := hfront.left_le
    have hc := hback.right_le
    rw [List.length_reverse] at hc
    have hl : l.length - c = a + n := by omega
    have hr : r.length - d = b + (r.length - l.length - n) := by omega
    have hback := hback.perm
    rw [List.take_reverse, List.take_reverse, hl, hr] at hback
    rw [← Option.some.inj h]
    classical
    rw [List.perm_iff_count]
    intro x
    have hfrontx := hfront.perm.count_eq x
    have hbackx := hback.count_eq x
    have hlx := congrArg (List.count x) (List.take_append_drop (a + n) l)
    have hrx := congrArg (List.count x)
      (List.take_append_drop (b + (r.length - l.length - n)) r)
    rw [List.take_add] at hlx hrx
    simp only [List.count_append, List.count_reverse] at *
    omega
  · cases h

/-- Merging from the back comes to the same as merging from the front. -/
theorem reverse_merge_reverse (ho : Orders less (l ++ r)) (hl : Ordered less l)
    (hr : Ordered less r) :
    (r.reverse.merge l.reverse fun y x => !less y x).reverse = l.merge r fun x y => !less y x := by
  have hleft : Sorts less l l := Sorts.refl fun _ => hl
  have hright : Sorts less r r := Sorts.refl fun _ => hr
  have hturned := (hright.reverse.merge hleft.reverse).reverse
  rw [← List.reverse_append, List.reverse_reverse] at hturned
  exact hturned.unique ho (hleft.merge hright)

theorem eq_of_perm_of_length_le_one (h : xs.Perm ys) (hlen : ys.length ≤ 1) : xs = ys := by
  cases ys with
  | nil => exact h.eq_nil
  | cons y ys =>
    obtain rfl : ys = [] := List.length_eq_zero_iff.mp (by simpa using hlen)
    exact List.perm_singleton.mp h

/-- **The ends meet**: the cut from the front, moved over what lies between, is the cut from the
back. -/
theorem Steps.meet {a b c d n m : Nat} {front back middle : List α × List α × List α}
    (hfront : Steps less l r a b front)
    (hback : Steps (fun x y => less y x) r.reverse l.reverse d c back)
    (hmiddle : Steps less (l.drop a) (r.drop b) n m middle) (ho : Orders less (l ++ r))
    (hl : Ordered less l) (hr : Ordered less r)
    (hlen : a + b + (n + m) + (d + c) = l.length + r.length) : a + n = l.length - c := by
  have hcutmiddle := hmiddle.cut
    (ho.subset ((List.drop_sublist a l).append (List.drop_sublist b r)).subset)
    (hl.sublist (List.drop_sublist a l)) (hr.sublist (List.drop_sublist b r))
  have hcutback := (hback.cut (ho.swap.subset (by simp))
    (List.pairwise_reverse.mpr hr) (List.pairwise_reverse.mpr hl)).reverse
  have hn := hmiddle.left_le
  have hm := hmiddle.right_le
  have hd := hback.left_le
  have hc := hback.right_le
  have ha := hfront.left_le
  have hb := hfront.right_le
  rw [List.length_drop] at hn hm
  rw [List.length_reverse] at hc hd
  exact ((hfront.cut ho hl hr).add hcutmiddle).unique hcutback (by omega) (by omega) (by omega)
    (by omega) (by omega)

/-- Steps from the front, further steps and steps from the back make up the merge, if they are as
many as there are elements. -/
theorem mergeSteps_append_mergeSteps (ho : Orders less (l ++ r)) (hl : Ordered less l)
    (hr : Ordered less r) {a b i j k : Nat} (hfront : Steps less l r a b (mergeSteps less i l r))
    (hlen : (mergeSteps less i l r).1.length + (mergeSteps less j (l.drop a) (r.drop b)).1.length
      + (mergeSteps (fun x y => less y x) k r.reverse l.reverse).1.length = l.length + r.length) :
    (mergeSteps less i l r).1 ++ (mergeSteps less j (l.drop a) (r.drop b)).1
        ++ (mergeSteps (fun x y => less y x) k r.reverse l.reverse).1.reverse
      = l.merge r fun x y => !less y x := by
  have hwhole := @mergeSteps_append_merge _ less i l r
  have hrest := @mergeSteps_append_merge _ less j (l.drop a) (r.drop b)
  have hturned := congrArg List.reverse
    (@mergeSteps_append_merge _ (fun x y => less y x) k r.reverse l.reverse)
  rw [hfront.left_eq, hfront.right_eq, ← hrest, ← List.append_assoc] at hwhole
  rw [reverse_merge_reverse ho hl hr, ← hwhole, List.reverse_append] at hturned
  have hlengths := congrArg List.length hwhole
  rw [List.length_append, List.length_append, List.length_merge _ l r] at hlengths
  rw [← hwhole, (List.append_inj' hturned (by rw [List.length_reverse]; omega)).2]

theorem mergeMeeting_eq_merge (ho : Orders less (l ++ r)) (hl : Ordered less l)
    (hr : Ordered less r) (hle : l.length ≤ r.length) (hlt : r.length ≤ l.length + 1) :
    mergeMeeting less l r = some (l.merge r fun x y => !less y x) := by
  obtain ⟨a, b, hab, hfront⟩ := @exists_steps _ less l r l.length (by omega)
  obtain ⟨d, c, hcd, hback⟩ := @exists_steps _ (fun x y => less y x) r.reverse l.reverse l.length
    (by simp)
  have ha := hfront.left_le
  have hb := hfront.right_le
  obtain ⟨n, m, hnm, hmiddle⟩ := @exists_steps _ less (l.drop a) (r.drop b) (r.length - l.length)
    (by simp; omega)
  have hmeet := hfront.meet hback hmiddle ho hl hr (by omega)
  -- At most one element lies between the ends, so there is one way to put the rest together.
  have hbetween := eq_of_perm_of_length_le_one hmiddle.perm (by simp; omega)
  have hm : r.length - l.length - n = m := by omega
  rw [mergeMeeting_eq_of_steps hfront hback (n := n) (by split <;> omega), if_pos (by omega), hm,
    ← hbetween, mergeSteps_append_mergeSteps ho hl hr hfront
      (by rw [hfront.length_eq, hmiddle.length_eq, hback.length_eq]; omega)]

/-- **Merging from both ends sorts**, and it does not fail where the test orders the elements. -/
theorem yields_mergeMeeting (hl : Sorts less xs l) (hr : Sorts less ys r)
    (hle : l.length ≤ r.length) (hlt : r.length ≤ l.length + 1) :
    Yields (Orders less (xs ++ ys)) (Sorts less (xs ++ ys)) (mergeMeeting less l r) := by
  have hperm := hl.perm.append hr.perm
  have hmeets : Orders less (xs ++ ys) →
      mergeMeeting less l r = some (l.merge r fun x y => !less y x) := fun ho =>
    mergeMeeting_eq_merge (ho.subset hperm.subset)
      (hl.ordered (ho.subset (List.subset_append_left xs ys)))
      (hr.ordered (ho.subset (List.subset_append_right xs ys))) hle hlt
  refine ⟨fun zs hzs => Sorts.of_orders ((mergeMeeting_perm hle hzs).trans hperm) fun ho => ?_,
    fun ho => ⟨_, hmeets ho⟩⟩
  rw [← Option.some.inj ((hmeets ho).symm.trans hzs)]
  exact hl.merge hr

theorem yields_sortShort (xs : List α) :
    Yields (Orders less xs) (Sorts less xs) (sortShort less xs) := by
  have hfirst := @sorts_sortHalf _ less (decide (8 ≤ xs.length)) (xs.take (xs.length / 2))
  have hsecond := @sorts_sortHalf _ less (decide (8 ≤ xs.length)) (xs.drop (xs.length / 2))
  have hlengths := hfirst.perm.length_eq
  have hlengths' := hsecond.perm.length_eq
  rw [List.length_take] at hlengths
  rw [List.length_drop] at hlengths'
  have hyields := yields_mergeMeeting hfirst hsecond (by omega) (by omega)
  rwa [List.take_append_drop] at hyields

end TableQuery.Sorting
