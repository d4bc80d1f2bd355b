/-!
# Sorting — a stable sort that may find its order contradictory

Elements are sorted by a test `less`, which says whether an element comes before another; elements
of which neither comes before the other keep their places.  A few elements are sorted by insertion.
More of them are cut into **runs**, which are merged two by two; a run is a stretch that is sorted
already, or one that is sorted now, or one that is left unsorted until it has to be merged.

A sort of a short stretch merges its halves from both ends at a time.  The ends meet if `less` is an
order; if they do not, the sort gives up, and the result is `none`.  A sort that does not give up
need not have sorted anything, if `less` is no order.
-/

namespace TableQuery.Sorting

variable {α : Type} (less : α → α → Bool)

/-! ## Short stretches -/

/-- Puts an element behind the last of the sorted ones that it does not come before.  The sorted
ones are given last one first. -/
def insertBehind (x : α) : List α → List α
  | [] => [x]
  | y :: rest => if less x y then y :: insertBehind x rest else x :: y :: rest

/-- Puts elements into sorted ones, one after the other. -/
def insertAll (sorted xs : List α) : List α :=
  (xs.foldl (fun done x => insertBehind less x done) sorted.reverse).reverse

/-- Two elements in order. -/
def sortTwo (x y : α) : α × α := if less y x then (y, x) else (x, y)

/-- Two sorted pairs in order: their first elements and their last ones are compared, and then the
two that are left. -/
def joinPairs (ab cd : α × α) : List α :=
  let (a, b) := ab
  let (c, d) := cd
  let first := if less c a then c else a
  let last := if less d b then b else d
  let left := if less c a then a else if less d b then c else b
  let right := if less d b then d else if less c a then b else c
  let middle := sortTwo less left right
  [first, middle.1, middle.2, last]

/-- Four elements in order. -/
def sortFour (p q r s : α) : List α := joinPairs less (sortTwo less p q) (sortTwo less r s)

/-- Sorts half of a stretch by insertion, with a start of four elements if the stretch is long
enough for that. -/
def sortHalf (long : Bool) (xs : List α) : List α :=
  match long, xs with
  | true, p :: q :: r :: s :: rest => insertAll less (sortFour less p q r s) rest
  | _, xs => insertAll less [] xs

/-- The first `n` elements of two sorted lists put together, and what is left of either list. -/
def mergeSteps : Nat → List α → List α → List α × List α × List α
  | 0, l, r => ([], l, r)
  | n + 1, [], r => (r.take (n + 1), [], r.drop (n + 1))
  | n + 1, l, [] => (l.take (n + 1), l.drop (n + 1), [])
  | n + 1, x :: l, y :: r =>
    if less y x then
      let (front, rest) := mergeSteps n (x :: l) r
      (y :: front, rest)
    else
      let (front, rest) := mergeSteps n l (y :: r)
      (x :: front, rest)

/-- Merges a list with one that is as long or longer by one element.  As many elements as the first
list has are taken in front, and as many at the back; where an element is left between them, it is
taken from the first list if that has one left.  The sort gives up if the two ends do not meet. -/
def mergeMeeting (l r : List α) : Option (List α) :=
  let (front, l₁, r₁) := mergeSteps less l.length l r
  let (back, _, l₂) := mergeSteps (fun x y => less y x) l.length r.reverse l.reverse
  let between := r.length - l.length
  let fromLeft := if l.length < l₁.length + l₂.length then between else 0
  if l₁.length + l₂.length = l.length + fromLeft then
    some (front ++ (l₁.take fromLeft ++ r₁.take (between - fromLeft)) ++ back.reverse)
  else none

/-- Sorts a short stretch. -/
def sortShort (xs : List α) : Option (List α) :=
  let half := xs.length / 2
  let long := decide (8 ≤ xs.length)
  mergeMeeting less (sortHalf less long (xs.take half)) (sortHalf less long (xs.drop half))

/-! ## Runs -/

/-- A stretch of the list, and whether its elements are in order. -/
structure Run (α : Type) where
  items : List α
  sorted : Bool

/-- What a stretch is found to be. -/
inductive Stretch where
  | rising
  | falling
  | short

/-- How many elements behind `x` go on as the run does: each of them comes before the one in front
of it if the run falls, and none does if it rises. -/
def runLength (falling : Bool) : α → List α → Nat
  | x, y :: rest => if less y x == falling then runLength falling y rest + 1 else 0
  | _, [] => 0

/-- What the list that starts with `x` begins with, and how many elements behind `x` belong to it.
A run must have `good` elements to be kept. -/
def stretch (eager : Bool) (good : Nat) (x : α) (rest : List α) : Stretch × Nat :=
  let falling := rest.head?.any fun y => less y x
  let n := runLength less falling x rest
  if good ≤ n + 1 then (if falling then .falling else .rising, n)
  else (.short, if eager then 31 else good - 1)

/-- A stretch as a run. -/
def Stretch.toRun (eager : Bool) (xs : List α) : Stretch → Option (Run α)
  | .rising => some ⟨xs, true⟩
  | .falling => some ⟨xs.reverse, true⟩
  | .short => if eager then (sortShort less xs).map (⟨·, true⟩) else some ⟨xs, false⟩

/-- Cuts a list into runs. -/
def runs (eager : Bool) (good : Nat) : List α → Option (List (Run α))
  | [] => some []
  | x :: rest =>
    let (kind, n) := stretch less eager good x rest
    do
      let first ← kind.toRun less eager (x :: rest.take n)
      let more ← runs eager good (rest.drop n)
      return first :: more
termination_by xs => xs.length
decreasing_by
  rw [List.length_drop, List.length_cons]
  omega

/-- How long a run must be to be kept, in a list of `n` elements: about as long as a square root. -/
def goodLength (n : Nat) : Nat :=
  if n ≤ 4096 then min (n - n / 2) 64
  else
    let shift := (1 + n.log2) / 2
    (Nat.pow 2 shift + n >>> shift) / 2

/-! ## Merging runs -/

/-- Merges two sorted lists, from the end at which the shorter one stands. -/
def mergeRuns (l r : List α) : List α :=
  if l.length ≤ r.length then l.merge r fun x y => !less y x
  else (r.reverse.merge l.reverse fun y x => !less y x).reverse

/-- The elements of a run in order; `later` sorts what was left unsorted. -/
def Run.settle (later : List α → Option (List α)) (run : Run α) : Option (List α) :=
  if run.sorted then some run.items else later run.items

/-- Two neighbouring runs as one.  Two unsorted ones stay unsorted as long as they have `room`. -/
def Run.join (later : List α → Option (List α)) (room : Nat) (left right : Run α) :
    Option (Run α) :=
  if left.sorted || right.sorted || decide (room < left.items.length + right.items.length) then do
    let l ← left.settle later
    let r ← right.settle later
    return ⟨mergeRuns less l r, true⟩
  else some ⟨left.items ++ right.items, false⟩

/-- The runs that wait to be merged, the last one first, each with its depth in the tree of
merges. -/
abbrev Stack (α : Type) := List (Run α × Nat)

/-- Merges the last run with those in front of it that lie as deep as `depth` or deeper. -/
def collapse (join : Run α → Run α → Option (Run α)) (depth : Nat) :
    Stack α → Run α → Option (Stack α × Run α)
  | [], last => some ([], last)
  | (left, d) :: stack, last =>
    if depth ≤ d then do collapse join depth stack (← join left last)
    else some ((left, d) :: stack, last)

/-- The depth at which two neighbouring runs are merged, in a list of `n` elements: how many binary
digits the places of their middles have in common.  The runs begin at `start` and `middle`, and the
second of them ends at `stop`. -/
def mergeDepth (n start middle stop : Nat) : Nat :=
  let scale := (Nat.pow 2 62 + n - 1) / n
  let differing := (scale * (start + middle)) ^^^ (scale * (middle + stop))
  if differing = 0 then 64 else 63 - differing.log2

/-- Merges the runs that wait, the last one and those that follow, which begin at `place`. -/
def gather (join : Run α → Run α → Option (Run α)) (n place : Nat) (stack : Stack α)
    (last : Run α) : List (Run α) → Option (Run α)
  | [] => (collapse join 0 stack last).map (·.2)
  | next :: rest => do
    let stop := place + next.items.length
    let depth := mergeDepth n (place - last.items.length) place stop
    let (stack, last) ← collapse join depth stack last
    gather join n stop ((last, depth) :: stack) next rest

/-- Sorts a list run by run.  An `eager` sort sorts short stretches at once, and any other leaves
them to `later`. -/
def sortRuns (eager : Bool) (later : List α → Option (List α)) (xs : List α) :
    Option (List α) := do
  let n := xs.length
  let room := max (n - n / 2) (min n 250000)
  match ← runs less eager (goodLength n) xs with
  | [] => return []
  | first :: rest =>
    (← gather (Run.join less later room) n first.items.length [] first rest).settle later

/-! ## Long lists -/

/-- The middle one of three elements. -/
def median (a b c : α) : α :=
  if less a b == less a c then if less b c == less a b then b else c else a

/-- An element that is likely to lie in the middle: the median of three places, or of the medians of
three parts if the list is long. -/
def sample (get : Nat → α) (m i : Nat) : α :=
  if m < 8 then median less (get i) (get (i + 4 * m)) (get (i + 7 * m))
  else median less (sample get (m / 8) i) (sample get (m / 8) (i + 4 * m))
    (sample get (m / 8) (i + 7 * m))
termination_by m

/-- Sorts what comes before a pivot and what does not by themselves.  Where nothing comes before the
pivot, the elements that tie with it are in place; that is known beforehand if the pivot does not
come behind the one that everything here was found not to come before.  After `limit` pivots the
rest is sorted run by run. -/
def quicksort (limit : Nat) (below : Option α) (xs : List α) : Option (List α) :=
  match limit, xs with
  | _, [] => some []
  | 0, xs => if xs.length ≤ 32 then sortShort less xs else sortRuns less true (sortShort less) xs
  | limit + 1, x :: rest =>
    if (x :: rest).length ≤ 32 then sortShort less (x :: rest)
    else
      let xs := x :: rest
      let pivot := sample less (xs.getD · x) (xs.length / 8) 0
      let before := xs.filter (less · pivot)
      if below.any (!less · pivot) || before.isEmpty then do
        let behind ← quicksort limit none (xs.filter (less pivot ·))
        return xs.filter (!less pivot ·) ++ behind
      else do
        let front ← quicksort limit below before
        let behind ← quicksort limit (some pivot) (xs.filter (!less · pivot))
        return front ++ behind

/-- **Sorts a list**, or finds that `less` contradicts itself. -/
def sort (xs : List α) : Option (List α) :=
  if xs.length ≤ 20 then some (insertAll less [] xs)
  else
    sortRuns less (decide (xs.length ≤ 64)) (fun ys => quicksort less (2 * ys.length.log2) none ys)
      xs

end TableQuery.Sorting
