/-!
# Sorting

Sorting with a comparison, as the standard library's unstable sort does it to the tokens of a source
map. Short lists and lists that are in order already keep the order of elements that compare equal.
Longer ones are divided around pivots, and then the division decides which of two equal elements
comes first; since a look-up can show this, every step of it is fixed here.

The program sorts an array in place. Here a division answers two lists, which hold the elements in
the order in which the array has them after its swaps. Comparisons are total orders of places, so
what the sort does with other ones is left out.

Results:
* `divide_append_perm`: a division keeps the elements.
-/

namespace LoopGuard

namespace Sorting

variable {α : Type}

/-- How long a list may be that is never divided, but sorted by insertion. -/
def shortLength : Nat := 20

/-- How long a part of a longer list may be that is not divided further. -/
def partLength : Nat := 32

/-- A list in order, equal elements in the order they had: insertion one by one. -/
def stable (less : α → α → Bool) (xs : List α) : List α := xs.mergeSort fun a b => !less b a

/-- Whether no element is less than the one in front of it. -/
def isAscending (less : α → α → Bool) : List α → Bool
  | a :: b :: rest => !less b a && isAscending less (b :: rest)
  | _ => true

/-- Whether every element is less than the one in front of it. -/
def isDescending (less : α → α → Bool) : List α → Bool
  | a :: b :: rest => less b a && isDescending less (b :: rest)
  | _ => true

/-! ## Pivots -/

/-- Whether the element at one index is less than the one at another. -/
def lessAt (less : α → α → Bool) (xs : Array α) (i j : Nat) : Bool :=
  match xs[i]?, xs[j]? with
  | some a, some b => less a b
  | _, _ => false

/-- The index of the middle one of the elements at three indices. -/
def median (less : α → α → Bool) (xs : Array α) (a b c : Nat) : Nat :=
  let isBelow := lessAt less xs a b
  if isBelow == lessAt less xs a c then if lessAt less xs b c != isBelow then c else b
  else a

/-- The index of a median of medians: of the elements at three indices, or where each stands for a
stretch of `n ≥ 8` elements, of what is taken in the same way from each stretch. -/
def pseudoMedian (less : α → α → Bool) (xs : Array α) : Nat → Nat → Nat → Nat → Nat → Nat
  | 0, a, b, c, _ => median less xs a b c
  | fuel + 1, a, b, c, n =>
    if n < 8 then median less xs a b c
    else
      let of (i : Nat) : Nat :=
        pseudoMedian less xs fuel i (i + n / 8 * 4) (i + n / 8 * 7) (n / 8)
      median less xs (of a) (of b) (of c)

/-- The index of the element to divide a list around. -/
def pivotIndex (less : α → α → Bool) (xs : Array α) : Nat :=
  let n := xs.size / 8
  pseudoMedian less xs n 0 (n * 4) (n * 7) n

/-- The element at an index and the others, the first of which takes its place. -/
def takePivot : List α → Nat → Option (α × List α)
  | [], _ => none
  | first :: rest, 0 => some (first, rest)
  | first :: rest, i + 1 => rest[i]?.map fun pivot => (pivot, rest.set i first)

/-! ## Dividing -/

/-- One step of a division into what belongs in front of the pivot and what belongs behind it. Each
element goes to the end of the front or to the start of the back, and the back is turned by one. -/
def divideStep (isFront : α → Bool) (parts : List α × List α) (a : α) : List α × List α :=
  let turned := parts.2.tail ++ parts.2.head?.toList
  if isFront a then (parts.1 ++ [a], turned) else (parts.1, a :: turned)

/-- A division of a list. Its first element comes last. -/
def divide (isFront : α → Bool) (xs : List α) : List α × List α :=
  (xs.tail ++ xs.head?.toList).foldl (divideStep isFront) ([], [])

/-- A list with its last element in front. -/
def turnBack (xs : List α) : List α := xs.getLast?.toList ++ xs.dropLast

theorem tail_append_head_perm (xs : List α) : (xs.tail ++ xs.head?.toList).Perm xs := by
  cases xs with
  | nil => exact .refl _
  | cons a rest => exact List.perm_append_singleton a rest

theorem divideStep_perm (isFront : α → Bool) (parts : List α × List α) (a : α) :
    ((divideStep isFront parts a).1 ++ (divideStep isFront parts a).2).Perm
      (a :: (parts.1 ++ parts.2)) := by
  have h := tail_append_head_perm parts.2
  unfold divideStep
  split
  · simpa using (List.perm_middle (a := a)).trans ((h.append_left parts.1).cons a)
  · exact (List.perm_middle (a := a)).trans ((h.append_left parts.1).cons a)

theorem foldl_divideStep_perm (isFront : α → Bool) (xs : List α) (parts : List α × List α) :
    ((xs.foldl (divideStep isFront) parts).1 ++ (xs.foldl (divideStep isFront) parts).2).Perm
      (xs ++ (parts.1 ++ parts.2)) := by
  induction xs generalizing parts with
  | nil => exact .refl _
  | cons a rest ih =>
    exact (ih _).trans (((divideStep_perm isFront parts a).append_left rest).trans
      List.perm_middle)

theorem divide_append_perm (isFront : α → Bool) (xs : List α) :
    ((divide isFront xs).1 ++ (divide isFront xs).2).Perm xs := by
  have h := foldl_divideStep_perm isFront (xs.tail ++ xs.head?.toList) ([], [])
  rw [List.append_nil, List.append_nil] at h
  exact h.trans (tail_append_head_perm xs)

/-! ## Lists that divide badly -/

/-- Moves the element at an index of a heap of some size down to where it belongs. -/
def siftDown (less : α → α → Bool) (size : Nat) : Nat → Nat → Array α → Array α
  | 0, _, xs => xs
  | fuel + 1, node, xs =>
    let left := 2 * node + 1
    let child := if left + 1 < size && lessAt less xs left (left + 1) then left + 1 else left
    if left ≥ size || !lessAt less xs node child then xs
    else siftDown less size fuel child (xs.swapIfInBounds node child)

/-- A list in order, by a heap of its elements. -/
def heapSort (less : α → α → Bool) (xs : List α) : List α :=
  let n := xs.length
  let step (xs : Array α) (i : Nat) : Array α :=
    if i ≥ n then siftDown less n n (i - n) xs else siftDown less i n 0 (xs.swapIfInBounds 0 i)
  ((List.range (n + n / 2)).reverse.foldl step xs.toArray).toList

/-! ## Sorting -/

/-- A list in order, divided `limit` times in a row at most; `ancestor` is the pivot in front of it,
if there is one. A pivot that is no greater than that is the least element: then all that equal it
go to the front. -/
def sortPart (less : α → α → Bool) : Nat → Option α → List α → List α
  | 0, _, xs => if xs.length ≤ partLength then stable less xs else heapSort less xs
  | limit + 1, ancestor, xs =>
    if xs.length ≤ partLength then stable less xs
    else
      match takePivot xs (pivotIndex less xs.toArray) with
      | none => xs
      | some (pivot, others) =>
        if ancestor.any fun a => !less a pivot then
          let (front, back) := divide (fun a => !less pivot a) others
          turnBack front ++ pivot :: sortPart less limit none back
        else
          let (front, back) := divide (less · pivot) others
          sortPart less limit ancestor (turnBack front)
            ++ pivot :: sortPart less limit (some pivot) back

/-- A list in order. -/
def sort (less : α → α → Bool) (xs : List α) : List α :=
  if xs.length ≤ shortLength then stable less xs
  else if isAscending less xs then xs
  else if isDescending less xs then xs.reverse
  else sortPart less (2 * Nat.log2 xs.length) none xs

end Sorting

end LoopGuard
