import LoopGuard.Sorting
import Mathlib.Data.List.Pairwise
import Mathlib.Logic.Equiv.Basic
import Mathlib.Order.Nat

/-!
# Sorted lists are in order

Whatever way a list is sorted in, with a comparison that puts elements into an order, all its
elements come out, and none in front of a lesser one. Divisions are told by what goes to the front
and what to the back, heaps by their greatest element.

Results:
* `sort_perm`: sorting keeps the elements.
* `sort_inOrder`: no element of a sorted list is less than one in front of it.
* `sort_eq_self`: a list in order stays as it is.
-/

namespace LoopGuard

namespace Sorting

variable {α : Type} {less : α → α → Bool}

/-- Whether a comparison is one of an order, in which different elements may be equal. -/
structure IsOrder (less : α → α → Bool) : Prop where
  asymm : ∀ {a b}, less a b = true → less b a = false
  /-- What is no less than something no less is no less itself. -/
  trans : ∀ {a b c}, less a b = false → less b c = false → less a c = false

/-- Whether no element of a list is less than one in front of it. -/
def InOrder (less : α → α → Bool) (xs : List α) : Prop := xs.Pairwise fun a b => less b a = false

theorem IsOrder.irrefl (h : IsOrder less) (a : α) : less a a = false := by
  by_contra ha
  rw [Bool.not_eq_false] at ha
  exact absurd (h.asymm ha) (by simp [ha])

/-! ## Short lists and runs -/

theorem stable_perm (less : α → α → Bool) (xs : List α) : (stable less xs).Perm xs :=
  List.mergeSort_perm _ _

theorem stable_inOrder (h : IsOrder less) (xs : List α) : InOrder less (stable less xs) := by
  have hsorted : (stable less xs).Pairwise fun a b => (!less b a) = true := by
    refine List.pairwise_mergeSort ?_ ?_ xs
    · intro a b c hab hbc
      rw [Bool.not_eq_true'] at hab hbc ⊢
      exact h.trans hbc hab
    · intro a b
      cases hba : less b a with
      | false => rfl
      | true => rw [h.asymm hba]; rfl
  exact hsorted.imp fun hab => by simpa using hab

theorem inOrder_of_isAscending (h : IsOrder less) {xs : List α}
    (ha : isAscending less xs = true) : InOrder less xs := by
  fun_induction isAscending less xs with
  | case1 a b rest ih =>
    rw [Bool.and_eq_true, Bool.not_eq_true'] at ha
    have hrest : InOrder less (b :: rest) := ih ha.2
    refine List.pairwise_cons.2 ⟨?_, hrest⟩
    rw [List.forall_mem_cons]
    exact ⟨ha.1, fun c hc => h.trans (List.rel_of_pairwise_cons hrest hc) ha.1⟩
  | case2 xs hshort =>
    rcases xs with - | ⟨a, - | ⟨b, rest⟩⟩
    · exact .nil
    · exact List.pairwise_singleton _ a
    · exact absurd rfl (hshort a b rest)

theorem isAscending_of_inOrder {xs : List α} (h : InOrder less xs) :
    isAscending less xs = true := by
  fun_induction isAscending less xs with
  | case1 a b rest ih =>
    rw [Bool.and_eq_true, Bool.not_eq_true']
    exact ⟨List.rel_of_pairwise_cons h (List.mem_cons_self ..), ih (List.pairwise_cons.1 h).2⟩
  | case2 => rfl

theorem inOrder_reverse_of_isDescending (h : IsOrder less) {xs : List α}
    (hd : isDescending less xs = true) : InOrder less xs.reverse := by
  refine List.pairwise_reverse.2 ?_
  fun_induction isDescending less xs with
  | case1 a b rest ih =>
    rw [Bool.and_eq_true] at hd
    have hrest := ih hd.2
    refine List.pairwise_cons.2 ⟨?_, hrest⟩
    rw [List.forall_mem_cons]
    exact ⟨h.asymm hd.1, fun c hc => h.trans (h.asymm hd.1) (List.rel_of_pairwise_cons hrest hc)⟩
  | case2 xs hshort =>
    rcases xs with - | ⟨a, - | ⟨b, rest⟩⟩
    · exact .nil
    · exact List.pairwise_singleton _ a
    · exact absurd rfl (hshort a b rest)

/-! ## Heaps -/

/-- The index of the node that a node of a heap is below. -/
def parent (node : Nat) : Nat := (node - 1) / 2

theorem lessAt_of_lt {xs : Array α} {i j : Nat} (hi : i < xs.size) (hj : j < xs.size) :
    lessAt less xs i j = less xs[i] xs[j] := by
  simp [lessAt, hi, hj]

theorem lessAt_asymm (h : IsOrder less) {xs : Array α} {i j : Nat}
    (hij : lessAt less xs i j = true) : lessAt less xs j i = false := by
  unfold lessAt at hij ⊢
  cases hi : xs[i]? <;> cases hj : xs[j]? <;> simp_all [h.asymm]

theorem lessAt_trans (h : IsOrder less) {xs : Array α} {i j k : Nat} (hj : j < xs.size)
    (hij : lessAt less xs i j = false) (hjk : lessAt less xs j k = false) :
    lessAt less xs i k = false := by
  unfold lessAt at hij hjk ⊢
  cases hi : xs[i]? <;> cases hk : xs[k]? <;> simp_all
  exact h.trans hij hjk

theorem getElem?_swapped {xs : Array α} {i j : Nat} (hi : i < xs.size) (hj : j < xs.size)
    (k : Nat) : (xs.swapIfInBounds i j)[k]? = xs[Equiv.swap i j k]? := by
  rw [Array.swapIfInBounds_def, dif_pos hi, dif_pos hj, Array.getElem?_swap]
  by_cases hkj : j = k
  · subst hkj
    rw [if_pos rfl, Equiv.swap_apply_right, Array.getElem?_eq_getElem hi]
  · by_cases hki : i = k
    · subst hki
      rw [if_neg hkj, if_pos rfl, Equiv.swap_apply_left, Array.getElem?_eq_getElem hj]
    · rw [if_neg hkj, if_neg hki, Equiv.swap_apply_of_ne_of_ne (Ne.symm hki) (Ne.symm hkj)]

theorem lessAt_swapped {xs : Array α} {i j : Nat} (hi : i < xs.size) (hj : j < xs.size)
    (k l : Nat) : lessAt less (xs.swapIfInBounds i j) k l =
      lessAt less xs (Equiv.swap i j k) (Equiv.swap i j l) := by
  rw [lessAt, lessAt, getElem?_swapped hi hj, getElem?_swapped hi hj]

theorem swapped_perm (xs : Array α) (i j : Nat) : (xs.swapIfInBounds i j).Perm xs := by
  rw [Array.swapIfInBounds_def]
  split_ifs
  · exact Array.swap_perm _ _
  · exact .refl _
  · exact .refl _

/-- Whether, among the first `size` elements, no node from `least` on is less than one below it. -/
def Heap (less : α → α → Bool) (size least : Nat) (xs : Array α) : Prop :=
  ∀ c, 0 < c → c < size → least ≤ parent c → lessAt less xs (parent c) c = false

/-- Whether these are the elements of a heap but for one node, which may be less than those below
it. -/
structure Sifting (less : α → α → Bool) (size least node : Nat) (xs : Array α) : Prop where
  least_le : least ≤ node
  size_le : size ≤ xs.size
  others : ∀ c, 0 < c → c < size → least ≤ parent c → parent c ≠ node →
    lessAt less xs (parent c) c = false
  /-- What is below the node is not greater than what is above it. -/
  around : 0 < node → least ≤ parent node → ∀ c, 0 < c → c < size → parent c = node →
    lessAt less xs (parent node) c = false

/-- The greater one of the nodes right below a node of a heap. -/
def greaterChild (less : α → α → Bool) (size node : Nat) (xs : Array α) : Nat :=
  if 2 * node + 1 + 1 < size && lessAt less xs (2 * node + 1) (2 * node + 1 + 1) then
    2 * node + 1 + 1
  else 2 * node + 1

theorem siftDown_zero (less : α → α → Bool) (size node : Nat) (xs : Array α) :
    siftDown less size 0 node xs = xs := rfl

theorem siftDown_succ (less : α → α → Bool) (size fuel node : Nat) (xs : Array α) :
    siftDown less size (fuel + 1) node xs =
      if 2 * node + 1 ≥ size || !lessAt less xs node (greaterChild less size node xs) then xs
      else siftDown less size fuel (greaterChild less size node xs)
        (xs.swapIfInBounds node (greaterChild less size node xs)) := rfl

theorem parent_greaterChild (less : α → α → Bool) (size node : Nat) (xs : Array α) :
    0 < greaterChild less size node xs ∧ parent (greaterChild less size node xs) = node := by
  unfold greaterChild parent
  split <;> omega

theorem greaterChild_lt {size node : Nat} {xs : Array α} (h : 2 * node + 1 < size) :
    greaterChild less size node xs < size := by
  unfold greaterChild
  split
  · simp_all
  · exact h

theorem not_less_of_parent (h : IsOrder less) {size node c : Nat} {xs : Array α} (hpos : 0 < c)
    (hc : c < size) (hparent : parent c = node) :
    lessAt less xs (greaterChild less size node xs) c = false := by
  have hirrefl (i : Nat) : lessAt less xs i i = false := by
    by_contra hi
    rw [Bool.not_eq_false] at hi
    exact absurd (lessAt_asymm h hi) (by simp [hi])
  have hcases : c = 2 * node + 1 ∨ c = 2 * node + 1 + 1 := by
    unfold parent at hparent
    omega
  unfold greaterChild
  split
  case isTrue hright =>
    rw [Bool.and_eq_true] at hright
    rcases hcases with rfl | rfl
    · exact lessAt_asymm h hright.2
    · exact hirrefl _
  case isFalse hleft =>
    rcases hcases with rfl | rfl
    · exact hirrefl _
    · simpa [hc] using hleft

/-- A node that is no less than what is below it completes the heap. -/
theorem Sifting.heap {size least node : Nat} {xs : Array α} (h : Sifting less size least node xs)
    (hbelow : ∀ c, 0 < c → c < size → parent c = node → lessAt less xs node c = false) :
    Heap less size least xs := by
  intro c hpos hc hleast
  by_cases hparent : parent c = node
  · rw [hparent]
    exact hbelow c hpos hc hparent
  · exact h.others c hpos hc hleast hparent

/-- A node that is less than the greater one below it changes places with that. -/
theorem Sifting.step (ho : IsOrder less) {size least node : Nat} {xs : Array α}
    (h : Sifting less size least node xs) (hbelow : 2 * node + 1 < size)
    (hless : lessAt less xs node (greaterChild less size node xs) = true) :
    Sifting less size least (greaterChild less size node xs)
      (xs.swapIfInBounds node (greaterChild less size node xs)) := by
  obtain ⟨hpos, hparent⟩ := parent_greaterChild less size node xs
  have hlt : greaterChild less size node xs < size := greaterChild_lt hbelow
  have hbelow_le (c : Nat) (hcpos : 0 < c) (hc : c < size) (hcnode : parent c = node) :
      lessAt less xs (greaterChild less size node xs) c = false :=
    not_less_of_parent ho hcpos hc hcnode
  generalize greaterChild less size node xs = child at *
  have hnode : node < child := by unfold parent at hparent; omega
  have hswap (k l : Nat) : lessAt less (xs.swapIfInBounds node child) k l = _ :=
    lessAt_swapped (by have := h.size_le; omega) (by have := h.size_le; omega) k l
  constructor
  · exact h.least_le.trans hnode.le
  · rw [Array.size_swapIfInBounds]
    exact h.size_le
  · intro c hcpos hc hleast hother
    rw [hswap]
    by_cases hcnode : parent c = node
    · -- What is below the node now has the greater child above it.
      rw [hcnode, Equiv.swap_apply_left]
      by_cases hcc : c = child
      · rw [hcc, Equiv.swap_apply_right]
        exact lessAt_asymm ho hless
      · have hcn : c ≠ node := by unfold parent at hcnode; omega
        rw [Equiv.swap_apply_of_ne_of_ne hcn hcc]
        exact hbelow_le c hcpos hc hcnode
    · have hcc : c ≠ child := by
        rintro rfl
        exact hcnode hparent
      rw [Equiv.swap_apply_of_ne_of_ne hcnode hother]
      by_cases hcn : c = node
      · subst hcn
        rw [Equiv.swap_apply_left]
        exact h.around hcpos hleast child hpos hlt hparent
      · rw [Equiv.swap_apply_of_ne_of_ne hcn hcc]
        exact h.others c hcpos hc hleast hcnode
  · intro _ hleast c hcpos hc hcparent
    have hcn : c ≠ node := by unfold parent at hcparent; omega
    have hcc : c ≠ child := by unfold parent at hcparent; omega
    rw [hswap, hparent, Equiv.swap_apply_left, Equiv.swap_apply_of_ne_of_ne hcn hcc]
    have hold := h.others c hcpos hc (by rw [hcparent]; exact h.least_le.trans hnode.le)
      (by rw [hcparent]; exact hnode.ne')
    rwa [hcparent] at hold

/-- Moving a node down completes the heap. -/
theorem heap_siftDown (ho : IsOrder less) {size least fuel node : Nat} {xs : Array α}
    (h : Sifting less size least node xs) (hfuel : size ≤ fuel + node) :
    Heap less size least (siftDown less size fuel node xs) := by
  induction fuel generalizing node xs with
  | zero =>
    rw [siftDown_zero]
    refine h.heap fun c _ hc hparent => ?_
    unfold parent at hparent
    omega
  | succ fuel ih =>
    rw [siftDown_succ]
    split
    case isTrue hstop =>
      refine h.heap fun c hpos hc hparent => ?_
      have hleft : 2 * node + 1 ≤ c := by
        unfold parent at hparent
        omega
      have hgreater : lessAt less xs node (greaterChild less size node xs) = false := by
        simpa [show ¬ size ≤ 2 * node + 1 by omega] using hstop
      have hlt : greaterChild less size node xs < size := greaterChild_lt (by omega)
      have hbound : greaterChild less size node xs < xs.size := hlt.trans_le h.size_le
      exact lessAt_trans ho hbound hgreater (not_less_of_parent ho hpos hc hparent)
    case isFalse hgo =>
      rw [Bool.or_eq_true, not_or, decide_eq_true_eq, Bool.not_eq_true', Bool.not_eq_false] at hgo
      obtain ⟨hleft, hless⟩ := hgo
      have hnode : node < greaterChild less size node xs := by
        have := parent_greaterChild less size node xs
        unfold parent at this
        omega
      exact ih (h.step ho (by omega) hless) (by omega)

/-- Moving a node down keeps the elements, and changes only the places in the heap, whose elements
stay in it. -/
structure Keeps (size : Nat) (xs ys : Array α) : Prop where
  perm : ys.Perm xs
  behind : ∀ i, size ≤ i → ys[i]? = xs[i]?
  inside : ∀ i < size, ∃ j < size, ys[i]? = xs[j]?

theorem Keeps.refl (size : Nat) (xs : Array α) : Keeps size xs xs :=
  ⟨.refl _, fun _ _ => rfl, fun i hi => ⟨i, hi, rfl⟩⟩

theorem Keeps.trans {size : Nat} {xs ys zs : Array α} (h₁ : Keeps size xs ys)
    (h₂ : Keeps size ys zs) : Keeps size xs zs where
  perm := h₂.perm.trans h₁.perm
  behind i hi := (h₂.behind i hi).trans (h₁.behind i hi)
  inside i hi := by
    obtain ⟨j, hj, hij⟩ := h₂.inside i hi
    obtain ⟨k, hk, hjk⟩ := h₁.inside j hj
    exact ⟨k, hk, hij.trans hjk⟩

theorem keeps_swapped {size : Nat} {xs : Array α} {i j : Nat} (hi : i < size) (hj : j < size)
    (hsize : size ≤ xs.size) : Keeps size xs (xs.swapIfInBounds i j) where
  perm := swapped_perm xs i j
  behind k hk := by
    rw [getElem?_swapped (by omega) (by omega),
      Equiv.swap_apply_of_ne_of_ne (by omega) (by omega)]
  inside k hk := by
    refine ⟨Equiv.swap i j k, ?_, getElem?_swapped (by omega) (by omega) k⟩
    rw [Equiv.swap_apply_def]
    split_ifs <;> assumption

theorem keeps_siftDown {size : Nat} (fuel : Nat) {node : Nat} {xs : Array α}
    (hsize : size ≤ xs.size) : Keeps size xs (siftDown less size fuel node xs) := by
  induction fuel generalizing node xs with
  | zero => exact .refl _ _
  | succ fuel ih =>
    rw [siftDown_succ]
    split
    · exact .refl _ _
    case isFalse hgo =>
      rw [Bool.or_eq_true, not_or, decide_eq_true_eq] at hgo
      have hlt : greaterChild less size node xs < size := greaterChild_lt (by omega)
      refine (keeps_swapped (by omega) hlt hsize).trans (ih ?_)
      rw [Array.size_swapIfInBounds]
      exact hsize

/-! ### Sorting by a heap -/

/-- One step of sorting by a heap of `n` elements: first the nodes are moved down, the last ones
first, then the greatest element goes behind the others, time and again. -/
def heapStep (less : α → α → Bool) (n : Nat) (xs : Array α) (i : Nat) : Array α :=
  if i ≥ n then siftDown less n n (i - n) xs
  else siftDown less i n 0 (xs.swapIfInBounds 0 i)

/-- The steps from one number down. -/
def heapSteps (less : α → α → Bool) (n m : Nat) (xs : Array α) : Array α :=
  (List.range m).reverse.foldl (heapStep less n) xs

theorem heapSort_eq (less : α → α → Bool) (xs : List α) :
    heapSort less xs =
      (heapSteps less xs.length (xs.length + xs.length / 2) xs.toArray).toList := rfl

theorem heapSteps_succ (less : α → α → Bool) (n m : Nat) (xs : Array α) :
    heapSteps less n (m + 1) xs = heapSteps less n m (heapStep less n xs m) := by
  rw [heapSteps, List.range_succ, List.reverse_concat, List.foldl_cons]
  rfl

theorem heapStep_perm {n i : Nat} {xs : Array α} (hn : xs.size = n) :
    (heapStep less n xs i).Perm xs := by
  unfold heapStep
  split
  · exact (keeps_siftDown n hn.ge).perm
  · refine (keeps_siftDown n ?_).perm.trans (swapped_perm xs 0 i)
    rw [Array.size_swapIfInBounds]
    omega

theorem heapSteps_perm {n : Nat} (m : Nat) {xs : Array α} (hn : xs.size = n) :
    (heapSteps less n m xs).Perm xs := by
  induction m generalizing xs with
  | zero => exact .refl _
  | succ m ih =>
    rw [heapSteps_succ]
    have hstep : (heapStep less n xs m).Perm xs := heapStep_perm hn
    exact (ih (hstep.size_eq.trans hn)).trans hstep

/-- Whether the elements from `m` on are in order and no less than any in front of them. -/
def Settled (less : α → α → Bool) (m : Nat) (xs : Array α) : Prop :=
  ∀ a b, a < b → m ≤ b → b < xs.size → lessAt less xs b a = false

/-- The first element of a heap is its greatest. -/
theorem Heap.root (ho : IsOrder less) {size : Nat} {xs : Array α} (h : Heap less size 0 xs)
    (hsize : size ≤ xs.size) {i : Nat} (hi : i < size) : lessAt less xs 0 i = false := by
  induction i using Nat.strongRecOn with
  | _ i ih =>
    rcases Nat.eq_zero_or_pos i with rfl | hpos
    · rw [lessAt_of_lt (by omega) (by omega)]
      exact ho.irrefl _
    · have hlt : parent i < i := by unfold parent; omega
      exact lessAt_trans ho (by omega) (ih _ hlt (by omega)) (h i hpos hi (Nat.zero_le _))

/-- The greatest element of a heap goes behind the others. -/
theorem settle (ho : IsOrder less) {n m : Nat} {xs : Array α} (hn : xs.size = n) (hm : m < n)
    (hheap : Heap less (m + 1) 0 xs) (hsettled : Settled less (m + 1) xs) :
    Heap less m 0 (heapStep less n xs m) ∧ Settled less m (heapStep less n xs m) := by
  have hswap (k : Nat) : (xs.swapIfInBounds 0 m)[k]? = xs[Equiv.swap 0 m k]? :=
    getElem?_swapped (by omega) (by omega) k
  have hlessAt (k l : Nat) : lessAt less (xs.swapIfInBounds 0 m) k l =
      lessAt less xs (Equiv.swap 0 m k) (Equiv.swap 0 m l) :=
    lessAt_swapped (by omega) (by omega) k l
  have hsize : (xs.swapIfInBounds 0 m).size = n := by rw [Array.size_swapIfInBounds, hn]
  rw [heapStep, if_neg (by omega)]
  generalize xs.swapIfInBounds 0 m = ys at hswap hlessAt hsize
  constructor
  · refine heap_siftDown ho ⟨Nat.le_refl _, by omega, ?_, fun h => absurd h (Nat.lt_irrefl _)⟩
      (by omega)
    intro c hpos hc _ hparent
    rw [hlessAt, Equiv.swap_apply_of_ne_of_ne hparent (by unfold parent; omega),
      Equiv.swap_apply_of_ne_of_ne (by omega) (by omega)]
    exact hheap c hpos (by omega) (Nat.zero_le _)
  · -- What is behind the heap stays; what is in it was in it, or in the place of its root.
    have hkeeps : Keeps m ys (siftDown less m n 0 ys) := keeps_siftDown n (by omega)
    have hys : ∀ a b, a < b → m ≤ b → b < n → lessAt less ys b a = false := by
      intro a b hab hmb hb
      rw [hlessAt]
      rcases Nat.eq_or_lt_of_le hmb with rfl | hmb
      · rw [Equiv.swap_apply_right]
        refine hheap.root ho (by omega) ?_
        rw [Equiv.swap_apply_def]
        split_ifs <;> omega
      · rw [Equiv.swap_apply_of_ne_of_ne (by omega) (by omega)]
        refine hsettled _ _ ?_ hmb (by omega)
        rw [Equiv.swap_apply_def]
        split_ifs <;> omega
    intro a b hab hmb hb
    rw [hkeeps.perm.size_eq] at hb
    rw [lessAt, hkeeps.behind b hmb]
    by_cases ham : a < m
    · obtain ⟨a', ha', heq⟩ := hkeeps.inside a ham
      rw [heq]
      exact hys a' b (by omega) hmb (by omega)
    · rw [hkeeps.behind a (by omega)]
      exact hys a b hab hmb (by omega)

theorem settled_heapSteps (ho : IsOrder less) {n m : Nat} {xs : Array α} (hn : xs.size = n)
    (hm : m ≤ n) (hheap : Heap less m 0 xs) (hsettled : Settled less m xs) :
    Settled less 0 (heapSteps less n m xs) := by
  induction m generalizing xs with
  | zero => exact hsettled
  | succ m ih =>
    rw [heapSteps_succ]
    obtain ⟨hheap', hsettled'⟩ := settle ho hn (by omega) hheap hsettled
    exact ih ((heapStep_perm hn).size_eq.trans hn) (by omega) hheap' hsettled'

theorem settled_of_heap (ho : IsOrder less) {n : Nat} (k : Nat) {xs : Array α} (hn : xs.size = n)
    (hheap : Heap less n k xs) : Settled less 0 (heapSteps less n (n + k) xs) := by
  induction k generalizing xs with
  | zero =>
    refine settled_heapSteps ho hn (Nat.le_refl n) hheap ?_
    intro a b _ hnb hb
    omega
  | succ k ih =>
    rw [← Nat.add_assoc, heapSteps_succ]
    refine ih ((heapStep_perm hn).size_eq.trans hn) ?_
    rw [heapStep, if_pos (by omega), Nat.add_sub_cancel_left]
    refine heap_siftDown ho ⟨Nat.le_refl k, hn.ge, ?_, ?_⟩ (by omega)
    · intro c hpos hc hk hparent
      exact hheap c hpos hc (by omega)
    · intro hpos hk
      unfold parent at hk
      omega

theorem heapSort_perm (less : α → α → Bool) (xs : List α) : (heapSort less xs).Perm xs := by
  rw [heapSort_eq]
  exact (heapSteps_perm _ (by simp)).toList

theorem heapSort_inOrder (ho : IsOrder less) (xs : List α) : InOrder less (heapSort less xs) := by
  have hsettled : Settled less 0
      (heapSteps less xs.length (xs.length + xs.length / 2) xs.toArray) := by
    refine settled_of_heap ho _ (by simp) ?_
    intro c hpos hc hparent
    unfold parent at hparent
    omega
  rw [heapSort_eq]
  refine List.pairwise_iff_getElem.2 fun i j hi hj hij => ?_
  have hij := hsettled i j hij (Nat.zero_le _) hj
  rwa [lessAt_of_lt hj hi] at hij

/-! ## Pivots -/

theorem median_cases (less : α → α → Bool) (xs : Array α) (a b c : Nat) :
    median less xs a b c = a ∨ median less xs a b c = b ∨ median less xs a b c = c := by
  unfold median
  dsimp only
  split_ifs <;> simp

/-- A median of medians stands in one of the stretches it is taken from. -/
theorem pseudoMedian_lt (less : α → α → Bool) (xs : Array α) {fuel a b c n bound : Nat}
    (hn : 0 < n) (ha : a + n ≤ bound) (hb : b + n ≤ bound) (hc : c + n ≤ bound) :
    pseudoMedian less xs fuel a b c n < bound := by
  induction fuel generalizing a b c n bound with
  | zero =>
    rw [pseudoMedian]
    rcases median_cases less xs a b c with h | h | h <;> omega
  | succ fuel ih =>
    rw [pseudoMedian]
    split
    · rcases median_cases less xs a b c with h | h | h <;> omega
    · have hof (i : Nat) (hi : i + n ≤ bound) :
          pseudoMedian less xs fuel i (i + n / 8 * 4) (i + n / 8 * 7) (n / 8) < bound :=
        ih (by omega) (by omega) (by omega) (by omega)
      dsimp only
      rcases median_cases less xs
        (pseudoMedian less xs fuel a (a + n / 8 * 4) (a + n / 8 * 7) (n / 8))
        (pseudoMedian less xs fuel b (b + n / 8 * 4) (b + n / 8 * 7) (n / 8))
        (pseudoMedian less xs fuel c (c + n / 8 * 4) (c + n / 8 * 7) (n / 8)) with h | h | h <;>
        rw [h]
      · exact hof a ha
      · exact hof b hb
      · exact hof c hc

/-- The pivot of a long list is one of its elements. -/
theorem pivotIndex_lt (less : α → α → Bool) {xs : Array α} (h : partLength < xs.size) :
    pivotIndex less xs < xs.size := by
  unfold partLength at h
  exact pseudoMedian_lt less xs (by omega) (by omega) (by omega) (by omega)

theorem exists_takePivot {xs : List α} {i : Nat} (h : i < xs.length) :
    ∃ pivot others, takePivot xs i = some (pivot, others) ∧ (pivot :: others).Perm xs := by
  cases xs with
  | nil => cases h
  | cons first rest =>
    cases i with
    | zero => exact ⟨first, rest, rfl, .refl _⟩
    | succ i =>
      have hi : i < rest.length := Nat.lt_of_succ_lt_succ h
      refine ⟨rest[i], rest.set i first, by simp [takePivot, hi], ?_⟩
      have hsplit : rest = rest.take i ++ rest[i] :: rest.drop (i + 1) := by simp
      rw [List.set_eq_take_append_cons_drop, if_pos hi]
      conv => rhs; rw [hsplit]
      refine (List.perm_middle.cons _).trans ((List.Perm.swap _ _ _).trans ?_)
      exact List.perm_middle.symm.cons _

/-! ## Divisions -/

/-- What is divided goes to the front or to the back as it is told to. -/
theorem foldl_divideStep_forall (isFront : α → Bool) {xs : List α} {parts : List α × List α}
    (hfront : ∀ a ∈ parts.1, isFront a = true) (hback : ∀ a ∈ parts.2, isFront a = false) :
    (∀ a ∈ (xs.foldl (divideStep isFront) parts).1, isFront a = true) ∧
      ∀ a ∈ (xs.foldl (divideStep isFront) parts).2, isFront a = false := by
  induction xs generalizing parts with
  | nil => exact ⟨hfront, hback⟩
  | cons a rest ih =>
    have hturned : ∀ b ∈ parts.2.tail ++ parts.2.head?.toList, isFront b = false :=
      fun b hb => hback b ((tail_append_head_perm parts.2).mem_iff.1 hb)
    rw [List.foldl_cons]
    refine ih ?_ ?_
    · unfold divideStep
      split
      case isTrue ha => exact List.forall_mem_append.2 ⟨hfront, List.forall_mem_singleton.2 ha⟩
      case isFalse => exact hfront
    · unfold divideStep
      split
      case isTrue => exact hturned
      case isFalse ha =>
        rw [Bool.not_eq_true] at ha
        exact List.forall_mem_cons.2 ⟨ha, hturned⟩

theorem divide_forall (isFront : α → Bool) (xs : List α) :
    (∀ a ∈ (divide isFront xs).1, isFront a = true) ∧
      ∀ a ∈ (divide isFront xs).2, isFront a = false :=
  foldl_divideStep_forall isFront (by simp) (by simp)

theorem turnBack_perm (xs : List α) : (turnBack xs).Perm xs := by
  rcases List.eq_nil_or_concat xs with rfl | ⟨front, a, rfl⟩
  · exact .refl _
  · simpa [turnBack] using (List.perm_append_singleton a front).symm

/-! ## Long lists -/

theorem sortPart_perm (less : α → α → Bool) (limit : Nat) (ancestor : Option α) (xs : List α) :
    (sortPart less limit ancestor xs).Perm xs := by
  induction limit generalizing ancestor xs with
  | zero =>
    unfold sortPart
    split
    · exact stable_perm less xs
    · exact heapSort_perm less xs
  | succ limit ih =>
    unfold sortPart
    split
    · exact stable_perm less xs
    case isFalse hlong =>
      have hsize : partLength < xs.toArray.size := by simpa using hlong
      obtain ⟨pivot, others, htake, hperm⟩ := exists_takePivot (pivotIndex_lt less hsize)
      rw [htake]
      dsimp only
      refine List.Perm.trans ?_ hperm
      split
      · refine List.perm_middle.trans (List.Perm.cons pivot ?_)
        exact ((turnBack_perm _).append (ih _ _)).trans (divide_append_perm _ _)
      · refine List.perm_middle.trans (List.Perm.cons pivot ?_)
        exact (((ih _ _).trans (turnBack_perm _)).append (ih _ _)).trans (divide_append_perm _ _)

theorem InOrder.append {pivot : α} {front back : List α} (ho : IsOrder less)
    (hf : InOrder less front) (hb : InOrder less back) (hfront : ∀ a ∈ front, less pivot a = false)
    (hback : ∀ b ∈ back, less b pivot = false) : InOrder less (front ++ pivot :: back) := by
  refine List.pairwise_append.2 ⟨hf, List.pairwise_cons.2 ⟨hback, hb⟩, fun a ha b hb => ?_⟩
  rcases List.mem_cons.1 hb with rfl | hb
  · exact hfront a ha
  · exact ho.trans (hback b hb) (hfront a ha)

/-- A part of a list comes in order, if the pivot in front of it is not greater than any of it. -/
theorem sortPart_inOrder (ho : IsOrder less) (limit : Nat) {ancestor : Option α} {xs : List α}
    (hancestor : ∀ a ∈ ancestor, ∀ x ∈ xs, less x a = false) :
    InOrder less (sortPart less limit ancestor xs) := by
  induction limit generalizing ancestor xs with
  | zero =>
    unfold sortPart
    split
    · exact stable_inOrder ho xs
    · exact heapSort_inOrder ho xs
  | succ limit ih =>
    unfold sortPart
    split
    · exact stable_inOrder ho xs
    case isFalse hlong =>
      have hsize : partLength < xs.toArray.size := by simpa using hlong
      obtain ⟨pivot, others, htake, hperm⟩ := exists_takePivot (pivotIndex_lt less hsize)
      rw [htake]
      dsimp only
      have hothers : ∀ a ∈ ancestor, ∀ x ∈ others, less x a = false := fun a ha x hx =>
        hancestor a ha x (hperm.mem_iff.1 (List.mem_cons_of_mem _ hx))
      split
      case isTrue hleast =>
        -- The pivot is the least element, so all that goes to the front equals it.
        obtain ⟨a, ha, hleast⟩ : ∃ a ∈ ancestor, less a pivot = false := by
          obtain ⟨a, ha, h⟩ := Option.any_eq_true _ _ |>.1 hleast
          exact ⟨a, ha, by simpa using h⟩
        obtain ⟨hfront, hback⟩ := divide_forall (fun x => !less pivot x) others
        have hmem (x : α) := (divide_append_perm (fun x => !less pivot x) others).mem_iff (a := x)
        generalize divide (fun x => !less pivot x) others = parts at hfront hback hmem
        have hfront : ∀ x ∈ turnBack parts.1, less pivot x = false := fun x hx => by
          simpa using hfront x ((turnBack_perm _).mem_iff.1 hx)
        refine InOrder.append ho ?_ (ih (by simp)) hfront ?_
        · refine List.pairwise_of_forall_mem_list fun x hx y hy => ?_
          have hy' : y ∈ others :=
            (hmem _).1 (List.mem_append_left _ ((turnBack_perm _).mem_iff.1 hy))
          exact ho.trans (hothers a ha y hy') (ho.trans hleast (hfront x hx))
        · intro x hx
          have hx := hback x ((sortPart_perm _ _ _ _).mem_iff.1 hx)
          exact ho.asymm (by simpa using hx)
      case isFalse =>
        obtain ⟨hfront, hback⟩ := divide_forall (less · pivot) others
        have hmem (x : α) := (divide_append_perm (less · pivot) others).mem_iff (a := x)
        generalize divide (less · pivot) others = parts at hfront hback hmem
        refine InOrder.append ho (ih fun a ha x hx => ?_) (ih fun a ha x hx => ?_) ?_ ?_
        · have hx' := (turnBack_perm _).mem_iff.1 hx
          exact hothers a ha x ((hmem _).1 (List.mem_append_left _ hx'))
        · cases ha
          exact hback x hx
        · intro x hx
          exact ho.asymm (hfront x
            ((turnBack_perm _).mem_iff.1 ((sortPart_perm _ _ _ _).mem_iff.1 hx)))
        · intro x hx
          exact hback x ((sortPart_perm _ _ _ _).mem_iff.1 hx)

/-! ## All lists -/

/-- Sorting keeps the elements. -/
theorem sort_perm (less : α → α → Bool) (xs : List α) : (sort less xs).Perm xs := by
  unfold sort
  split_ifs
  · exact stable_perm less xs
  · exact .refl _
  · exact List.reverse_perm xs
  · exact sortPart_perm less _ none xs

/-- No element of a sorted list is less than one in front of it. -/
theorem sort_inOrder (ho : IsOrder less) (xs : List α) : InOrder less (sort less xs) := by
  unfold sort
  split_ifs with _ hasc hdesc
  · exact stable_inOrder ho xs
  · exact inOrder_of_isAscending ho hasc
  · exact inOrder_reverse_of_isDescending ho hdesc
  · exact sortPart_inOrder ho _ (by simp)

/-- A list that is in order stays as it is. -/
theorem sort_eq_self {xs : List α} (h : InOrder less xs) : sort less xs = xs := by
  unfold sort
  split_ifs with _ hasc
  · refine List.mergeSort_of_pairwise (h.imp fun hab => ?_)
    rw [hab]
    rfl
  · rfl
  · exact absurd (isAscending_of_inOrder h) hasc
  · exact absurd (isAscending_of_inOrder h) hasc

end Sorting

end LoopGuard
