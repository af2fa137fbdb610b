/-!
# Sets of characters

A set of characters given by its boundaries: the ascending list of code points at which membership
changes, starting outside. Tables of Unicode properties are written this way.
-/

namespace LoopGuard

/-- A set of characters, as the ascending code points at which membership changes. -/
structure CharSet where
  bounds : List Nat
  deriving Repr, DecidableEq, Inhabited

namespace CharSet

/-- Whether an odd number of the ascending bounds is at most `n`. -/
def crosses : List Nat → Nat → Bool
  | [], _ => false
  | b :: bs, n => if n < b then false else !crosses bs n

/-- Whether the character belongs to the set. -/
def contains (s : CharSet) (c : Char) : Bool := crosses s.bounds c.toNat

end CharSet

end LoopGuard
