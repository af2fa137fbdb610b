/-!
# Spans

The `Span` of `swc_common`: where a piece of syntax stands in the source it was read from. Offsets
count characters of the source from zero, where a `BytePos` counts bytes from one; syntax that was
made rather than read has no place at all, which is the dummy span.
-/

namespace LoopGuard

/-- The stretch of source a piece of syntax covers, or `synthetic` for syntax no source contains. -/
inductive Span where
  | synthetic
  | source (lo hi : Nat)
  deriving Repr, DecidableEq, Inhabited

namespace Span

/-- First offset of the stretch, which synthetic syntax does not have. -/
def lo? : Span → Option Nat
  | synthetic => none
  | source lo _ => some lo

/-- Offset just behind the stretch. -/
def hi? : Span → Option Nat
  | synthetic => none
  | source _ hi => some hi

/-- First offset, zero where there is none. -/
def lo (s : Span) : Nat := s.lo?.getD 0

/-- End offset, zero where there is none. -/
def hi (s : Span) : Nat := s.hi?.getD 0

/-- The empty stretch at an offset. -/
def point (offset : Nat) : Span := source offset offset

/-- From the start of the first to the end of the second, as an operation spans its operands. -/
def join (a b : Span) : Span := source a.lo b.hi

@[simp] theorem lo?_synthetic : lo? synthetic = none := rfl
@[simp] theorem hi?_synthetic : hi? synthetic = none := rfl
@[simp] theorem lo?_source (l h : Nat) : lo? (source l h) = some l := rfl
@[simp] theorem hi?_source (l h : Nat) : hi? (source l h) = some h := rfl
@[simp] theorem lo_source (l h : Nat) : lo (source l h) = l := rfl
@[simp] theorem hi_source (l h : Nat) : hi (source l h) = h := rfl

end Span

end LoopGuard
