import LoopGuard.SourceMap.Basic

/-!
# Composing source maps

`adjust_mappings`, which `InputSourceMap.compose` calls with the map of the printed code: a map of
some text, and a map that says where in that text the parts of a later text come from, give a map of
the later text. Both maps are taken as stretches of the text between them: a token reaches up to the
next one or the end of its line. Where two stretches overlap, a token comes about at the later one
of their starts, moved by as much as the outer token moves.

The program goes along both lists of stretches at once with two pointers. Here every stretch of the
outer map is met with every stretch of the inner one, which gives the same tokens in the same order.
Both maps are sorted before, with the unstable sort of `Sorting`, and what comes out is sorted
again.
-/

namespace LoopGuard

/-- A token and the part of a text it stands for: from `start` on, up to `stop`. -/
structure Stretch where
  start : Place
  stop : Place
  token : MapToken
  deriving Repr, DecidableEq, Inhabited

namespace Stretch

/-- A column behind every other one: the greatest number of 32 bits. -/
def endColumn : Nat := UInt32.size - 1

/-- The stretches of tokens in order. The last one of a line reaches up to the end of the line. -/
def stretchesFrom (key : MapToken → Place) : List MapToken → List Stretch
  | [] => []
  | t :: rest =>
    let start := key t
    let next : Place := (rest.head?.map key).getD ⟨endColumn, endColumn⟩
    ⟨start, next.min ⟨start.line, endColumn⟩, t⟩ :: stretchesFrom key rest

/-- The stretches of tokens, by some of their places. -/
def stretches (key : MapToken → Place) (ts : List MapToken) : List Stretch :=
  stretchesFrom key (MapToken.sortBy key ts)

/-- Whether two stretches share a part of the text. -/
def overlaps (a b : Stretch) : Bool := a.start.before b.stop && b.start.before a.stop

/-- A number of 32 bits moved by the way from `source` to `target`; it wraps around. -/
def shifted (n source target : Nat) : Nat := (((n : Int) + target - source) % UInt32.size).toNat

/-- The token of the overlap of a stretch of the inner map with one of the outer map: what the inner
token says of its source, at the later start, moved as the outer token moves its own place. -/
def joined (outer inner : Stretch) : MapToken :=
  let p := inner.start.max outer.start
  { inner.token with
    line := shifted p.line outer.token.sourceLine outer.token.line
    column := shifted p.column outer.token.sourceColumn outer.token.column }

end Stretch

namespace SourceMap

/-- `adjust_mappings`: the map of a later text, where `tokens` say where in the text of `m` its
parts come from. Everything but the tokens stays as it is in `m`. -/
def after (m : SourceMap) (tokens : List MapToken) : SourceMap :=
  let inner := Stretch.stretches MapToken.place m.tokens
  let outer := Stretch.stretches MapToken.sourcePlace tokens
  let joined := outer.flatMap fun o => (inner.filter (Stretch.overlaps o)).map (Stretch.joined o)
  { m with tokens := MapToken.sortBy MapToken.place joined }

end SourceMap

end LoopGuard
