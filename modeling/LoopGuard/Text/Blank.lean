import LoopGuard.Text.CharSet

/-!
# White space

The Unicode property White_Space, and text without it: `squash_whitespace`, with which tests compare
printed code regardless of its layout.
-/

namespace LoopGuard

namespace CharSet

/-- Characters of the property White_Space. -/
def whiteSpace : CharSet :=
  ⟨[9, 14, 32, 33, 133, 134, 160, 161, 5760, 5761, 8192, 8203, 8232, 8234, 8239, 8240, 8287, 8288,
   12288, 12289]⟩

end CharSet

/-- `squash_whitespace`: a text without its white space. -/
def withoutBlanks (s : String) : String :=
  String.ofList (s.toList.filter fun c => !CharSet.whiteSpace.contains c)

end LoopGuard
