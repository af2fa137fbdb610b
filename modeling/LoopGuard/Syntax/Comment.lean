/-!
# Comments

The comments of `swc_common`. They are kept beside the tree, attached to offsets: in front of the
token that starts at an offset, or behind the token that ends there. The printer takes the comments
of an offset out when it writes them, so each is written at most once, and those of an offset that
no rule of the printer visits are lost.
-/

namespace LoopGuard

/-- The characters that end a line for the grammar: the two of every text, and the two separators of
Unicode, which the line table does not know. -/
def isLineBreak (c : Char) : Bool :=
  c == '\n' || c == '\r' || c == '\u2028' || c == '\u2029'

/-- How a comment is delimited. -/
inductive CommentKind where
  | line
  | block
  deriving Repr, DecidableEq, Inhabited

/-- A comment: where it stands, delimiters included, and the text between its delimiters. -/
structure Comment where
  kind : CommentKind
  lo : Nat
  hi : Nat
  text : List Char
  deriving Repr, DecidableEq, Inhabited

/-- Whether what is written behind the comment stands on another line than what is written in front
of it. -/
def Comment.breaksLine (c : Comment) : Bool := c.kind == .line || c.text.any isLineBreak

/-- A comment together with the offset it is attached to. -/
structure AttachedComment where
  offset : Nat
  comment : Comment
  deriving Repr, DecidableEq, Inhabited

/-- The comments of a source text, in source order: `SingleThreadedComments`. -/
structure Comments where
  leading : Array AttachedComment
  trailing : Array AttachedComment
  deriving Repr, DecidableEq, Inhabited

namespace Comments

/-- No comments. -/
def none : Comments := ⟨#[], #[]⟩

/-- The comments attached to `offset` in a list of attached comments. -/
def attached (offset : Nat) (cs : Array AttachedComment) : List Comment :=
  (cs.toList.filter (·.offset == offset)).map (·.comment)

/-- The other comments. -/
def detached (offset : Nat) (cs : Array AttachedComment) : Array AttachedComment :=
  cs.filter (·.offset != offset)

/-- The comments in front of `offset`, and what remains without them: `take_leading`. -/
def takeLeading (offset : Nat) (cs : Comments) : List Comment × Comments :=
  (attached offset cs.leading, { cs with leading := detached offset cs.leading })

/-- The comments behind `offset`, and what remains without them: `take_trailing`. -/
def takeTrailing (offset : Nat) (cs : Comments) : List Comment × Comments :=
  (attached offset cs.trailing, { cs with trailing := detached offset cs.trailing })

end Comments

end LoopGuard
