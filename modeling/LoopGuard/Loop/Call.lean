import LoopGuard.Loop.Alias
import LoopGuard.Loop.Site

/-!
# Inserted calls

The two statements put around a loop: the call that starts its clock, and the check that leaves it.
`Snippets` makes them as text, has the text parsed and drops its spans. Here they are trees whose
parts have synthetic spans, so the printer writes them without source map entries. That the two ways
lead to the same statements is proved of `Snippet.reset` and `Snippet.guard`, which are the texts.
-/

namespace LoopGuard

namespace Node

/-- A name without a place. -/
def madeName (text : String) : Node := .leaf .synthetic (.name text)

/-- A string literal without a place, spelled as its JSON text. -/
def madeString (value : String) : Node := .leaf .synthetic (.string value (Json.quote value))

/-- A whole number without a place, spelled in decimal digits. -/
def madeNumber (n : Nat) : Node := .leaf .synthetic (.number (Nat.repr n))

/-- A property access without a place: the object, a point, and the name of the property. -/
def madeMember (object : Node) (property : String) : Node :=
  .binary .synthetic (.member false false) object (madeName property)

/-- A call without a place. -/
def madeCall (callee : Node) (args : List Node) : Node := .call .synthetic .call callee args

/-- A property of an object literal without a place; its key is a string. -/
def madeProperty (key : String) (value : Node) : Node :=
  .binary .synthetic .keyValue (madeString key) value

end Node

/-- The alias as an expression: its first name, and an access to each of the properties. -/
def Alias.node (a : Alias) : Node := a.properties.foldl Node.madeMember (Node.madeName a.root)

/-- The options as an object literal, in the order of their JSON text. -/
def ResetOptions.node (o : ResetOptions) : Node :=
  .group .synthetic .object
    [.madeProperty "key" (.madeString o.key), .madeProperty "file" (.madeString o.file),
     .madeProperty "line" (.madeNumber o.line), .madeProperty "column" (.madeNumber o.column)]

namespace Stmt

/-- The call that starts a loop's clock: `alias.reset({…});`. -/
def reset (a : Alias) (o : ResetOptions) : Stmt :=
  .expression .synthetic (.madeCall (.madeMember a.node "reset") [o.node])

/-- The check that leaves a loop: `if (alias.guard(key)) break;`. -/
def guard (a : Alias) (key : LoopKey) : Stmt :=
  .branch .synthetic (.madeCall (.madeMember a.node "guard") [.madeString key.text])
    (.jump .synthetic .break none) none

end Stmt

end LoopGuard
