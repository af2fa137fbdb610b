import LoopGuard.Loop.Call
import LoopGuard.Proofs.Execution.Process
import LoopGuard.Proofs.Syntax.Written

/-!
# Runs of statements

What statements do when they run. Nothing is known of an expression, of a simple statement or of a
step of an iterator but that it comes out somehow: with a value, or by throwing one. While it is
evaluated, functions of the same script or module may be called. The exception are the calls that
were put in, which go to a registry.

Results:
* `RegistryCall.ofNode?_reset`, `RegistryCall.ofNode?_guard`: what the inserted calls ask for.
* `RegistryCall.ofNode?_of_span`: no call of a source is taken for an inserted one.
-/

namespace LoopGuard

/-- Values, of which nothing is known but which of them count as true. -/
class Values (V : Type) where
  truthy : V → Bool
  /-- The value of a call that answers nothing. -/
  undefined : V
  truthy_undefined : truthy undefined = false

instance : Values Bool := ⟨id, false, rfl⟩

/-! ## Inserted calls -/

/-- What an inserted call asks of the registry. -/
inductive RegistryCall where
  | reset (options : ResetOptions)
  | guard (key : String)
  deriving Repr, DecidableEq, Inhabited

namespace Node

/-- The text that a string literal stands for. -/
def text? : Node → Option String
  | .leaf _ (.string value _) => some value
  | _ => none

/-- The whole number that a literal of decimal digits stands for. -/
def number? : Node → Option Nat
  | .leaf _ (.number raw) => some (Nat.ofDigitChars 10 raw.toList 0)
  | _ => none

/-- The value of a property of an object literal, if it has this key. -/
def property? (key : String) : Node → Option Node
  | .binary _ .keyValue left right => if left.text? = some key then some right else none
  | _ => none

/-- The options that an object literal stands for. -/
def resetOptions? : Node → Option ResetOptions
  | .group _ .object [key, file, line, column] => do
    return ⟨← (← key.property? "key").text?, ← (← file.property? "file").text?,
      ← (← line.property? "line").number?, ← (← column.property? "column").number?⟩
  | _ => none

theorem resetOptions?_node (o : ResetOptions) : o.node.resetOptions? = some o := by
  simp [ResetOptions.node, resetOptions?, madeProperty, property?, madeString, text?, madeNumber,
    number?]

/-- The word behind the point of a property access. -/
def word? : Node → Option String
  | .binary _ (.member false false) _ (.leaf _ (.name word)) => some word
  | _ => none

end Node

namespace RegistryCall

/-- The call that a node is, if it is an inserted one. -/
def ofNode? : Node → Option RegistryCall
  | .call .synthetic .call callee [arg] =>
    if callee.word? = some "reset" then arg.resetOptions?.map .reset
    else if callee.word? = some "guard" then arg.text?.map .guard
    else none
  | _ => none

theorem ofNode?_reset (a : Alias) (o : ResetOptions) :
    ofNode? (.madeCall (.madeMember a.node "reset") [o.node]) = some (.reset o) := by
  simp [ofNode?, Node.madeCall, Node.madeMember, Node.word?, Node.madeName, ResetOptions.node,
    Node.resetOptions?, Node.madeProperty, Node.property?, Node.madeString, Node.text?,
    Node.madeNumber, Node.number?]

theorem ofNode?_guard (a : Alias) (key : String) :
    ofNode? (.madeCall (.madeMember a.node "guard") [.madeString key]) = some (.guard key) := rfl

theorem ofNode?_of_span {n : Node} (h : n.span ≠ .synthetic) : ofNode? n = none := by
  unfold ofNode?
  split
  · exact absurd rfl h
  · rfl

theorem ofNode?_of_isWritten {n : Node} (h : n.IsWritten) : ofNode? n = none := by
  cases n with
  | call span form callee args =>
    rw [Node.isWritten_call] at h
    exact ofNode?_of_span h.1
  | _ => rfl

end RegistryCall

/-! ## Events -/

/-- What a node is evaluated for. -/
inductive Purpose where
  /-- Its value, or what it does. -/
  | value
  /-- Whether the subject of a `switch` is equal to it. -/
  | comparison
  /-- To start going over its elements. -/
  | enumeration
  /-- Whether there is one more element. -/
  | advance
  /-- To take an element, or what was thrown. -/
  | binding
  /-- To be done with its elements. -/
  | close
  deriving Repr, DecidableEq, Inhabited

/-- A way of ending that is not the normal one. -/
inductive Abrupt (V : Type) where
  | jumped (kind : JumpKind) (target : Option String)
  | returned (value : Option V)
  | threw (value : V)

namespace Abrupt

/-- Whether it leaves a statement that is left by jumps to this target. -/
def breaks (target : Option String) : Abrupt V → Bool
  | jumped .break t => t == target
  | _ => false

/-- Whether it goes on with the next iteration of a loop with these labels. -/
def continues (labels : List String) : Abrupt V → Bool
  | jumped .continue none => true
  | jumped .continue (some label) => labels.contains label
  | _ => false

end Abrupt

/-- How a statement ends. -/
abbrev Ending (V : Type) := Except (Abrupt V) Unit

/-- What can be seen of a run. -/
inductive Event (V : Type) where
  | evaluating (purpose : Purpose) (node : Node)
  /-- The innermost evaluation comes out. -/
  | answered (answer : Except V V)
  | called (body : Block)
  /-- The innermost call ends. -/
  | finished (ending : Ending V)
  | debugged (span : Span)
  | entered (loop : Span)
  /-- The body of a loop is about to run. -/
  | iterated (loop : Span)
  /-- A loop is left; what is left of its iterator is still to be closed. -/
  | exited (loop : Span) (ending : Ending V)
  | reset (options : ResetOptions)
  | guarded (key : String) (answer : Except V V)

/-- What runs and may end abruptly. -/
abbrev Run (V α : Type) := ExceptT (Abrupt V) (Proc (Event V)) α

namespace Run

variable {V α β : Type}

/-- Shows an event. -/
def emit (e : Event V) : Run V Unit := ExceptT.lift (Proc.emit e)

theorem run_emit_bind (e : Event V) (f : Unit → Run V β) :
    (emit e >>= f).run = Proc.emit e >>= fun _ => (f ()).run := by
  show (Proc.emit e >>= fun _ => pure (.ok ())) >>= ExceptT.bindCont f = _
  rw [bind_assoc]
  congr
  funext _
  exact pure_bind _ _

/-- Any one of a family of runs. -/
def choose {ι : Type} (f : ι → Run V α) : Run V α := ExceptT.mk (Proc.choose fun i => (f i).run)

theorem choose_bind {ι : Type} (f : ι → Run V α) (g : α → Run V β) :
    choose f >>= g = choose fun i => f i >>= g := Proc.choose_bind _ _

/-- Ends in a given way. -/
def ofEnding (r : Except (Abrupt V) α) : Run V α := ExceptT.mk (pure r)

/-- A run, and what follows it however it ends. -/
def handle (m : Run V α) (f : Except (Abrupt V) α → Run V β) : Run V β :=
  ExceptT.mk (m.run >>= fun r => (f r).run)

/-- A run that may be left by jumps to a target. -/
def breakable (target : Option String) (m : Run V Unit) : Run V Unit :=
  m.handle fun
    | .ok _ => pure ()
    | .error a => if a.breaks target then pure () else ofEnding (.error a)

/-- So many rounds at most, as long as they answer that there is one more. -/
def rounds (round : Run V Bool) : Nat → Run V Unit
  | 0 => ExceptT.mk Proc.halted
  | n + 1 => do if ← round then rounds round n

/-- Rounds as long as they answer that there is one more. -/
def forever (round : Run V Bool) : Run V Unit := choose (rounds round)

/-- A value, or an exception. -/
def ofAnswer : Except V V → Run V V
  | .ok v => pure v
  | .error v => ofEnding (.error (.threw v))

variable [Values V]

/-- Evaluates a node; told what may be called meanwhile. -/
def evaluate (inner : Proc (Event V) Unit) (purpose : Purpose) (n : Node) : Run V V :=
  match RegistryCall.ofNode? n with
  | some (.reset o) => do
    emit (.reset o)
    return Values.undefined
  | some (.guard key) => choose fun answer => do
    emit (.guarded key answer)
    ofAnswer answer
  | none => do
    emit (.evaluating purpose n)
    ExceptT.lift inner
    choose fun answer => do
      emit (.answered answer)
      ofAnswer answer

/-- Evaluates a node that may be missing. -/
def evaluate? (inner : Proc (Event V) Unit) (purpose : Purpose) : Option Node → Run V (Option V)
  | none => return none
  | some n => return some (← evaluate inner purpose n)

/-- Whether a node comes out true. -/
def holds (inner : Proc (Event V) Unit) (purpose : Purpose) (n : Node) : Run V Bool := do
  return Values.truthy (← evaluate inner purpose n)

/-- Whether a node comes out true or is missing. -/
def holds? (inner : Proc (Event V) Unit) (purpose : Purpose) : Option Node → Run V Bool
  | none => return true
  | some n => holds inner purpose n

/-! ### Beginnings of runs -/

section Runs

variable {τ τ₁ τ₂ : List (Event V)}

omit [Values V]

theorem runs_emit_bind {e : Event V} {f : Unit → Run V β} {r : Option (Except (Abrupt V) β)}
    (h : (f ()).run.runs τ r) : (emit e >>= f).run.runs (e :: τ) r := by
  rw [run_emit_bind]
  exact .inr ⟨(), [e], τ, .inr rfl, h, rfl⟩

theorem runs_handle {m : Run V α} {f : Except (Abrupt V) α → Run V β} {a : Except (Abrupt V) α}
    {r : Option (Except (Abrupt V) β)} (hm : m.run.runs τ₁ (some a)) (hf : (f a).run.runs τ₂ r) :
    (m.handle f).run.runs (τ₁ ++ τ₂) r := .inr ⟨a, τ₁, τ₂, hm, hf, rfl⟩

theorem runs_bind_nil {m : Run V α} {f : α → Run V β} {a : α} {r : Option (Except (Abrupt V) β)}
    (hm : m.run.runs τ (some (.ok a))) (hf : (f a).run.runs [] r) : (m >>= f).run.runs τ r :=
  .inr ⟨.ok a, τ, [], hm, hf, List.append_nil τ⟩

theorem runs_bind_of_error {m : Run V α} {f : α → Run V β} {e : Abrupt V}
    (hm : m.run.runs τ (some (.error e))) : (m >>= f).run.runs τ (some (.error e)) := by
  refine .inr ⟨.error e, τ, [], hm, ⟨rfl, ?_⟩, List.append_nil τ⟩
  exact fun _ h => (Option.some.inj h).symm

theorem runs_ofEnding {r : Except (Abrupt V) α} : (ofEnding r).run.runs [] (some r) :=
  ⟨rfl, fun _ h => (Option.some.inj h).symm⟩

end Runs

end Run

end LoopGuard
