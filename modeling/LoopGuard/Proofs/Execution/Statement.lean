import LoopGuard.Proofs.Execution.Run
import LoopGuard.Proofs.Syntax.Parts

/-!
# Running a script or module

What statements do: lists, blocks, `if`, `switch` with clauses that run into each other, the five
loops, the jumps, labels, `return`, `throw` and `try`. Values of statements are left out.

Whenever a node is evaluated, functions of the script or module may be called, any of them, any
number of times, and also from within one another; after the last statement the host may call them
too. What is said about all runs holds whatever the nodes do.

Results:
* `Stmt.run_reset`, `Stmt.run_guard`: what the inserted statements do.
-/

namespace LoopGuard

variable {V : Type} [Values V]

/-! ## Pieces of statements -/

/-- A round of a loop: its body, left by a `break` and gone on with after a `continue`. Whether
there may be one more round. -/
def Stmt.iteration (span : Span) (labels : List String) (body : Run V Unit) : Run V Bool := do
  Run.emit (.iterated span)
  body.handle fun
    | .ok _ => pure true
    | .error a =>
      if a.continues labels then pure true
      else if a.breaks none then pure false
      else Run.ofEnding (.error a)

namespace LoopHead

/-- The rounds of a loop over the elements of its right side. -/
def runOver (inner : Proc (Event V) Unit) (iteration : Run V Bool) (left right : Node) :
    Run V Unit := do
  let _ ← Run.evaluate inner .enumeration right
  Run.forever do
    if ← Run.holds inner .advance right then
      let _ ← Run.evaluate inner .binding left
      iteration
    else return false

/-- The rounds of a loop. -/
def run (inner : Proc (Event V) Unit) (iteration : Run V Bool) : LoopHead → Run V Unit
  | .while test => Run.forever do
    if ← Run.holds inner .value test then iteration else return false
  | .doWhile test => Run.forever do
    if ← iteration then Run.holds inner .value test else return false
  | .for init test update => do
    let _ ← Run.evaluate? inner .value init
    Run.forever do
      if ← Run.holds? inner .value test then
        if ← iteration then
          let _ ← Run.evaluate? inner .value update
          return true
        else return false
      else return false
  | .forIn left right | .forOf _ left right => runOver inner iteration left right

/-- What is done when the rounds are over: a `for` over values is done with its iterator, and if
that fails it counts, unless something has been thrown already. -/
def leave (inner : Proc (Event V) Unit) (ending : Ending V) : LoopHead → Run V Unit
  | .forOf _ _ right => (Run.evaluate inner .close right).handle fun closing =>
    match ending, closing with
    | .error (.threw v), _ => Run.ofEnding (.error (.threw v))
    | _, .error a => Run.ofEnding (.error a)
    | _, .ok _ => Run.ofEnding ending
  | _ => Run.ofEnding ending

end LoopHead

/-- A loop with rounds. -/
def Stmt.runLoop (inner : Proc (Event V) Unit) (span : Span) (head : LoopHead)
    (iteration : Run V Bool) : Run V Unit := do
  Run.emit (.entered span)
  (head.run inner iteration).handle fun ending => do
    Run.emit (.exited span ending)
    head.leave inner ending

namespace Case

/-- Whether the clause is the `default` clause. -/
def isDefault : Case → Bool
  | .mk _ test _ => test.isNone

/-- How many clauses are skipped by a `switch`: those before the first one with a test that is equal
to the subject, and if there is none those before the `default` clause, or all. The first argument
counts the clauses passed over already, the second one is the answer if no test is equal. -/
def skipped (inner : Proc (Event V) Unit) (otherwise : Nat) : Nat → List Case → Run V Nat
  | _, [] => return otherwise
  | passed, .mk _ none _ :: rest => skipped inner otherwise (passed + 1) rest
  | passed, .mk _ (some test) _ :: rest => do
    if ← Run.holds inner .comparison test then return passed
    else skipped inner otherwise (passed + 1) rest

end Case

/-! ## Statements -/

mutual

/-- Runs a block. -/
def Block.run (inner : Proc (Event V) Unit) : Block → Run V Unit
  | .mk _ stmts => Stmt.runAll inner stmts

/-- Runs a block that may be missing. -/
def Block.run? (inner : Proc (Event V) Unit) : Option Block → Run V Unit
  | none => pure ()
  | some b => b.run inner

/-- Runs the statements of a list. -/
def Stmt.runAll (inner : Proc (Event V) Unit) : List Stmt → Run V Unit
  | [] => pure ()
  | s :: rest => do
    s.run inner []
    Stmt.runAll inner rest

/-- Runs a statement that may be missing. -/
def Stmt.run? (inner : Proc (Event V) Unit) : Option Stmt → Run V Unit
  | none => pure ()
  | some s => s.run inner []

/-- Runs a statement; told the labels that it bears. -/
def Stmt.run (inner : Proc (Event V) Unit) (labels : List String) : Stmt → Run V Unit
  | .empty _ => pure ()
  | .debugger span => Run.emit (.debugged span)
  | .expression _ n | .declaration n => do
    let _ ← Run.evaluate inner .value n
  | .block b => b.run inner
  | .return _ value => do
    let v ← Run.evaluate? inner .value value
    Run.ofEnding (.error (.returned v))
  | .throw _ value => do
    let v ← Run.evaluate inner .value value
    Run.ofEnding (.error (.threw v))
  | .jump _ kind target => Run.ofEnding (.error (.jumped kind (target.map (·.text))))
  | .labeled _ label body => Run.breakable (some label.text) (body.run inner (label.text :: labels))
  | .withObject _ object body => do
    let _ ← Run.evaluate inner .value object
    body.run inner []
  | .branch _ test yes no => do
    if ← Run.holds inner .value test then yes.run inner [] else Stmt.run? inner no
  | .switch _ subject cases => do
    let _ ← Run.evaluate inner .value subject
    let skipped ← Case.skipped inner (cases.findIdx (·.isDefault)) 0 cases
    Run.breakable none (Case.runFrom inner skipped cases)
  | .try _ body handler finalizer =>
    (Handler.run? inner (body.run inner) handler).handle fun ending => do
      Block.run? inner finalizer
      Run.ofEnding ending
  | .loop span head body =>
    Stmt.runLoop inner span head (Stmt.iteration span labels (body.run inner []))

/-- Runs the clauses of a `switch` one after the other, but for so many that are skipped. -/
def Case.runFrom (inner : Proc (Event V) Unit) : Nat → List Case → Run V Unit
  | _, [] => pure ()
  | 0, .mk _ _ body :: rest => do
    Stmt.runAll inner body
    Case.runFrom inner 0 rest
  | skipped + 1, .mk _ _ _ :: rest => Case.runFrom inner skipped rest

/-- Runs what a `catch` clause that may be missing belongs to, and the clause if something is
thrown. -/
def Handler.run? (inner : Proc (Event V) Unit) (body : Run V Unit) : Option Handler → Run V Unit
  | none => body
  | some (.mk _ param block) => body.handle fun
    | .error (.threw _) => do
      let _ ← Run.evaluate? inner .binding param
      block.run inner
    | ending => Run.ofEnding ending

end

attribute [simp] Block.run Block.run? Stmt.runAll Stmt.run? Stmt.run Case.runFrom Handler.run?

section Lists

variable (inner : Proc (Event V) Unit)

theorem Stmt.runAll_singleton (s : Stmt) : Stmt.runAll inner [s] = s.run inner [] := by
  rw [Stmt.runAll, Stmt.runAll]
  exact bind_pure _

theorem Stmt.runAll_append (xs ys : List Stmt) :
    Stmt.runAll inner (xs ++ ys) = Stmt.runAll inner xs >>= fun _ => Stmt.runAll inner ys := by
  induction xs with
  | nil => exact (pure_bind () fun _ => Stmt.runAll inner ys).symm
  | cons s rest ih => rw [List.cons_append, Stmt.runAll, Stmt.runAll, ih, bind_assoc]

theorem Stmt.run_reset (labels : List String) (a : Alias) (o : ResetOptions) :
    (Stmt.reset a o).run inner labels = Run.emit (.reset o) := by
  rw [Stmt.reset, Stmt.run, Run.evaluate, RegistryCall.ofNode?_reset]
  simp only [bind_assoc, pure_bind]
  exact bind_pure _

/-- A check leaves its loop if the answer counts as true. -/
theorem Stmt.run_guard (labels : List String) (a : Alias) (key : LoopKey) :
    (Stmt.guard a key).run inner labels = Run.choose fun answer => (do
      Run.emit (.guarded key.text answer)
      let v ← Run.ofAnswer answer
      if Values.truthy v then Run.ofEnding (.error (.jumped .break none)) else pure ()) := by
  rw [Stmt.guard, Stmt.run, Run.holds, Run.evaluate, RegistryCall.ofNode?_guard]
  simp only [Run.choose_bind, bind_assoc, pure_bind, Stmt.run, Stmt.run?, Option.map_none]

end Lists

/-! ## Scripts and modules -/

/-- Runs the elements of a script or module. -/
def Item.runAll (inner : Proc (Event V) Unit) : List Item → Run V Unit
  | [] => pure ()
  | .stmt s :: rest => do
    s.run inner []
    Item.runAll inner rest
  | .exportDecl _ n :: rest | .exportValue _ n :: rest | .exportDefault _ n :: rest => do
    let _ ← Run.evaluate inner .value n
    Item.runAll inner rest
  | .imports .. :: rest | .exportList .. :: rest | .exportAll .. :: rest => Item.runAll inner rest

theorem Item.runAll_append (inner : Proc (Event V) Unit) (stmts : List Stmt) (items : List Item) :
    Item.runAll inner (stmts.map .stmt ++ items) =
      Stmt.runAll inner stmts >>= fun _ => Item.runAll inner items := by
  induction stmts with
  | nil => exact (pure_bind () fun _ => Item.runAll inner items).symm
  | cons s rest ih =>
    rw [List.map_cons, List.cons_append, Item.runAll, Stmt.runAll, ih, bind_assoc]

/-- A call of one of these functions; told what may be called meanwhile. -/
def Block.call (inner : Proc (Event V) Unit) (bodies : List Block) : Proc (Event V) Unit :=
  Proc.choose fun b : { b // b ∈ bodies } => do
    Proc.emit (.called b)
    let ending ← (b.val.run inner).run
    Proc.emit (.finished ending)

/-- Calls of these functions, within one another up to a depth. -/
def Block.calls (bodies : List Block) : Nat → Proc (Event V) Unit
  | 0 => pure ()
  | depth + 1 => (Block.call (Block.calls bodies depth) bodies).star

/-- Runs a script or module. -/
def Program.run (p : Program) : Proc (Event V) (Ending V) :=
  Proc.choose fun depth => do
    let ending ← (Item.runAll (Block.calls p.bodies depth) p.items).run
    Block.calls p.bodies depth
    return ending

end LoopGuard
