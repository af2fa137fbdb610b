import LoopGuard.Loop.Call
import LoopGuard.Proofs.Syntax.Printer.Writer

/-!
# The text of a reset call

A reset call takes six lines: the options go on lines of their own, one level further in. Nothing of
it has a place, so its text depends on the depth it is written at and on nothing else.

Results:
* `Print.statement_reset`: the steps of writing a reset call.
* `Print.text_reset`: the text that is written.
-/

namespace LoopGuard

/-- The names of the path with points between them. -/
def Alias.path (a : Alias) : String := a.properties.foldl (fun front w => front ++ "." ++ w) a.root

namespace ResetOptions

/-- A line of the options in a reset call that is written at a depth. -/
def entryText (depth : Nat) (key value : String) : String :=
  Writer.spaces (depth + 1) ++ Json.quote key ++ ": " ++ value

/-- The text of these options in a reset call that is written at a depth. -/
def literalText (o : ResetOptions) (depth : Nat) : String :=
  "\x7b\n"
    ++ entryText depth "key" (Json.quote o.key) ++ ",\n"
    ++ entryText depth "file" (Json.quote o.file) ++ ",\n"
    ++ entryText depth "line" (Nat.repr o.line) ++ ",\n"
    ++ entryText depth "column" (Nat.repr o.column) ++ "\n"
    ++ Writer.spaces depth ++ "\x7d"

/-- The text of the reset call with these options, from the alias to the end of the last line, if it
is written at a depth. -/
def callText (o : ResetOptions) (guardAlias : String) (depth : Nat) : String :=
  guardAlias ++ ".reset(" ++ o.literalText depth ++ ");\n"

end ResetOptions

/-! ## Steps of known text -/

namespace Emit

/-- Whether a step at a depth adds this text; told whether the line is empty in front of it and
behind it. -/
def Lays (e : Emit Unit) (depth : Nat) (before : Bool) (text : String) (behind : Bool) : Prop :=
  ∀ w : Writer, w.indent = depth → w.atLineStart = before →
    (e.run w).2.text = w.text ++ text ∧ (e.run w).2.indent = depth ∧
      (e.run w).2.atLineStart = behind

namespace Lays

variable {e f : Emit Unit} {depth : Nat} {b b' b'' : Bool} {s s' : String}

theorem seq (he : Lays e depth b s b') (hf : Lays f depth b' s' b'') :
    Lays (e >>= fun _ => f) depth b (s ++ s') b'' := by
  intro w hindent hb
  obtain ⟨htext, hindent, hb⟩ := he w hindent hb
  obtain ⟨htext', hindent', hb'⟩ := hf _ hindent hb
  refine ⟨?_, hindent', hb'⟩
  rw [← String.append_assoc, ← htext]
  exact htext'

theorem congr (h : Lays e depth b s b') (hs : s = s') : Lays e depth b s' b' := hs ▸ h

theorem put (depth : Nat) (b : Bool) {s : String} (hs : s ≠ "") :
    Lays (put s) depth b (Writer.margin depth b ++ s) false := by
  rintro w rfl rfl
  exact ⟨w.text_write hs, w.indent_write, w.atLineStart_write hs⟩

/-- Text behind other text on its line. -/
theorem more (depth : Nat) (s : String) : Lays (Emit.put s) depth false s false := by
  by_cases hs : s = ""
  · rintro w rfl hb
    rw [hs]
    exact ⟨String.append_empty.symm, rfl, hb⟩
  · exact put depth false hs

theorem line (depth : Nat) : Lays line depth false "\n" true := by
  rintro w rfl hb
  refine ⟨?_, w.indent_endLine, w.atLineStart_endLine⟩
  show w.endLine.text = _
  rw [w.text_endLine, hb]
  rfl

theorem indented (h : Lays e (depth + 1) b s b') : Lays (indented e) depth b s b' := by
  rintro w rfl rfl
  obtain ⟨htext, hindent, hb⟩ := h { w with indent := w.indent + 1 } rfl rfl
  refine ⟨htext, ?_, hb⟩
  show (e.run { w with indent := w.indent + 1 }).2.indent - 1 = w.indent
  rw [hindent, Nat.add_sub_cancel]

end Lays

end Emit

namespace Print

open Emit Layout

/-! ## The steps -/

theorem node_madeString (value : String) : node (.madeString value) = put (Json.quote value) := by
  simp [Node.madeString, node, leaf, stringText, leading, markStart, markEnd]

theorem node_madeNumber (n : Nat) : node (.madeNumber n) = put (Nat.repr n) := by
  simp [Node.madeNumber, node, leaf, leading, markStart, leafText]

theorem node_madeName (text : String) : node (.madeName text) = put text := by
  simp [Node.madeName, node, leaf, leading, markStart, leafText]

/-- Whether a node is a name or a property access, as an alias is. -/
inductive IsPath : Node → Prop
  | name (text : String) : IsPath (.madeName text)
  | member (object : Node) (property : String) : IsPath (.madeMember object property)

theorem node_madeMember {object : Node} (h : IsPath object) (property : String) :
    node (.madeMember object property) = (do node object; put "."; put property) := by
  cases h <;>
    simp [Node.madeMember, node, binary, access, receiver, isNumber, isConstruction, isComputed,
      Node.madeName, swallowsPoint, point, WrittenChild.whole, leading, leadingBefore, markStart,
      markEnd, trailing, Node.span, leaf, leafText]

/-- Writes a line of the options. -/
def entry (key value : String) : Emit Unit := do
  put (Json.quote key)
  put ": "
  put value

theorem node_madeProperty (key : String) {value : Node} {text : String}
    (hspan : value.span = .synthetic) (h : node value = put text) :
    node (.madeProperty key value) = entry key text := by
  have hkey := node_madeString key
  simp only [Node.madeProperty, node, binary, hkey, h, WrittenChild.whole, leading, trailing,
    hspan, pure_bind]
  simp [entry]

theorem node_options (o : ResetOptions) : node o.node = (do
    put "\x7b"
    indented (eachOnCommaLine [entry "key" (Json.quote o.key), entry "file" (Json.quote o.file),
      entry "line" (Nat.repr o.line), entry "column" (Nat.repr o.column)])
    line
    put "\x7d") := by
  have hkey := node_madeProperty "key" rfl (node_madeString o.key)
  have hfile := node_madeProperty "file" rfl (node_madeString o.file)
  have hline := node_madeProperty "line" rfl (node_madeNumber o.line)
  have hcolumn := node_madeProperty "column" rfl (node_madeNumber o.column)
  simp [ResetOptions.node, node, group, groupChildren, nodes, hkey, hfile, hline, hcolumn, leading,
    markStart, markLast, hasLeadingLast]

/-- An alias is a name or a property access. -/
theorem isPath_alias (a : Alias) : IsPath a.node := by
  suffices h : ∀ (properties : List String) (n : Node), IsPath n →
      IsPath (properties.foldl Node.madeMember n) from h a.properties _ (.name a.root)
  intro properties
  induction properties with
  | nil => exact fun _ h => h
  | cons w rest ih => exact fun n _ => ih _ (.member n w)

theorem statement_reset (a : Alias) (o : ResetOptions) : statement (.reset a o) = (do
    node a.node
    put "."
    put "reset"
    put "("
    node o.node
    put ")"
    put ";"
    line) := by
  have hcallee := node_madeMember (isPath_alias a) "reset"
  have hspan : o.node.span = .synthetic := rfl
  simp only [Stmt.reset, statement, Node.madeCall, node, nodes, call, hcallee, finish, leading,
    markStart, trailing, parenthesized, elements, element, separated, receiver, isConstruction,
    hspan, WrittenChild.whole, trailingElement, List.map, pure_bind]
  simp [isCalleeWord, Node.madeMember, Node.span]

/-! ## The text -/

theorem lays_alias {a : Alias} (ha : a.root ≠ "") (depth : Nat) (b : Bool) :
    Lays (node a.node) depth b (Writer.margin depth b ++ a.path) false := by
  suffices h : ∀ (properties : List String) (n : Node) (text : String), IsPath n →
      Lays (node n) depth b (Writer.margin depth b ++ text) false →
      Lays (node (properties.foldl Node.madeMember n)) depth b (Writer.margin depth b ++
        properties.foldl (fun front w => front ++ "." ++ w) text) false by
    refine h a.properties _ a.root (.name a.root) ?_
    rw [node_madeName]
    exact .put depth b ha
  intro properties
  induction properties with
  | nil => exact fun _ _ _ h => h
  | cons w rest ih =>
    intro n text hn h
    refine ih _ _ (.member n w) ?_
    have hmember := h.seq ((Lays.more depth ".").seq (Lays.more depth w))
    rw [node_madeMember hn]
    simpa only [String.append_assoc] using hmember

theorem lays_entry (depth : Nat) (key : String) (hkey : Json.quote key ≠ "") (value : String) :
    Lays (entry key value) (depth + 1) true (ResetOptions.entryText depth key value) false := by
  have h : Lays (entry key value) (depth + 1) true _ false :=
    (Lays.put (depth + 1) true hkey).seq
      ((Lays.more (depth + 1) ": ").seq (Lays.more (depth + 1) value))
  refine h.congr ?_
  simp only [ResetOptions.entryText, String.append_assoc]
  rfl

theorem lays_options (o : ResetOptions) (depth : Nat) :
    Lays (node o.node) depth false (o.literalText depth) false := by
  have hline := Lays.line (depth + 1)
  have hcomma := Lays.more (depth + 1) ","
  have hkey := lays_entry depth "key" (by decide) (Json.quote o.key)
  have hfile := lays_entry depth "file" (by decide) (Json.quote o.file)
  have hlineEntry := lays_entry depth "line" (by decide) (Nat.repr o.line)
  have hcolumn := lays_entry depth "column" (by decide) (Nat.repr o.column)
  have hentries : Lays (eachOnCommaLine [entry "key" (Json.quote o.key),
      entry "file" (Json.quote o.file), entry "line" (Nat.repr o.line),
      entry "column" (Nat.repr o.column)]) (depth + 1) false _ false :=
    hline.seq (hkey.seq (hcomma.seq (hline.seq (hfile.seq (hcomma.seq
      (hline.seq (hlineEntry.seq (hcomma.seq (hline.seq hcolumn)))))))))
  rw [node_options]
  refine ((Lays.more depth "\x7b").seq (hentries.indented.seq
    ((Lays.line depth).seq (Lays.put depth true (by decide))))).congr ?_
  have hopen : "\x7b\n" = "\x7b" ++ "\n" := rfl
  have hnext : ",\n" = "," ++ "\n" := rfl
  simp only [ResetOptions.literalText, hopen, hnext, String.append_assoc]
  rfl

/-- What a reset call adds to a text. -/
theorem text_reset {a : Alias} (ha : a.root ≠ "") (o : ResetOptions) (w : Writer) :
    ((statement (.reset a o)).run w).2.text =
      w.text ++ (Writer.margin w.indent w.atLineStart ++ o.callText a.path w.indent) := by
  have hcall := (lays_alias ha w.indent w.atLineStart).seq ((Lays.more w.indent ".").seq
    ((Lays.more w.indent "reset").seq ((Lays.more w.indent "(").seq
      ((lays_options o w.indent).seq ((Lays.more w.indent ")").seq
        ((Lays.more w.indent ";").seq (Lays.line w.indent)))))))
  rw [← statement_reset] at hcall
  have hopen : ".reset(" = "." ++ ("reset" ++ "(") := rfl
  have hclose : ");\n" = ")" ++ (";" ++ "\n") := rfl
  rw [(hcall w rfl rfl).1]
  simp only [ResetOptions.callText, hopen, hclose, String.append_assoc]

end Print

end LoopGuard
