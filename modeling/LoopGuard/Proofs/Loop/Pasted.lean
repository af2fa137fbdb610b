import LoopGuard.Loop.Snippet
import LoopGuard.Proofs.Execution.Run
import LoopGuard.Proofs.Syntax.Parser.Phrases

/-!
# Calls that are read back

The calls around a loop are texts: the alias, and behind it the data of the loop as JSON. What such
a text is read as is known before it is read. The alias is the same path of names in each of its
surroundings, since its characters are characters of names, its first name is no word of the
grammar, and a property may be any word. The JSON is a literal of the same value, whatever file it
names.

Results:
* `Alias.spells_of_ofString?`: what an accepted alias is made of.
* `Stmt.ofText?_of_reads`: a text whose tokens are known is the statement they are read as.
* `Snippet.spelled_resetText`, `Snippet.spelled_guardText`: the tokens of the two texts.
* `Snippet.ofText?_alias`, `Snippet.ofText?_reset`, `Snippet.ofText?_guard`: what they are read as.
* `Snippet.calls_read_back`: the calls exist for every alias and site, and carry the site's data.
-/

namespace LoopGuard

/-! ## Aliases -/

namespace Alias

theorem isWord_of_isName {cs : List Char} (h : isName cs = true) : Lexer.IsWord cs := by
  cases cs with
  | nil => cases h
  | cons c cs =>
    rw [isName, Bool.and_eq_true, List.all_eq_true] at h
    have hstart := isNameStart_of_isStart h.1
    refine ⟨⟨c, rfl, hstart⟩, List.forall_mem_cons.2 ⟨Lexer.isNamePart_of_isNameStart hstart, ?_⟩⟩
    exact fun d hd => isNamePart_of_isPart (h.2 d hd)

/-- A name is no mark. -/
theorem notMem_marks {w : String} (h : Lexer.IsWord w.toList) : w ∉ Lexer.marks := by
  obtain ⟨c, hc, hstart⟩ := h.start
  intro hmem
  have hmarks : ∀ m ∈ Lexer.marks, m.toList.head?.all (!Lexer.isNameStart ·) = true := by decide
  have hother := (Option.all_eq_true _ _).1 (hmarks w hmem) c hc
  rw [hstart] at hother
  cases hother

theorem segments_ne_nil (cs : List Char) : segments cs ≠ [] := by
  cases cs with
  | nil => exact List.cons_ne_nil _ _
  | cons c cs =>
    rw [segments]
    split
    · exact List.cons_ne_nil _ _
    · split <;> exact List.cons_ne_nil _ _

/-- The pieces with points between them are the text. -/
theorem eq_of_segments {cs : List Char} {s : List Char} {more : List (List Char)}
    (h : segments cs = s :: more) : cs = s ++ more.flatMap ('.' :: ·) := by
  induction cs generalizing s more with
  | nil =>
    cases h
    rfl
  | cons c cs ih =>
    cases hcs : segments cs with
    | nil => exact absurd hcs (segments_ne_nil cs)
    | cons s' more' =>
      have heq := ih hcs
      rw [segments, hcs] at h
      by_cases hc : c = '.'
      · rw [hc] at h ⊢
        cases h
        rw [heq]
        rfl
      · have hpoint : ¬ (c == '.') = true := by simpa using hc
        simp only [if_neg hpoint] at h
        cases h
        rw [List.cons_append, ← heq]

/-- What an accepted text is made of. -/
structure Spells (text : String) (a : Alias) : Prop where
  root : Word.IsFree a.root
  words : ∀ w ∈ a.root :: a.properties, Lexer.IsWord w.toList
  text : text.toList = a.root.toList ++ a.properties.flatMap ('.' :: ·.toList)

variable {text : String} {a : Alias}

theorem spells_of_ofString? (h : ofString? text = some a) :
    Spells text a := by
  obtain ⟨root, properties, hsegments, hall, hreserved, rfl⟩ := ofString?_eq_some_iff.1 h
  rw [List.all_eq_true] at hall
  have hwords : ∀ w ∈ String.ofList root :: properties.map String.ofList,
      Lexer.IsWord w.toList := by
    intro w hw
    rw [← List.map_cons (f := String.ofList), List.mem_map] at hw
    obtain ⟨cs, hcs, rfl⟩ := hw
    rw [String.toList_ofList]
    exact isWord_of_isName (hall cs hcs)
  refine ⟨⟨hreserved, notMem_marks (hwords _ List.mem_cons_self)⟩, hwords, ?_⟩
  rw [eq_of_segments hsegments]
  simp [List.flatMap_map]

theorem Spells.isText_root (h : Spells text a) :
    ∀ word ∈ ["import", "export"], Parse.isText word (some (.word a.root)) = false := by
  intro word hword
  have hreserved : ∀ word ∈ ["import", "export"], reserved.contains word = true := by decide
  exact beq_false_of_ne (h.root.ne (hreserved word hword))

theorem Spells.properties_ne (h : Spells text a) : ∀ w ∈ a.properties, w ≠ "#" := by
  rintro _ hw rfl
  have hnot : ¬ Lexer.IsWord "#".toList := by decide
  exact hnot (h.words _ (List.mem_cons_of_mem _ hw))

theorem node_cases (a : Alias) :
    a.node = .madeName a.root ∨ ∃ object w, a.node = .madeMember object w := by
  obtain ⟨root, properties⟩ := a
  rcases properties.eq_nil_or_concat with rfl | ⟨path, last, rfl⟩
  · exact .inl rfl
  · refine .inr ⟨path.foldl .madeMember (.madeName root), last, ?_⟩
    rw [Alias.node, List.concat_eq_append, List.foldl_append]
    rfl

end Alias

/-! ## Texts -/

namespace Stmt

open Parse

variable {t : Token} {ts : List Token} {s : Stmt} {text : String}

theorem ofText?_of_reads (hspelled : Lexer.Spelled (t :: ts) text.toList)
    (hstrict : isUseStrict s = false)
    (hfirst : ∀ text ∈ ["import", "export"], isText text (some t) = false)
    (hshebang : ∀ text, t ≠ .shebang text)
    (hstatement : ∀ d, ts.length ≤ d →
      Reads {} ((Grammar.upTo (d + 14)).statement true true)
        (fun s' => s'.unplaced = s) (t :: ts) []) :
    ofText? text = some s := by
  let source := text.toList.toArray
  have hlength := hspelled.length_le
  have hfaces : Reader.Faces {} (t :: ts) { lexer := { source } } := by
    refine ⟨⟨rfl, rfl, rfl, rfl, rfl, rfl⟩, rfl, t :: ts, rfl, ⟨rfl, rfl, rfl, nofun⟩, hspelled⟩
  -- There are no more tokens than characters, and the grammar nests much deeper than that.
  obtain ⟨d, hd, hdepth⟩ : ∃ d, ts.length ≤ d ∧ nestingBound source.size + 1 = d + 14 := by
    refine ⟨nestingBound source.size - 13, ?_, ?_⟩
    · have hsize : source.size = text.toList.length := List.size_toArray
      rw [List.length_cons] at hlength
      unfold nestingBound
      omega
    · unfold nestingBound
      omega
  have hread := reads_program hstrict hfirst hshebang (hstatement d hd)
  rw [← hdepth] at hread
  obtain ⟨p, r, hok, ⟨s', hitems, hs'⟩, hr⟩ := hread _ hfaces
  obtain ⟨behind, -, hlexer⟩ := hr.tokens
  have hprogram : Parse.program (Grammar.level fun _ =>
      Grammar.ofDepth Grammar.level (nestingBound source.size)) { lexer := { source } } =
        .ok p r := hok
  unfold ofText?
  dsimp only
  rw [hprogram]
  dsimp only
  rw [hr.foundModuleItem, hlexer.faults, if_neg (by simp), hitems, ← hs']

end Stmt

/-! ## Spelling -/

section

open Lexer Parse

variable {ts : List Token} {behind : List Char}

theorem Lexer.Spelled.path {path : List String} (hpath : ∀ w ∈ path, IsWord w.toList)
    (hend : EndsWord behind) (h : Spelled ts behind) :
    Spelled (pathTokens path ++ ts) (path.flatMap ('.' :: ·.toList) ++ behind) ∧
      EndsWord (path.flatMap ('.' :: ·.toList) ++ behind) := by
  induction path with
  | nil => exact ⟨h, hend⟩
  | cons w path ih =>
    rw [List.forall_mem_cons] at hpath
    obtain ⟨hmore, hends⟩ := ih hpath.2
    have hword := Spelled.word false hpath.1 hends hmore
    have hpoint : EndsMark "." (w.toList ++ (path.flatMap ('.' :: ·.toList) ++ behind)) := by
      obtain ⟨c, hc, hstart⟩ := hpath.1.start
      rintro - d hd
      rw [List.head?_append, hc] at hd
      cases hd
      exact ⟨isDigit_of_isNameStart hstart, ne_of_isNameStart hstart (by decide)⟩
    rw [List.flatMap_cons, List.append_assoc]
    refine ⟨.cons false (.mark (by decide) hpoint) hword, ?_⟩
    rintro _ ⟨⟩
    decide

end

open Parse

namespace ResetOptions

/-- The options as properties of an object literal. -/
def entries (o : ResetOptions) : List Entry :=
  [⟨"key", Json.quote "key", .string o.key (Json.quote o.key), .string o.key (Json.quote o.key)⟩,
   ⟨"file", Json.quote "file", .string o.file (Json.quote o.file),
     .string o.file (Json.quote o.file)⟩,
   ⟨"line", Json.quote "line", .number (Nat.repr o.line), .number (Nat.repr o.line)⟩,
   ⟨"column", Json.quote "column", .number (Nat.repr o.column), .number (Nat.repr o.column)⟩]

theorem node_eq (o : ResetOptions) :
    o.node = .group .synthetic .object (o.entries.map Entry.node) := rfl

theorem isLiteral_entries (o : ResetOptions) : ∀ e ∈ o.entries, IsLiteral e.token e.leaf := by
  simp only [entries, List.forall_mem_cons]
  exact ⟨.string _ _, .string _ _, .number _, .number _, List.forall_mem_nil _⟩

end ResetOptions

namespace Snippet

open Lexer

variable {text method : String} {a : Alias} {o : ResetOptions} {ts : List Token} {cs : List Char}

/-- An alias, and a path that goes on from it. -/
theorem spelled_alias (h : Alias.Spells text a) (path : List String)
    (hpath : ∀ w ∈ path, IsWord w.toList) (hend : EndsWord cs) (hts : Spelled ts cs) :
    Spelled (.word a.root :: (pathTokens (a.properties ++ path) ++ ts))
      (text.toList ++ (path.flatMap ('.' :: ·.toList) ++ cs)) := by
  have hwords := List.forall_mem_cons.1 h.words
  obtain ⟨hspelled, hends⟩ := Spelled.path (List.forall_mem_append.2 ⟨hwords.2, hpath⟩) hend hts
  have htext : text.toList ++ (path.flatMap ('.' :: ·.toList) ++ cs) =
      a.root.toList ++ ((a.properties ++ path).flatMap ('.' :: ·.toList) ++ cs) := by
    rw [h.text, List.flatMap_append, List.append_assoc, List.append_assoc]
  rw [htext]
  exact Spelled.word false hwords.1 hends hspelled

theorem spelled_call (h : Alias.Spells text a) (method : String) (hmethod : IsWord method.toList)
    (hts : Spelled ts cs) :
    Spelled (.word a.root :: (pathTokens (a.properties ++ [method]) ++ .mark "(" :: ts))
      (text.toList ++ ('.' :: method.toList ++ '(' :: cs)) := by
  have hopen : Spelled (.mark "(" :: ts) ('(' :: cs) :=
    .mark false (m := "(") (by decide) (by decide) hts
  have hcall := spelled_alias h [method] (List.forall_mem_singleton.2 hmethod)
    (endsWord_cons (by decide)) hopen
  rw [List.flatMap_singleton] at hcall
  exact hcall

theorem spelled_options (o : ResetOptions) (hts : Spelled ts cs) :
    Spelled (.mark "\x7b" :: (Entry.allTokens o.entries ++ .mark "\x7d" :: ts))
      (o.encode.toList ++ cs) := by
  have hend : Spelled (.mark "\x7d" :: ts) ('\x7d' :: cs) :=
    .mark false (m := "\x7d") (by decide) (by decide) hts
  have hcolon {ts : List Token} {cs : List Char} (h : Spelled ts cs) :
      Spelled (.mark ":" :: ts) (':' :: cs) := .mark false (m := ":") (by decide) (by decide) h
  have hcomma {ts : List Token} {cs : List Char} (h : Spelled ts cs) :
      Spelled (.mark "," :: ts) (',' :: cs) := .mark false (m := ",") (by decide) (by decide) h
  have hcolumn := Spelled.quoted "column" (hcolon (.number o.column (by simp [EndsNumber]) hend))
  have hline :=
    Spelled.quoted "line" (hcolon (.number o.line (by simp [EndsNumber]) (hcomma hcolumn)))
  have hfile := Spelled.quoted "file" (hcolon (.quoted o.file (hcomma hline)))
  have hkey := Spelled.quoted "key" (hcolon (.quoted o.key (hcomma hfile)))
  have hall := Spelled.mark false (m := "\x7b") (by decide) (by decide) hkey
  rw [ResetOptions.encode_eq]
  simpa [ResetOptions.entries, Entry.allTokens, Entry.tokens, gap] using hall

theorem spelled_resetText (h : Alias.Spells text a) (o : ResetOptions) :
    Spelled (.word a.root :: (pathTokens (a.properties ++ ["reset"]) ++ .mark "(" :: .mark "\x7b" ::
        (Entry.allTokens o.entries ++ [.mark "\x7d", .mark ")", .mark ";"])))
      (resetText text o).toList := by
  have hend : Spelled [.mark ")", .mark ";"] [')', ';'] :=
    .mark false (m := ")") (by decide) (by decide)
      (.mark false (m := ";") (by decide) (by decide) .nil)
  have htext : (resetText text o).toList = text.toList ++ ('.' :: "reset".toList ++ '(' ::
      (o.encode.toList ++ [')', ';'])) := by
    unfold resetText
    simp
  rw [htext]
  exact spelled_call h "reset" (by decide) (spelled_options o hend)

theorem spelled_guardText (h : Alias.Spells text a) (key : LoopKey) :
    Spelled (.word "while" :: .mark "(" :: .word "true" :: .mark ")" :: .word "if" :: .mark "(" ::
        .word a.root :: (pathTokens (a.properties ++ ["guard"]) ++ .mark "(" ::
          [.string key.text (Json.quote key.text), .mark ")", .mark ")", .word "break", .mark ";"]))
      (guardText text key).toList := by
  have hclose {ts : List Token} {cs : List Char} (h : Spelled ts cs) :
      Spelled (.mark ")" :: ts) (')' :: cs) := .mark false (m := ")") (by decide) (by decide) h
  have hopen {ts : List Token} {cs : List Char} (h : Spelled ts cs) :
      Spelled (.mark "(" :: ts) (' ' :: '(' :: cs) :=
        .mark true (m := "(") (by decide) (by decide) h
  have hend : Spelled [.mark ";"] [';'] := .mark false (m := ";") (by decide) (by decide) .nil
  have hbreak := Spelled.word true (w := "break") (by decide) (endsWord_cons (by decide)) hend
  have hcall := spelled_call h "guard" (by decide) (.quoted key.text (hclose (hclose hbreak)))
  have hif := Spelled.word true (w := "if") (by decide) (endsWord_cons (by decide)) (hopen hcall)
  have htrue :=
    Spelled.word false (w := "true") (by decide) (endsWord_cons (by decide)) (hclose hif)
  have hwhile := Spelled.word false (w := "while") (by decide) (endsWord_cons (by decide))
    (hopen htrue)
  unfold guardText
  simpa [LoopKey.encode, gap] using hwhile

/-! ## Reading -/

/-- A call of a property of an alias with one argument. -/
theorem reads_call {ctx : Context} {d : Nat} {arg : Node} {behind : List Token}
    (h : Alias.Spells text a) (method : String) (hmethod : method ≠ "#")
    (hd : a.properties.length < d)
    (hopen : isText "..." ts.head? = false) (hclose : isText ")" ts.head? = false) (hne : ts ≠ [])
    (hbehind : IsBefore closers behind)
    (harg : Reads { ctx with allowIn := true } (assignment (.upTo d)) (fun n => n.unplaced = arg) ts
      (.mark ")" :: behind)) :
    Reads ctx (assignment (.upTo (d + 3)))
      (fun n => n.unplaced = .madeCall (.madeMember a.node method) [arg])
      (.word a.root :: (pathTokens (a.properties ++ [method]) ++ .mark "(" :: ts)) behind := by
  have hpath : ∀ w ∈ a.properties ++ [method], w ≠ "#" :=
    List.forall_mem_append.2 ⟨h.properties_ne, List.forall_mem_singleton.2 hmethod⟩
  have hlength : (a.properties ++ [method]).length ≤ d := by
    rw [List.length_append]
    exact hd
  have hcall := reads_assignment_call (d := d) h.root hpath (by simp) hlength hbehind
    (reads_arguments hopen hclose hne harg)
  rw [List.foldl_append] at hcall
  exact hcall

/-- An alias is read as the path it is. -/
theorem ofText?_alias (h : Alias.Spells text a) :
    Stmt.ofText? (text ++ ";") = some (.expression .synthetic a.node) := by
  have hend : Spelled [.mark ";"] [';'] := .mark false (m := ";") (by decide) (by decide) .nil
  have hspelled : Spelled (.word a.root :: (pathTokens a.properties ++ [.mark ";"]))
      (text ++ ";").toList := by
    have halias := spelled_alias h [] nofun (endsWord_cons (by decide)) hend
    rw [List.append_nil] at halias
    simpa using halias
  have hname : ∀ w, a.node = .madeName w → Word.IsFree w := by
    intro w hw
    rcases a.node_cases with hnode | ⟨object, v, hnode⟩
    · cases hw.symm.trans hnode
      exact h.root
    · cases hw.symm.trans hnode
  have hstrict : isUseStrict (.expression .synthetic a.node) = false := by
    rcases a.node_cases with hnode | ⟨object, v, hnode⟩ <;> rw [hnode] <;> rfl
  refine Stmt.ofText?_of_reads hspelled hstrict h.isText_root nofun fun d hd => ?_
  have hlength := length_le_pathTokens a.properties
  rw [List.length_append] at hd
  have hassignment : Reads { allowIn := true } (assignment (.upTo (d + 11)))
      (fun n => n.unplaced = a.node) (.word a.root :: (pathTokens a.properties ++ [.mark ";"]))
      [.mark ";"] :=
    reads_assignment_path h.root h.properties_ne (by omega) ⟨";", by decide, rfl⟩
  refine reads_statement_expression h.root (isBefore_pathTokens _ fun _ => ⟨";", by decide, rfl⟩) ?_
  exact fun lo => reads_expressionStatement lo hname (reads_expression rfl hassignment)

/-- The text of a reset call is read as this one call. -/
theorem ofText?_reset (h : Alias.Spells text a) (o : ResetOptions) :
    Stmt.ofText? (resetText text o) = some (.reset a o) := by
  refine Stmt.ofText?_of_reads (spelled_resetText h o) rfl h.isText_root nofun fun d hd => ?_
  have hlength : a.properties.length ≤ d := by
    have hpath := length_le_pathTokens (a.properties ++ ["reset"])
    simp only [List.length_append] at hd hpath
    omega
  have hobject : Reads { allowIn := true } (assignment (.upTo (d + 8)))
    (fun n => n.unplaced = o.node)
      (.mark "\x7b" :: (Entry.allTokens o.entries ++ [.mark "\x7d", .mark ")", .mark ";"]))
      [.mark ")", .mark ";"] := by
    rw [o.node_eq]
    exact reads_assignment_object o.isLiteral_entries ⟨")", by decide, rfl⟩
  have hcall : Reads { allowIn := true } (assignment (.upTo (d + 11))) _ _ _ :=
    reads_call h "reset" (by decide) (by omega) rfl rfl (List.cons_ne_nil _ _) ⟨";", by decide, rfl⟩
      hobject
  refine reads_statement_expression h.root (isBefore_pathTokens _ (by simp)) fun lo => ?_
  exact reads_expressionStatement lo nofun (reads_expression rfl hcall)

/-- The text of a guard check is read as this check, in the loop that it needs around it. -/
theorem ofText?_guard (h : Alias.Spells text a) (key : LoopKey) :
    Stmt.ofText? (guardText text key) =
      some (.loop .synthetic (.while (.leaf .synthetic (.boolean true))) (.guard a key)) := by
  refine Stmt.ofText?_of_reads (spelled_guardText h key) rfl (by decide) nofun fun d hd => ?_
  have hlength : a.properties.length ≤ d := by
    have hpath := length_le_pathTokens (a.properties ++ ["guard"])
    simp only [List.length_cons, List.length_append] at hd hpath
    omega
  have htrue (ts : List Token) : Reads { allowIn := true } (assignment (.upTo (d + 11)))
      (fun n => n.unplaced = .leaf .synthetic (.boolean true))
      (.word "true" :: .mark ")" :: ts) (.mark ")" :: ts) :=
    reads_assignment_literal (by omega) .true ⟨")", by decide, rfl⟩
  have hkey : Reads { allowIn := true, allowBreak := true, allowContinue := true }
      (assignment (.upTo (d + 7))) (fun n => n.unplaced = .madeString key.text)
      [.string key.text (Json.quote key.text), .mark ")", .mark ")", .word "break", .mark ";"]
      [.mark ")", .mark ")", .word "break", .mark ";"] :=
    reads_assignment_literal (by omega) (.string _ _) ⟨")", by decide, rfl⟩
  have hcall : Reads { allowIn := true, allowBreak := true, allowContinue := true }
      (assignment (.upTo (d + 10))) _ _ _ :=
    reads_call h "guard" (by decide) (by omega) rfl rfl (List.cons_ne_nil _ _) ⟨")", by decide, rfl⟩
      hkey
  refine reads_statement_word (.inr (.inr ⟨rfl, rfl⟩)) ?_
  refine reads_whileLoop (reads_expression rfl (htrue _)) ?_
  refine reads_statement_word (.inr (.inl ⟨rfl, rfl⟩)) ?_
  refine reads_branch (reads_expression rfl hcall) ?_ rfl
  exact reads_statement_word (.inl ⟨rfl, rfl⟩) (reads_jump_break rfl)

theorem reset_eq (h : Alias.Spells text a) (site : LoopSite) :
    reset text site = .ok (.reset a site.resetOptions) := by
  unfold reset
  rw [ofText?_reset h]

theorem guard_eq (h : Alias.Spells text a) (key : LoopKey) :
    guard text key = .ok (.guard a key) := by
  unfold guard
  rw [ofText?_guard h]
  rfl

end Snippet

/-! ## Transforming -/

theorem Transformer.run_ne_invalidAlias (t : Transformer) (name : String) :
    t.run.1 ≠ .error (.invalidAlias name) := by
  unfold run
  split
  · simp
  · split <;> simp

/-- With an accepted alias, only a source map can be refused at the start. -/
theorem Transformer.of_ne_invalidAlias {o : TransformOptions} {a : Alias}
    (h : Alias.ofString? o.guardAlias = some a) (name : String) :
    Transformer.of o ≠ .error (.invalidAlias name) := by
  intro ht
  rw [Transformer.of, h] at ht
  cases hmap : o.sourceMap with
  | none =>
    rw [hmap] at ht
    cases ht
  | some map =>
    rw [hmap] at ht
    dsimp only [Option.mapM] at ht
    cases hdecode : SourceMap.decode map <;> rw [hdecode] at ht <;> cases ht

/-- An accepted alias is not refused later on. -/
theorem transform_ne_invalidAlias {o : TransformOptions} {a : Alias}
    (h : Alias.ofString? o.guardAlias = some a) (name : String) :
    (transform o).1 ≠ .error (.invalidAlias name) := by
  cases ht : Transformer.of o with
  | ok t =>
    rw [transform, ht]
    exact t.run_ne_invalidAlias name
  | error e =>
    rw [transform, ht]
    rintro ⟨⟩
    exact Transformer.of_ne_invalidAlias h name ht

namespace Snippet

variable {text : String} {a : Alias}

/-- The calls around a loop are read back from their texts for every alias and every site: with no
error, with nothing in them but the call, and with the data of the site as the values of their
literals. -/
theorem calls_read_back (h : Alias.ofString? text = some a) :
    Stmt.ofText? (text ++ ";") = some (.expression .synthetic a.node) ∧
      (∀ site : LoopSite, ∃ options key : Node,
        reset text site =
            .ok (.expression .synthetic (.madeCall (.madeMember a.node "reset") [options])) ∧
          guard text site.key =
            .ok (.branch .synthetic (.madeCall (.madeMember a.node "guard") [key])
              (.jump .synthetic .break none) none) ∧
          options.resetOptions? =
            some ⟨site.key.text, site.file, site.original.line, site.original.column⟩ ∧
          key.text? = some site.key.text) ∧
      (∀ p : Protector, p.guardAlias = a → ∀ site span head bodySpan stmts, ∃ resetCall guardCall,
        reset text site = .ok resetCall ∧ guard text site.key = .ok guardCall ∧
          p.guarded site span head bodySpan stmts =
            (some resetCall, .loop span head (.block (.mk bodySpan (guardCall :: stmts))))) ∧
      ∀ o : TransformOptions, o.guardAlias = text →
        ∀ name, (transform o).1 ≠ .error (.invalidAlias name) := by
  have hspells := Alias.spells_of_ofString? h
  refine ⟨ofText?_alias hspells, ?_, ?_, ?_⟩
  · intro site
    refine ⟨site.resetOptions.node, .madeString site.key.text, reset_eq hspells site,
      guard_eq hspells site.key, ?_, rfl⟩
    exact Node.resetOptions?_node site.resetOptions
  · rintro p rfl site span head bodySpan stmts
    exact ⟨_, _, reset_eq hspells site, guard_eq hspells site.key, rfl⟩
  · rintro o rfl name
    exact transform_ne_invalidAlias h name

/-- A file whose name looks like the end of the call, and an alias whose property is a word of the
grammar. -/
theorem awkwardFile_reads_back :
    Alias.ofString? "lp.for" = some ⟨"lp", ["for"]⟩ ∧
      ∃ options key : Node,
        reset "lp.for" (.of "a\"); evil(\n" .preTest .sequence ⟨1, 0⟩ ⟨7, 4⟩) =
            .ok (.expression .synthetic
              (.madeCall (.madeMember (Alias.node ⟨"lp", ["for"]⟩) "reset") [options])) ∧
          guard "lp.for" ⟨"a\"); evil(\n:1:0"⟩ =
            .ok (.branch .synthetic
              (.madeCall (.madeMember (Alias.node ⟨"lp", ["for"]⟩) "guard") [key])
              (.jump .synthetic .break none) none) ∧
          options.resetOptions? = some ⟨"a\"); evil(\n:1:0", "a\"); evil(\n", 7, 4⟩ ∧
          key.text? = some "a\"); evil(\n:1:0" := by
  have h : Alias.ofString? "lp.for" = some ⟨"lp", ["for"]⟩ := by decide
  exact ⟨h, (calls_read_back h).2.1 (.of "a\"); evil(\n" .preTest .sequence ⟨1, 0⟩ ⟨7, 4⟩)⟩

end Snippet

end LoopGuard
