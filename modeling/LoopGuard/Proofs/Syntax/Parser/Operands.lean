import LoopGuard.Loop.Call
import LoopGuard.Proofs.Syntax.Parser.Reads
import LoopGuard.Syntax.Parse
import LoopGuard.Syntax.Unplaced

/-!
# Operands that are read

An expression without operators is one operand: a literal, a path of names, a call of such a path,
or an object literal. Every level of the grammar above operands hands it on as it is when a closing
bracket, a comma or a semicolon follows.

Results:
* `Parse.reads_assignment`: an operand alone is an expression.
* `Parse.reads_assignment_literal`, `Parse.reads_assignment_path`: literals and paths of names.
* `Parse.reads_assignment_call`: a path of names called with one argument.
* `Parse.reads_assignment_object`: an object literal whose properties are quoted names and literals.
-/

namespace LoopGuard

/-- The grammar for constructs nested up to a depth. -/
abbrev Grammar.upTo (depth : Nat) : Grammar := .ofDepth .level depth

/-- Whether a word has no meaning of its own, so that it can be any name. -/
structure Word.IsFree (w : String) : Prop where
  reserved : Alias.reserved.contains w = false
  mark : w ∉ Lexer.marks

namespace Word

theorem IsFree.ne {w k : String} (hw : IsFree w) (hk : Alias.reserved.contains k = true) :
    w ≠ k := by
  rintro rfl
  rw [hw.reserved] at hk
  cases hk

theorem IsFree.absurd {w : String} {p : Prop} (hw : IsFree w)
    (h : Alias.reserved.contains w = true) : p :=
  (hw.ne h rfl).elim

theorem IsFree.notMem {w : String} (hw : IsFree w) {ks : List String}
    (hks : ∀ k ∈ ks, Alias.reserved.contains k = true) : ks.contains w = false := by
  rw [Bool.eq_false_iff]
  intro h
  exact hw.ne (hks w (List.contains_iff_mem.1 h)) rfl

theorem IsFree.isPlain {w : String} (hw : IsFree w) : isPlain w = true := by
  rw [Word.isPlain, hw.notMem (by decide), hw.notMem (by decide)]
  rfl

/-- A free word is a name wherever no special rules apply. -/
theorem IsFree.isReserved {w : String} (hw : IsFree w) (ctx : Context) :
    ctx.isReserved w = false := by
  have hlet : (w == "let") = false := beq_false_of_ne (hw.ne (by decide))
  have hyield : (w == "yield") = false := beq_false_of_ne (hw.ne (by decide))
  have hawait : (w == "await") = false := beq_false_of_ne (hw.ne (by decide))
  rw [Context.isReserved, hw.notMem (by decide), hw.notMem (by decide), hlet, hyield, hawait]
  rfl

end Word

namespace Parse

variable {ctx : Context} {ts behind : List Token} {w : String}

/-! ## Names -/

theorem reads_name (hw : Word.IsFree w) (yieldIsName awaitIsName : Bool) :
    Reads ctx (name yieldIsName awaitIsName) (fun l => l.text = w) (.word w :: ts) ts := by
  have hother {k : String} (hk : Alias.reserved.contains k = true) : (w == k) = false :=
    beq_false_of_ne (hw.ne hk)
  refine .sloppy fun hctx => reads_start.skip fun lo => (reads_need rfl).known ?_
  refine reads_bump.skip fun _ => .fails ?_ (.fails ?_ (Reads.context.known ?_))
  · simp [hother (k := "enum") rfl]
  · rw [hother (k := "yield") rfl, hother (k := "let") rfl, hother (k := "static") rfl,
      hw.notMem (by decide)]
    exact Bool.false_ne_true
  · refine .fails ?_ (.fails ?_ (.fails ?_ (.holds ?_ ?_)))
    · simp [hother (k := "await") rfl]
    · simp [hother (k := "await") rfl]
    · simp [hctx.inField]
    · simp [hw.isPlain]
    · exact (reads_spanFrom lo).skip fun _ => .pure rfl

theorem reads_reference (hw : Word.IsFree w) :
    Reads ctx reference (fun l => l.text = w) (.word w :: ts) ts :=
  Reads.context.skip fun _ => reads_name hw _ _

theorem reads_anyWord : Reads ctx anyWord (fun l => l.text = w) (.word w :: ts) ts := by
  refine reads_start.skip fun lo => (reads_need rfl).known (reads_bump.skip fun _ => ?_)
  exact (reads_spanFrom lo).skip fun _ => .pure rfl

/-! ## What follows -/

/-- Marks that an expression ends in front of. -/
def closers : List String := [")", ",", "\x7d", ";"]

/-- Marks that a path of names ends in front of. -/
def pathEnds : List String := "(" :: closers

/-- Marks that a name ends in front of, but for a call. -/
def nameEnds : List String := "." :: closers

/-- Whether the next token is one of some marks. -/
def IsBefore (marks : List String) (ts : List Token) : Prop :=
  ∃ m ∈ marks, ts.head? = some (.mark m)

theorem IsBefore.isText {marks : List String} (h : IsBefore marks ts) {text : String}
    (htext : text ∉ marks) : isText text ts.head? = false := by
  obtain ⟨m, hm, hhead⟩ := h
  rw [hhead]
  refine beq_false_of_ne ?_
  rintro rfl
  exact htext hm

theorem IsBefore.any_isText {marks : List String} (h : IsBefore marks ts) {texts : List String}
    (htexts : ∀ text ∈ texts, text ∉ marks) : texts.any (Parse.isText · ts.head?) = false := by
  rw [List.any_eq_false]
  intro text hmem
  rw [h.isText (htexts text hmem)]
  exact Bool.false_ne_true

theorem IsBefore.path (h : IsBefore closers ts) : IsBefore pathEnds ts := by
  obtain ⟨m, hm, hhead⟩ := h
  exact ⟨m, List.mem_cons_of_mem _ hm, hhead⟩

theorem IsBefore.name (h : IsBefore closers ts) : IsBefore nameEnds ts := by
  obtain ⟨m, hm, hhead⟩ := h
  exact ⟨m, List.mem_cons_of_mem _ hm, hhead⟩

/-! ## Operands -/

/-- A free word is a name where no arrow follows. -/
theorem reads_nameOrArrow {g : Grammar} (hw : Word.IsFree w) (hts : IsBefore nameEnds ts) (lo : Nat)
    (mayBeArrow : Bool) :
    Reads ctx (nameOrArrow g lo mayBeArrow)
      (fun n => n.unplaced = .madeName w) (.word w :: ts) ts := by
  refine (reads_reference hw).bind fun label hlabel => ?_
  have harrow : Reads ctx (eat "=>") (· = false) ts ts := reads_eat_other (hts.isText (by decide))
  have hnode : label.node.unplaced = .madeName w := by
    rw [← hlabel]
    rfl
  have hisName : Reads ctx (isName ts.head?) (· = false) ts ts := by
    obtain ⟨m, -, hhead⟩ := hts
    rw [hhead]
    exact .pure rfl
  refine reads_lineBreakBefore.skip fun _ => reads_peek.known (hisName.known (.fails (by simp) ?_))
  have hboth := Reads.both_other (reads_lineBreakBefore.skip fun isBroken =>
    .pure_any (mayBeArrow && !isBroken)) harrow
  exact hboth.no (.pure hnode)

theorem reads_primary_name {g : Grammar} (hw : Word.IsFree w) (hts : IsBefore nameEnds ts) :
    Reads ctx (primary g) (fun n => n.unplaced = .madeName w) (.word w :: ts) ts := by
  refine reads_start.skip fun lo => reads_get.skip fun r => reads_peek.known ?_
  rw [List.head?_cons]
  have hname : Reads ctx (do
      if w == "let" || !(← context).isReserved w then nameOrArrow g lo (r.arrowStart == some lo)
      else refuse (← here) .expectedExpression) (fun n => n.unplaced = .madeName w)
      (.word w :: ts) ts := by
    refine Reads.context.known (.holds ?_ (reads_nameOrArrow hw hts lo _))
    rw [hw.isReserved, Bool.not_false, Bool.or_true]
  generalize ho : some (Token.word w) = o
  -- The words that an operand of another kind starts with are all reserved.
  split <;> cases ho
  all_goals try exact hw.absurd rfl
  · refine (Reads.both_any (.pure_any _) (reads_lineBreakAhead.skip fun _ => .pure_any _)).skip ?_
    refine fun _ => .either ?_ hname
    refine (reads_isAhead_other (hts.isText (by decide))).no ?_
    exact (reads_isAhead_other (hts.isText (by decide))).known (.fails (by simp) hname)
  · next hnone => exact absurd rfl (hnone w)

/-- A literal that is one token, and the leaf it stands for. -/
inductive IsLiteral : Token → Leaf → Prop where
  | string (value raw : String) : IsLiteral (.string value raw) (.string value raw)
  | number (raw : String) : IsLiteral (.number raw) (.number raw)
  | true : IsLiteral (.word "true") (.boolean true)

variable {t : Token} {leaf : Leaf}

theorem reads_literal (lo : Nat) (leaf : Leaf) :
    Reads ctx (literal lo leaf) (fun n => n.unplaced = .leaf .synthetic leaf) (t :: ts) ts :=
  reads_bump.skip fun _ => (reads_spanFrom lo).skip fun _ => .pure rfl

theorem reads_primary_literal {g : Grammar} (h : IsLiteral t leaf) :
    Reads ctx (primary g) (fun n => n.unplaced = .leaf .synthetic leaf) (t :: ts) ts := by
  refine reads_start.skip fun lo => reads_get.skip fun r => reads_peek.known ?_
  cases h with
  | string | number | true => exact reads_literal lo _

/-! ## Paths -/

/-- Whether nothing more can follow the node in a special way: it is no arrow function, no
operation, no part of an optional chain, and neither `super` nor `import`. -/
def standsAlone : Node → Bool
  | .leaf _ .super | .leaf _ (.importKeyword _) => false
  | .leaf .. | .group .. | .binary _ (.member false _) _ _ | .call _ .call _ _ => true
  | _ => false

theorem standsAlone_unplaced (n : Node) : standsAlone n.unplaced = standsAlone n := by
  cases n with
  | leaf span leaf => cases leaf <;> rfl
  | binary span form left right =>
    cases form with
    | member inChain => cases inChain <;> rfl
    | _ => rfl
  | call span form => cases form <;> rfl
  | _ => rfl

theorem isArrow_of_standsAlone {n : Node} (h : standsAlone n = true) :
    n.isArrow = false ∧ n.isSuper = false ∧ n.isImport = false ∧ n.isChain = false := by
  cases n with
  | leaf span leaf => cases leaf <;> first | exact ⟨rfl, rfl, rfl, rfl⟩ | cases h
  | binary span form left right =>
    cases form with
    | member inChain => cases inChain <;> first | exact ⟨rfl, rfl, rfl, rfl⟩ | cases h
    | _ => cases h
  | call span form => cases form <;> first | exact ⟨rfl, rfl, rfl, rfl⟩ | cases h
  | group => exact ⟨rfl, rfl, rfl, rfl⟩
  | _ => cases h

/-- The tokens of property accesses. -/
def pathTokens (path : List String) : List Token := path.flatMap fun w => [.mark ".", .word w]

theorem length_le_pathTokens (path : List String) : path.length ≤ (pathTokens path).length := by
  induction path with
  | nil => exact Nat.le_refl 0
  | cons w path ih =>
    show path.length + 1 ≤ (pathTokens path).length + 2
    omega

theorem isBefore_pathTokens (path : List String) (hts : path = [] → IsBefore nameEnds ts) :
    IsBefore nameEnds (pathTokens path ++ ts) := by
  cases path with
  | nil => exact hts rfl
  | cons => exact ⟨".", by decide, rfl⟩

/-- An access of a property of a node. -/
theorem reads_access {object key : Node} (hobject : standsAlone object = true) (lo : Nat)
    (noCall : Bool) :
    Reads ctx (access lo object key false noCall)
      (fun n => n.unplaced = .binary .synthetic (.member false false) object.unplaced key.unplaced)
      ts ts := by
  obtain ⟨-, hsuper, himport, hchain⟩ := isArrow_of_standsAlone hobject
  refine .fails (by simp [himport])
    ((reads_spanFrom lo).skip fun span => .holds (by simp [hsuper]) ?_)
  refine .pure ?_
  rw [hchain]
  rfl

/-- Where no access follows, the expression is over. -/
theorem reads_accesses_end {g : Grammar} {object : Node} (hobject : standsAlone object = true)
    (lo : Nat) (noCall : Bool) (hts : IsBefore pathEnds ts)
    (hcall : noCall = false → IsBefore closers ts) :
    Reads ctx (accesses g lo object noCall) (· = object) ts ts := by
  obtain ⟨-, hsuper, himport, hchain⟩ := isArrow_of_standsAlone hobject
  refine (Reads.both_false (reads_isAt_other (hts.isText (by decide)))).no ?_
  refine reads_start.skip fun _ => (reads_eat_other (hts.isText (by decide))).no ?_
  refine (reads_isAt "(").known (.fails ?_ ?_)
  · cases noCall with
    | true => simp
    | false =>
      have hnot : isText "(" ts.head? = false := (hcall rfl).isText (by decide)
      simp [hnot]
  · refine (reads_eat_other (hts.isText (by decide))).no ?_
    refine .fails (by simp [hsuper]) (.fails (by simp [himport]) ?_)
    exact (reads_isAt_other (hts.isText (by decide))).no (.pure rfl)

/-- An access by a name, and what follows it. -/
theorem reads_accesses_name {g : Grammar} {object : Node} (hobject : standsAlone object = true)
    (hw : w ≠ "#") (lo : Nat) {noCall : Bool} {P : Node → Prop}
    (hmore : ∀ n : Node, n.unplaced = .madeMember object.unplaced w → standsAlone n = true →
      Reads ctx (g.accesses lo n noCall) P ts behind) :
    Reads ctx (accesses g lo object noCall) P (.mark "." :: .word w :: ts) behind := by
  refine (Reads.both_false (reads_isAt_other rfl)).no (reads_start.skip fun _ => ?_)
  refine (reads_eat_other rfl).no ?_
  refine (reads_isAt_other rfl).known (.fails (by simp) ?_)
  refine (reads_eat rfl).yes ?_
  have hnumber : isText "#" (some (.word w)) = false := beq_false_of_ne hw
  refine (reads_isAt_other hnumber).no ?_
  have hkey : Reads ctx (Label.node <$> anyWord) (fun n => n.unplaced = .madeName w)
      (.word w :: ts) ts :=
    .map (reads_anyWord.mono fun l hl => by rw [← hl]; rfl)
  refine hkey.bind fun key hkey => (reads_access hobject lo noCall).bind fun n hn => ?_
  rw [hkey] at hn
  refine hmore n hn ?_
  rw [← standsAlone_unplaced, hn]
  rfl

/-- The accesses of a path. -/
theorem reads_accesses_path {path : List String} (hpath : ∀ w ∈ path, w ≠ "#") {d : Nat}
    (hd : path.length ≤ d) {object : Node} (hobject : standsAlone object = true) (lo : Nat)
    (hts : IsBefore pathEnds ts) :
    Reads ctx (accesses (.upTo d) lo object true)
      (fun n => n.unplaced = path.foldl .madeMember object.unplaced)
      (pathTokens path ++ ts) ts := by
  induction path generalizing object d with
  | nil => exact (reads_accesses_end hobject lo true hts nofun).answers rfl
  | cons w path ih =>
    rw [List.forall_mem_cons] at hpath
    cases d with
    | zero => cases hd
    | succ d =>
      show Reads ctx _ _ (.mark "." :: .word w :: (pathTokens path ++ ts)) ts
      refine reads_accesses_name hobject hpath.1 lo fun n hn halone => ?_
      have hmore := ih hpath.2 (d := d) (by simpa using hd) halone
      rw [hn] at hmore
      exact hmore

/-! ## From operands to expressions -/

/-- Words that an expression can start with and that are no operands. -/
def leadingWords : List String :=
  ["super", "import", "new", "delete", "void", "typeof", "await", "yield"]

/-- Whether a token can start an operand that no operator and no word of its own opens. -/
structure Opens (t : Token) : Prop where
  isFlawed : t.isFlawed = false
  word : ∀ k, t = .word k → k ∉ leadingWords
  mark : ∀ m, t = .mark m → m = "\x7b"

theorem Opens.isText (h : Opens t) {text : String} (htext : text ∈ leadingWords) :
    isText text (some t) = false := by
  cases t with
  | word k =>
    refine beq_false_of_ne ?_
    rintro rfl
    exact h.word k rfl htext
  | mark m =>
    rw [h.mark m rfl]
    have hbrace : ∀ text ∈ leadingWords, ("\x7b" == text) = false := by decide
    exact hbrace text htext
  | _ => rfl

theorem opens_name (hw : Word.IsFree w) : Opens (.word w) := by
  refine ⟨rfl, ?_, nofun⟩
  rintro _ ⟨⟩ hmem
  have hreserved : ∀ k ∈ leadingWords, Alias.reserved.contains k = true := by decide
  exact hw.absurd (hreserved w hmem)

theorem opens_literal (h : IsLiteral t leaf) : Opens t := by
  cases h with
  | string | number => exact ⟨rfl, nofun, nofun⟩
  | true =>
    refine ⟨rfl, ?_, nofun⟩
    rintro _ ⟨⟩
    decide

theorem opens_brace : Opens (.mark "\x7b") := by
  refine ⟨rfl, nofun, ?_⟩
  rintro _ ⟨⟩
  rfl

variable {g : Grammar} {m : Node} {P : Node → Prop} {ts₁ : List Token}

/-- What stands alone is no arrow function, and is handed on to what comes next. -/
theorem reads_operand {p : Parse Node} {stop next : Node → Parse Node} (hm : standsAlone m = true)
    (hp : Reads ctx p (fun n => n.unplaced = m) ts ts₁)
    (hnext : ∀ n, n.unplaced = m → standsAlone n = true → Reads ctx (next n) P ts₁ behind) :
    Reads ctx (p >>= fun n => if n.isArrow then stop n else next n) P ts behind := by
  refine hp.bind fun n hn => ?_
  have halone : standsAlone n = true := by rw [← standsAlone_unplaced, hn, hm]
  refine .fails ?_ (hnext n hn halone)
  rw [(isArrow_of_standsAlone halone).1]
  exact Bool.false_ne_true

theorem reads_member (ht : Opens t) (hm : standsAlone m = true) (mayLackArguments : Bool)
    (hprimary : Reads ctx (primary g) (fun n => n.unplaced = m) (t :: ts) ts₁)
    (haccesses : ∀ lo n, n.unplaced = m → standsAlone n = true →
      Reads ctx (g.accesses lo n true) P ts₁ behind) :
    Reads ctx (member g mayLackArguments) P (t :: ts) behind := by
  refine reads_start.skip fun lo => (reads_isAt_other (ht.isText (by decide))).no ?_
  refine reads_peek.known ?_
  rw [List.head?_cons]
  generalize ho : some t = o
  split <;> cases ho
  all_goals try exact absurd (ht.word _ rfl) (by decide)
  exact reads_operand hm hprimary (haccesses lo)

/-- An operand that is not called. -/
theorem reads_leftHandSide (ht : Opens t) (hm : standsAlone m = true)
    (hts : IsBefore closers behind)
    (hmember : Reads ctx (g.member true) (fun n => n.unplaced = m) (t :: ts) behind) :
    Reads ctx (leftHandSide g) (fun n => n.unplaced = m) (t :: ts) behind := by
  refine reads_start.skip fun lo => (reads_isAt_other (ht.isText (by decide))).no ?_
  refine (reads_isAt_other (ht.isText (by decide))).no (reads_operand hm hmember fun n hn _ => ?_)
  exact (reads_isAt_other (hts.isText (by decide))).no (.pure hn)

/-- An operand that is called. -/
theorem reads_leftHandSide_call (ht : Opens t) (hm : standsAlone m = true)
    (hmember : Reads ctx (g.member true) (fun n => n.unplaced = m) (t :: ts) (.mark "(" :: ts₁))
    (hcall : ∀ lo n, n.unplaced = m → standsAlone n = true →
      Reads ctx (g.accesses lo n false) P (.mark "(" :: ts₁) behind) :
    Reads ctx (leftHandSide g) P (t :: ts) behind := by
  refine reads_start.skip fun lo => (reads_isAt_other (ht.isText (by decide))).no ?_
  refine (reads_isAt_other (ht.isText (by decide))).no (reads_operand hm hmember ?_)
  exact fun n hn halone => (reads_isAt "(").yes (hcall lo n hn halone)

theorem reads_unary (ht : Opens t) (hm : standsAlone m = true) (hts : IsBefore closers behind)
    (hoperand : Reads ctx (leftHandSide g) (fun n => n.unplaced = m) (t :: ts) behind) :
    Reads ctx (unary g) (fun n => n.unplaced = m) (t :: ts) behind := by
  refine reads_start.skip fun lo => reads_peek.known ?_
  rw [List.head?_cons]
  generalize ho : some t = o
  split <;> cases ho
  all_goals try exact absurd (ht.mark _ rfl) (by decide)
  all_goals try exact absurd (ht.word _ rfl) (by decide)
  refine reads_operand hm hoperand fun n hn _ => reads_lineBreakBefore.skip ?_
  refine fun _ => .either (.pure hn) ((reads_isAtAny _).known ?_)
  rw [hts.any_isText (by decide)]
  exact .fails Bool.false_ne_true (.pure hn)

/-- Where no operator follows, the operation is over. -/
theorem reads_operators (hts : IsBefore closers ts) (left : Node) (least : Nat) :
    Reads ctx (operators g left least) (· = left) ts ts := by
  obtain ⟨c, hc, hhead⟩ := hts
  have hnone : Reads ctx binaryOperator (· = none) ts ts := by
    refine Reads.context.known (reads_peek.known ?_)
    rw [hhead]
    have hclosers : ∀ c ∈ closers, ¬ Token.binaryOperators.contains c = true := by decide
    exact .pure (if_neg (hclosers c hc))
  exact hnone.known (.pure rfl)

theorem reads_operation {d : Nat} (hm : standsAlone m = true) (hts : IsBefore closers behind)
    (hunary : Reads ctx (Grammar.upTo (d + 1)).unary (fun n => n.unplaced = m) ts behind) :
    Reads ctx (operation (.upTo (d + 1))) (fun n => n.unplaced = m) ts behind := by
  refine hunary.attempt.bind ?_
  rintro _ ⟨n, rfl, hn⟩
  exact reads_operand hm (.pure hn) fun n hn _ => (reads_operators hts n 0).answers hn

theorem reads_conditional {d : Nat} (hm : standsAlone m = true) (hts : IsBefore closers behind)
    (hunary : Reads ctx (Grammar.upTo (d + 1)).unary (fun n => n.unplaced = m) ts behind) :
    Reads ctx (conditional (.upTo (d + 1))) (fun n => n.unplaced = m) ts behind := by
  refine reads_start.skip fun lo =>
    reads_operand hm (reads_operation hm hts hunary) fun n hn _ => ?_
  exact (reads_eat_other (hts.isText (by decide))).no (.pure hn)

theorem reads_assignmentTail (hts : IsBefore closers ts) (lo : Nat) (left : Node) :
    Reads ctx (assignmentTail g lo left) (· = left) ts ts := by
  obtain ⟨c, hc, hhead⟩ := hts
  refine reads_peek.known ?_
  rw [hhead]
  have hclosers : ∀ c ∈ closers, (!Token.assignOperators.contains c) = true := by decide
  exact .holds (hclosers c hc) (.pure rfl)

/-- An operand alone is an expression. -/
theorem reads_assignment {d : Nat} (ht : Opens t) (hm : standsAlone m = true)
    (hts : IsBefore closers behind)
    (hoperand : Reads ctx (leftHandSide (.upTo d)) (fun n => n.unplaced = m) (t :: ts) behind) :
    Reads ctx (assignment (.upTo (d + 1))) (fun n => n.unplaced = m) (t :: ts) behind := by
  have hunary : Reads ctx (Grammar.upTo (d + 1)).unary (fun n => n.unplaced = m) (t :: ts) behind :=
    reads_unary ht hm hts hoperand
  refine .sloppy fun hctx => Reads.context.known ((reads_isAt "yield").known (.fails ?_ ?_))
  · simp [hctx.inGenerator]
  refine reads_start.skip fun lo => (reads_need ht.isFlawed).known ?_
  refine (reads_modify ?_).skip fun _ => ?_
  · exact fun r => ⟨rfl, rfl, rfl, rfl⟩
  refine reads_operand hm (reads_conditional hm hts hunary) fun n hn _ => ?_
  -- What cannot be assigned to is handed on at once.
  split
  all_goals try exact .pure hn
  exact (reads_assignmentTail hts lo n).answers hn

theorem reads_expression (ht : isText "," behind.head? = false)
    (hassignment : Reads ctx g.assignment (fun n => n.unplaced = m) ts behind) :
    Reads ctx (expression g) (fun n => n.unplaced = m) ts behind := by
  refine hassignment.bind fun n hn => (reads_isAt_other ht).known ?_
  exact .holds rfl (.pure hn)

theorem reads_spreadOrAssignment (ht : isText "..." ts.head? = false)
    (hassignment : Reads ctx g.assignment (fun n => n.unplaced = m) ts behind) :
    Reads ctx (spreadOrAssignment g) (fun n => n.unplaced = m) ts behind := by
  exact reads_start.skip fun lo => (reads_eat_other ht).no hassignment

/-! ## Literals, calls and paths -/

/-- A literal alone is an expression. -/
theorem reads_assignment_literal {d : Nat} (hd : 3 ≤ d) (h : IsLiteral t leaf)
    (hts : IsBefore closers ts) :
    Reads ctx (assignment (.upTo d))
      (fun n => n.unplaced = .leaf .synthetic leaf) (t :: ts) ts := by
  obtain ⟨d, rfl⟩ := Nat.exists_eq_add_of_le' hd
  have halone : standsAlone (.leaf .synthetic leaf) = true := by cases h <;> rfl
  refine reads_assignment (opens_literal h) halone hts ?_
  refine reads_leftHandSide (opens_literal h) halone hts ?_
  refine reads_member (opens_literal h) halone true (reads_primary_literal h) ?_
  exact fun lo n hn halone' => (reads_accesses_end halone' lo true hts.path nofun).answers hn

/-- The argument of a call. -/
theorem reads_arguments (ht : isText "..." ts.head? = false) (hclose : isText ")" ts.head? = false)
    (hne : ts ≠ []) (hassignment : Reads { ctx with allowIn := true } g.assignment
      (fun n => n.unplaced = m) ts (.mark ")" :: ts₁)) (isImport : Bool) :
    Reads ctx (arguments g isImport) (fun args => ∃ arg, args = [arg] ∧ arg.unplaced = m)
      (.mark "(" :: ts) ts₁ := by
  have hempty : ts.isEmpty = false := by
    cases ts with
    | nil => exact absurd rfl hne
    | cons => rfl
  refine reads_start.skip fun lo => (reads_expect rfl).skip fun _ => ?_
  refine .via (fun args => ∃ arg, args = [arg] ∧ arg.unplaced = m) (.mark ")" :: ts₁) ?_ ?_
  · refine .loop fun fuel hfuel => ?_
    obtain ⟨fuel, rfl⟩ := Nat.exists_eq_add_of_le' (Nat.le_trans (Nat.le_add_left 2 _) hfuel)
    refine .again (fun args => ∃ arg, args = [arg] ∧ arg.unplaced = m) (.mark ")" :: ts₁) ?_ ?_
    · refine reads_atEnd.known ((reads_isAt_other hclose).known (.fails (by simp [hempty]) ?_))
      refine .fails Bool.false_ne_true ?_
      refine Reads.bind (.allowingIn (reads_spreadOrAssignment ht hassignment)) fun arg harg => ?_
      exact .pure ⟨[arg], rfl, arg, rfl, harg⟩
    · rintro args hargs
      refine .done (reads_atEnd.known ((reads_isAt ")").yes ?_))
      exact .pure ⟨args, rfl, hargs⟩
  · rintro _ ⟨arg, rfl, harg⟩
    exact (reads_expect rfl).skip fun _ => .pure ⟨arg, rfl, harg⟩

theorem reads_accesses_call {d : Nat} {object : Node} (hobject : standsAlone object = true)
    (lo : Nat) (hts : IsBefore closers behind) (harguments : ∀ isImport, Reads ctx
      (arguments (.upTo (d + 1)) isImport) (fun args => ∃ arg, args = [arg] ∧ arg.unplaced = m)
      (.mark "(" :: ts) behind) :
    Reads ctx (accesses (.upTo (d + 1)) lo object false)
      (fun n => n.unplaced = .madeCall object.unplaced [m]) (.mark "(" :: ts) behind := by
  obtain ⟨-, hsuper, himport, hchain⟩ := isArrow_of_standsAlone hobject
  refine (Reads.both_false (reads_isAt_other rfl)).no (reads_start.skip fun _ => ?_)
  refine (reads_eat_other rfl).no ?_
  refine (reads_isAt "(").yes ((harguments _).bind ?_)
  rintro _ ⟨arg, rfl, harg⟩
  refine .fails (by simp) ((reads_spanFrom lo).skip fun span => ?_)
  refine (reads_accesses_end ?_ lo false hts.path fun _ => hts).answers ?_
  · rw [hchain]
    rfl
  · rw [hchain, ← harg]
    rfl

theorem standsAlone_path (path : List String) {object : Node} (h : standsAlone object = true) :
    standsAlone (path.foldl .madeMember object) = true := by
  induction path generalizing object with
  | nil => exact h
  | cons w path ih => exact ih rfl

/-- A path of names. -/
theorem reads_member_path {d : Nat} (hw : Word.IsFree w) {path : List String}
    (hpath : ∀ w ∈ path, w ≠ "#") (hd : path.length ≤ d) (hts : IsBefore pathEnds ts)
    (hfront : IsBefore nameEnds (pathTokens path ++ ts)) (mayLackArguments : Bool) :
    Reads ctx (member (.upTo (d + 1)) mayLackArguments)
      (fun n => n.unplaced = path.foldl .madeMember (.madeName w))
      (.word w :: (pathTokens path ++ ts)) ts := by
  have hprimary : Reads ctx (primary (.upTo (d + 1))) (fun n => n.unplaced = .madeName w)
      (.word w :: (pathTokens path ++ ts)) (pathTokens path ++ ts) := reads_primary_name hw hfront
  refine reads_member (opens_name hw) rfl mayLackArguments hprimary fun lo n hn halone => ?_
  rw [← hn]
  exact reads_accesses_path hpath hd halone lo hts

/-- A call of a path of names with one argument. -/
theorem reads_assignment_call {d : Nat} (hw : Word.IsFree w) {path : List String}
    (hpath : ∀ w ∈ path, w ≠ "#") (hne : path ≠ []) (hd : path.length ≤ d)
    (hts : IsBefore closers behind) (harguments : ∀ isImport, Reads ctx
      (arguments (.upTo (d + 1)) isImport) (fun args => ∃ arg, args = [arg] ∧ arg.unplaced = m)
      (.mark "(" :: ts) behind) :
    Reads ctx (assignment (.upTo (d + 3)))
      (fun n => n.unplaced = .madeCall (path.foldl .madeMember (.madeName w)) [m])
      (.word w :: (pathTokens path ++ .mark "(" :: ts)) behind := by
  have hfront : IsBefore nameEnds (pathTokens path ++ .mark "(" :: ts) :=
    isBefore_pathTokens path fun hnil => absurd hnil hne
  have hmember : Reads ctx (member (.upTo (d + 1)) true)
      (fun n => n.unplaced = path.foldl .madeMember (.madeName w))
      (.word w :: (pathTokens path ++ .mark "(" :: ts)) (.mark "(" :: ts) :=
    reads_member_path hw hpath hd ⟨"(", by decide, rfl⟩ hfront true
  refine reads_assignment (opens_name hw) rfl hts ?_
  refine reads_leftHandSide_call (opens_name hw) (standsAlone_path path rfl) hmember ?_
  intro lo n hn halone
  rw [← hn]
  exact reads_accesses_call halone lo hts harguments

/-- A path of names alone is an expression. -/
theorem reads_assignment_path {d : Nat} (hw : Word.IsFree w) {path : List String}
    (hpath : ∀ w ∈ path, w ≠ "#") (hd : path.length ≤ d) (hts : IsBefore closers ts) :
    Reads ctx (assignment (.upTo (d + 3)))
      (fun n => n.unplaced = path.foldl .madeMember (.madeName w))
      (.word w :: (pathTokens path ++ ts)) ts := by
  have hfront := isBefore_pathTokens path fun _ => hts.name
  have halone :=
    (standsAlone_path path rfl : standsAlone (path.foldl .madeMember (.madeName w)) = true)
  refine reads_assignment (opens_name hw) halone hts
    (reads_leftHandSide (opens_name hw) halone hts ?_)
  exact reads_member_path hw hpath hd hts.path hfront true

/-! ## Object literals -/

/-- A property of an object literal: a quoted name, and a literal. -/
structure Entry where
  key : String
  keyRaw : String
  token : Token
  leaf : Leaf

namespace Entry

/-- The tokens of a property. -/
def tokens (e : Entry) : List Token := [.string e.key e.keyRaw, .mark ":", e.token]

/-- The property as a node. -/
def node (e : Entry) : Node :=
  .binary .synthetic .keyValue (.leaf .synthetic (.string e.key e.keyRaw)) (.leaf .synthetic e.leaf)

/-- The tokens of properties with commas between them. -/
def allTokens : List Entry → List Token
  | [] => []
  | [e] => e.tokens
  | e :: f :: more => e.tokens ++ .mark "," :: allTokens (f :: more)

end Entry

theorem reads_propertyKey {value raw : String} :
    Reads ctx (propertyKey g) (fun n => n.unplaced = .leaf .synthetic (.string value raw))
      (.string value raw :: ts) ts := by
  refine reads_start.skip fun lo => (reads_need rfl).known (reads_bump.skip fun _ => ?_)
  exact (reads_spanFrom lo).skip fun _ => .pure rfl

theorem reads_objectProperty {d : Nat} (hd : 4 ≤ d) (e : Entry) (he : IsLiteral e.token e.leaf)
    (hts : IsBefore closers ts) :
    Reads ctx (objectProperty (.upTo d)) (fun n => n.unplaced = e.node) (e.tokens ++ ts) ts := by
  obtain ⟨d, rfl⟩ := Nat.exists_eq_add_of_le' hd
  refine reads_start.skip fun lo => (reads_eat_other rfl).no ?_
  refine (reads_eat_other rfl).no ?_
  refine reads_propertyKey.bind fun key hkey => (reads_eat rfl).yes ?_
  have hvalue : Reads { ctx with allowIn := true } (Grammar.upTo (d + 4)).assignment
      (fun n => n.unplaced = .leaf .synthetic e.leaf) (e.token :: ts) ts :=
    reads_assignment_literal (Nat.le_add_left 3 d) he hts
  refine Reads.bind (.allowingIn hvalue) fun value hvalue => (reads_spanFrom lo).skip fun span => ?_
  refine .pure ?_
  rw [Node.unplaced, hkey, hvalue]
  rfl

theorem unplacedAll_eq_map (ns : List Node) : Node.unplacedAll ns = ns.map Node.unplaced := by
  induction ns with
  | nil => rfl
  | cons n ns ih => exact congrArg (n.unplaced :: ·) ih

theorem length_allTokens (es : List Entry) : es.length ≤ (Entry.allTokens es).length := by
  fun_induction Entry.allTokens es with
  | case1 => exact Nat.le_refl 0
  | case2 e => exact Nat.le_add_left 1 2
  | case3 e f more ih =>
    simp only [List.length_append, List.length_cons] at ih ⊢
    omega

/-- The properties of an object literal, braces included. -/
theorem reads_braced {d : Nat} (hd : 4 ≤ d) {es : List Entry}
    (hes : ∀ e ∈ es, IsLiteral e.token e.leaf) :
    Reads ctx (braced (objectProperty (.upTo d)))
      (fun read => read.1.map Node.unplaced = es.map Entry.node)
      (.mark "\x7b" :: (Entry.allTokens es ++ .mark "\x7d" :: ts)) ts := by
  refine reads_bump.skip fun _ => ?_
  refine .via (fun state => state.1.reverse.map Node.unplaced = es.map Entry.node) ts ?_ ?_
  · refine .each (fun es => Entry.allTokens es ++ .mark "\x7d" :: ts)
      (fun more state => (∀ e ∈ more, IsLiteral e.token e.leaf) ∧
        state.1.reverse.map Node.unplaced ++ more.map Entry.node = es.map Entry.node) ?_ ?_ ?_ es
      ([], none) ⟨hes, rfl⟩
    · intro es
      rw [List.length_append]
      exact Nat.le_add_right_of_le (length_allTokens es)
    · rintro e more ⟨items, comma⟩ ⟨hmore, hitems⟩
      rw [List.forall_mem_cons] at hmore
      have hread (n : Node) (hn : n.unplaced = e.node) :
          (n :: items).reverse.map Node.unplaced ++ more.map Entry.node = es.map Entry.node := by
        rw [← hitems, List.reverse_cons, List.map_append, List.append_assoc, List.map_cons,
          List.map_cons, hn]
        rfl
      cases more with
      | nil =>
        refine (reads_eat_other rfl).no ?_
        refine Reads.bind (reads_objectProperty hd e hmore.1 ⟨"\x7d", by decide, rfl⟩)
          fun n hn => ?_
        refine (reads_isAt "\x7d").known (.fails Bool.false_ne_true ?_)
        exact .pure ⟨_, rfl, hmore.2, hread n hn⟩
      | cons f more =>
        have htokens : Entry.allTokens (e :: f :: more) ++ .mark "\x7d" :: ts =
            e.tokens ++ .mark "," :: (Entry.allTokens (f :: more) ++ .mark "\x7d" :: ts) := by
          rw [Entry.allTokens, List.append_assoc]
          rfl
        rw [htokens]
        refine (reads_eat_other rfl).no ?_
        refine Reads.bind (reads_objectProperty hd e hmore.1 ⟨",", by decide, rfl⟩) fun n hn => ?_
        refine (reads_isAt "\x7d").known (.holds rfl ((reads_expect rfl).skip fun _ => ?_))
        refine (reads_isAt_other ?_).no ?_
        · cases more <;> rfl
        · exact .pure ⟨_, rfl, hmore.2, hread n hn⟩
    · rintro ⟨items, comma⟩ ⟨-, hitems⟩
      rw [List.map_nil, List.append_nil] at hitems
      exact (reads_eat rfl).yes (.pure ⟨_, rfl, hitems⟩)
  · rintro ⟨items, comma⟩ hitems
    exact .pure hitems

/-- An object literal is an expression. -/
theorem reads_assignment_object {d : Nat} {es : List Entry}
    (hes : ∀ e ∈ es, IsLiteral e.token e.leaf) (hts : IsBefore closers ts) :
    Reads ctx (assignment (.upTo (d + 7)))
      (fun n => n.unplaced = .group .synthetic .object (es.map Entry.node))
      (.mark "\x7b" :: (Entry.allTokens es ++ .mark "\x7d" :: ts)) ts := by
  have hobject : Reads ctx (object (.upTo (d + 5)))
      (fun n => n.unplaced = .group .synthetic .object (es.map Entry.node))
      (.mark "\x7b" :: (Entry.allTokens es ++ .mark "\x7d" :: ts)) ts := by
    refine reads_start.skip fun lo => (reads_braced (Nat.le_add_left 4 _) hes).bind ?_
    rintro ⟨items, comma⟩ hitems
    have hnode (span : Span) : (Node.group span .object items).unplaced =
        .group .synthetic .object (es.map Entry.node) := by
      rw [Node.unplaced, unplacedAll_eq_map, hitems]
    cases comma with
    | none => exact (reads_spanFrom lo).skip fun span => .pure (hnode span)
    | some offset =>
      refine (reads_modify ?_).skip fun _ => (reads_spanFrom lo).skip fun span => .pure (hnode span)
      exact fun r => ⟨rfl, rfl, rfl, rfl⟩
  have hprimary : Reads ctx (primary (.upTo (d + 5)))
      (fun n => n.unplaced = .group .synthetic .object (es.map Entry.node))
      (.mark "\x7b" :: (Entry.allTokens es ++ .mark "\x7d" :: ts)) ts :=
    reads_start.skip fun lo => reads_get.skip fun r => reads_peek.known hobject
  refine reads_assignment opens_brace rfl hts (reads_leftHandSide opens_brace rfl hts ?_)
  refine reads_member opens_brace rfl true hprimary ?_
  exact fun lo n hn halone => (reads_accesses_end halone lo true hts.path nofun).answers hn

end Parse

end LoopGuard
