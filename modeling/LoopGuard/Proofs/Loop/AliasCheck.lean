import LoopGuard.Proofs.Loop.Pasted
import LoopGuard.Proofs.Syntax.Parser.FlawedText

/-!
# What is accepted as an alias

A text has to pass three checks before it is used as an alias: between its points stand names of
letters and numbers, the first name is not reserved, and it is one statement when a semicolon
follows. The first check lets letters and numbers through that no identifier has. The third one
refuses these and nothing else, so the three together accept a grammar that can be told without a
parser.

Results:
* `Alias.joins_iff`: names with points between them are the pieces of a text.
* `Alias.hasStray_joins`: where a flaw lies in a text that passes the first check.
* `Alias.isSome_ofText?_iff`: what the third check refuses of the texts that pass the others.
* `Alias.isValid_iff_joins`: what is accepted, and what it is read as.
-/

namespace LoopGuard

namespace Alias

/-! ## Grammar -/

/-- The names over two classes of characters: one for the first character, one for the others. Two
marks belong to both. -/
def NamedIn (start part : Char → Bool) : List Char → Prop
  | [] => False
  | c :: rest =>
    (c = '_' ∨ c = '$' ∨ start c = true) ∧ ∀ d ∈ rest, d = '_' ∨ d = '$' ∨ part d = true

/-- Letters. -/
def isLetter (c : Char) : Bool := CharSet.alphabetic.contains c

/-- Letters and numbers. -/
def isLetterOrNumber (c : Char) : Bool :=
  CharSet.alphabetic.contains c || CharSet.numeric.contains c

/-- The characters that start identifiers. -/
def startsId (c : Char) : Bool := CharSet.idStart.contains c

/-- The characters that go on with identifiers. -/
def continuesId (c : Char) : Bool := CharSet.idContinue.contains c

/-- Whether a text is the names of an alias with single points between them, where each name has a
property and the first one is not reserved. -/
structure Joins (p : List Char → Prop) (text : String) (a : Alias) : Prop where
  text : text = ".".intercalate (a.root :: a.properties)
  names : ∀ w ∈ a.root :: a.properties, p w.toList
  root : a.root ∉ reserved

variable {start start' part part' : Char → Bool} {cs behind : List Char} {c : Char}

theorem NamedIn.mono (hstart : ∀ c, start c = true → start' c = true)
    (hpart : ∀ c, part c = true → part' c = true) (h : NamedIn start part cs) :
    NamedIn start' part' cs := by
  cases cs with
  | nil => exact h
  | cons c rest =>
    exact ⟨h.1.imp_right (.imp_right (hstart c)),
      fun d hd => (h.2 d hd).imp_right (.imp_right (hpart d))⟩

theorem namedIn_and : NamedIn (fun c => start c && start' c) (fun c => part c && part' c) cs ↔
    NamedIn start part cs ∧ NamedIn start' part' cs := by
  constructor
  · intro h
    exact ⟨h.mono (fun _ h => (Bool.and_eq_true_iff.1 h).1) fun _ h => (Bool.and_eq_true_iff.1 h).1,
      h.mono (fun _ h => (Bool.and_eq_true_iff.1 h).2) fun _ h => (Bool.and_eq_true_iff.1 h).2⟩
  · rintro ⟨h, h'⟩
    cases cs with
    | nil => exact h
    | cons c rest =>
      have hboth {a b : Bool} {d : Char} (ha : d = '_' ∨ d = '$' ∨ a = true)
          (hb : d = '_' ∨ d = '$' ∨ b = true) : d = '_' ∨ d = '$' ∨ (a && b) = true := by
        rw [Bool.and_eq_true, or_and_left, or_and_left]
        exact ⟨ha, hb⟩
      exact ⟨hboth h.1 h'.1, fun d hd => hboth (h.2 d hd) (h'.2 d hd)⟩

/-- The names of aliases are over two classes at once. -/
theorem isName_iff : isName cs = true ↔ NamedIn (fun c => isLetter c && startsId c)
    (fun c => isLetterOrNumber c && continuesId c) cs := by
  cases cs with
  | nil => exact ⟨nofun, nofun⟩
  | cons c rest =>
    rw [isName, Bool.and_eq_true, List.all_eq_true]
    exact and_congr isStart_iff (forall₂_congr fun d _ => isPart_iff)

theorem isIdentifier_iff : isIdentifier cs = true ↔ NamedIn isLetter isLetterOrNumber cs := by
  cases cs with
  | nil => exact ⟨nofun, nofun⟩
  | cons c rest =>
    simp [isIdentifier, NamedIn, startsIdentifier, continuesIdentifier, isLetter, isLetterOrNumber,
      or_assoc]

theorem NamedIn.point_notMem (h : NamedIn isLetter isLetterOrNumber cs) : '.' ∉ cs := by
  cases cs with
  | nil => exact List.not_mem_nil
  | cons c rest =>
    intro hpoint
    rcases List.mem_cons.1 hpoint with rfl | hpoint
    · exact absurd h.1 (by decide +kernel)
    · exact absurd (h.2 _ hpoint) (by decide +kernel)

/-- Names without points are the pieces between the points. -/
theorem segments_append {properties : List (List Char)} (hcs : '.' ∉ cs)
    (hproperties : ∀ w ∈ properties, '.' ∉ w) :
    segments (cs ++ properties.flatMap ('.' :: ·)) = cs :: properties := by
  induction properties generalizing cs with
  | nil =>
    induction cs with
    | nil => rfl
    | cons c cs ih =>
      obtain ⟨hc, hcs⟩ := not_or.1 (mt List.mem_cons.2 hcs)
      rw [List.cons_append, segments, ih hcs]
      simp [Ne.symm hc]
  | cons w properties ihw =>
    rw [List.forall_mem_cons] at hproperties
    have hmore := ihw hproperties.1 hproperties.2
    induction cs with
    | nil =>
      rw [List.flatMap_cons, List.nil_append, List.cons_append, segments, hmore]
      rfl
    | cons c cs ih =>
      obtain ⟨hc, hcs⟩ := not_or.1 (mt List.mem_cons.2 hcs)
      rw [List.cons_append, segments, ih hcs]
      simp [Ne.symm hc]

theorem toList_intercalate (w : String) (ws : List String) :
    (".".intercalate (w :: ws)).toList = w.toList ++ ws.flatMap ('.' :: ·.toList) := by
  induction ws generalizing w with
  | nil => simp
  | cons v ws ih =>
    rw [String.intercalate_cons_cons, String.toList_append, String.toList_append, ih]
    simp

/-- Names with points between them are the pieces of a text. -/
theorem joins_iff {p : List Char → Prop} (hp : ∀ cs, p cs → '.' ∉ cs) {text : String} {a : Alias} :
    Joins p text a ↔ ∃ root properties, segments text.toList = root :: properties ∧
      (∀ w ∈ root :: properties, p w) ∧ reserved.contains (String.ofList root) = false ∧
      a = ⟨String.ofList root, properties.map String.ofList⟩ := by
  constructor
  · rintro ⟨rfl, hnames, hroot⟩
    obtain ⟨root, properties⟩ := a
    rw [List.forall_mem_cons] at hnames
    have hproperties : ∀ w ∈ properties.map String.toList, p w := List.forall_mem_map.2 hnames.2
    refine ⟨root.toList, properties.map String.toList, ?_, List.forall_mem_cons.2
      ⟨hnames.1, hproperties⟩, by simpa using hroot, by simp [Function.comp_def]⟩
    rw [toList_intercalate, ← List.flatMap_map (f := String.toList)]
    exact segments_append (hp _ hnames.1) fun w hw => hp w (hproperties w hw)
  · rintro ⟨root, properties, hsegments, hnames, hroot, rfl⟩
    refine ⟨String.toList_injective ?_, ?_, by simpa using hroot⟩
    · rw [eq_of_segments hsegments, toList_intercalate]
      simp [List.flatMap_map]
    · rw [← List.map_cons (f := String.ofList), List.forall_mem_map]
      intro w hw
      rw [String.toList_ofList]
      exact hnames w hw

/-! ## Flaws -/

open Lexer

theorem startsIdentifier_iff :
    startsIdentifier c = true ↔ c = '_' ∨ c = '$' ∨ isLetter c = true := by
  simp [startsIdentifier, isLetter, or_assoc]

theorem continuesIdentifier_iff :
    continuesIdentifier c = true ↔ c = '_' ∨ c = '$' ∨ isLetterOrNumber c = true := by
  simp [continuesIdentifier, isLetterOrNumber, or_assoc]

theorem continues_of_starts (h : startsIdentifier c = true) : continuesIdentifier c = true := by
  refine continuesIdentifier_iff.2 ((startsIdentifier_iff.1 h).imp_right (.imp_right fun h => ?_))
  rw [isLetter] at h
  rw [isLetterOrNumber, h, Bool.true_or]

/-- In ASCII the first check has the letters and numbers that names have. -/
theorem agrees_ascii (hc : c.toNat < 128) :
    startsIdentifier c = isNameStart c ∧ continuesIdentifier c = isNamePart c :=
  of_ascii (p := fun c => startsIdentifier c = isNameStart c ∧ continuesIdentifier c = isNamePart c)
    (by decide +kernel) hc

theorem isBare_of_continues (h : continuesIdentifier c = true) : isBare c = true := by
  have hplain : startsPlainly c = true :=
    startsPlainly_of (by decide +kernel) (by decide +kernel) (by decide +kernel) h
  refine isBare_iff.2 ⟨hplain, (Nat.lt_or_ge c.toNat 128).symm.imp_right fun hascii => .inl ?_⟩
  rw [← (agrees_ascii hascii).2, h]

/-- A letter that starts no identifier is a flaw. -/
theorem isStray_of_starts (h : startsIdentifier c = true) (hname : isNameStart c = false) :
    isStray c = true := by
  refine isStray_iff.2 ⟨Nat.not_lt.1 fun hascii => ?_, hname⟩
  rw [(agrees_ascii hascii).1, hname] at h
  cases h

/-- A letter or number that goes on with no identifier is a flaw. -/
theorem isStray_of_continues (h : continuesIdentifier c = true) (hname : isNamePart c = false) :
    isStray c = true := by
  have hstart : isNameStart c = false := by
    rw [Bool.eq_false_iff]
    intro hstart
    rw [isNamePart_of_isNameStart hstart] at hname
    cases hname
  refine isStray_iff.2 ⟨Nat.not_lt.1 fun hascii => ?_, hstart⟩
  rw [(agrees_ascii hascii).2, hname] at h
  cases h

/-- An identifier that is no word has a flaw in it: at its start, or behind the word it starts
with. -/
theorem hasStray_append (hcs : isIdentifier cs = true) (hflaw : ¬ IsWord cs)
    (behind : List Char) : HasStray (cs ++ behind) := by
  cases cs with
  | nil => cases hcs
  | cons c rest =>
    rw [isIdentifier, Bool.and_eq_true, List.all_eq_true] at hcs
    have hcontinues : ∀ d ∈ c :: rest, continuesIdentifier d = true :=
      List.forall_mem_cons.2 ⟨continues_of_starts hcs.1, hcs.2⟩
    cases hname : isNameStart c with
    | false => exact .here (isStray_of_starts hcs.1 hname)
    | true =>
      have hcut := List.takeWhile_append_dropWhile (p := isNamePart) (l := c :: rest)
      have hword : IsWord ((c :: rest).takeWhile isNamePart) := by
        refine ⟨⟨c, ?_, hname⟩, List.all_eq_true.1 List.all_takeWhile⟩
        rw [List.takeWhile_cons_of_pos (isNamePart_of_isNameStart hname)]
        rfl
      cases hdrop : (c :: rest).dropWhile isNamePart with
      | nil =>
        rw [hdrop, List.append_nil] at hcut
        exact absurd (hcut ▸ hword) hflaw
      | cons d more =>
        have hd : isNamePart d = false := by
          have hhead := List.head?_dropWhile_not isNamePart (c :: rest)
          simpa [hdrop] using hhead
        have hcontinue : continuesIdentifier d = true :=
          hcontinues d ((List.dropWhile_suffix isNamePart).subset (hdrop ▸ List.mem_cons_self))
        have hdash : d ≠ '\\' := by
          rintro rfl
          rw [(agrees_ascii (by decide)).2] at hcontinue
          exact absurd hcontinue (by decide)
        rw [← hcut, hdrop, List.append_assoc]
        exact .word hword (endsWord_cons ⟨hd, hdash⟩) (.here (isStray_of_continues hcontinue hd))

/-- Where an identifier starts, a point in front of it is a mark of its own. -/
theorem endsMark_of_isIdentifier (hcs : isIdentifier cs = true) (behind : List Char) :
    EndsMark "." (cs ++ behind) := by
  cases cs with
  | nil => cases hcs
  | cons c rest =>
    rw [isIdentifier, Bool.and_eq_true] at hcs
    rintro - _ ⟨⟩
    constructor
    · rw [Bool.eq_false_iff]
      intro hdigit
      have hascii : c.toNat < 128 := of_isDigit (p := fun c => c.toNat < 128) (by decide) hdigit
      rw [(agrees_ascii hascii).1] at hcs
      rw [isDigit_of_isNameStart hcs.1] at hdigit
      cases hdigit
    · rintro rfl
      rw [(agrees_ascii (by decide)).1] at hcs
      exact absurd hcs.1 (by decide)

/-- One name that is no word puts a flaw into the whole text. -/
theorem hasStray_joins {w : String} {ws : List String} (behind : List Char)
    (hnames : ∀ v ∈ w :: ws, isIdentifier v.toList = true)
    (hflaw : ∃ v ∈ w :: ws, ¬ IsWord v.toList) :
    HasStray (w.toList ++ (ws.flatMap ('.' :: ·.toList) ++ behind)) := by
  induction ws generalizing w with
  | nil =>
    obtain ⟨v, hv, hflaw⟩ := hflaw
    cases List.mem_singleton.1 hv
    exact hasStray_append (hnames _ List.mem_cons_self) hflaw _
  | cons v ws ih =>
    rw [List.forall_mem_cons] at hnames
    by_cases hword : IsWord w.toList
    · have hmore : ∃ u ∈ v :: ws, ¬ IsWord u.toList := by
        obtain ⟨u, hu, hflaw⟩ := hflaw
        refine ⟨u, (List.mem_cons.1 hu).resolve_left ?_, hflaw⟩
        rintro rfl
        exact hflaw hword
      have hpoint := HasStray.point (endsMark_of_isIdentifier (hnames.2 v List.mem_cons_self) _)
        (ih hnames.2 hmore)
      rw [List.flatMap_cons, List.cons_append, List.cons_append, List.append_assoc]
      exact .word hword (endsWord_cons (by decide)) hpoint
    · exact hasStray_append hnames.1 hword _

theorem isBare_of_isIdentifier (hcs : isIdentifier cs = true) : ∀ c ∈ cs, isBare c = true := by
  cases cs with
  | nil => cases hcs
  | cons c rest =>
    rw [isIdentifier, Bool.and_eq_true, List.all_eq_true] at hcs
    exact List.forall_mem_cons.2 ⟨isBare_of_continues (continues_of_starts hcs.1),
      fun d hd => isBare_of_continues (hcs.2 d hd)⟩

theorem isBare_joins {w : String} {ws : List String}
    (hnames : ∀ v ∈ w :: ws, isIdentifier v.toList = true) :
    ∀ c ∈ w.toList ++ (ws.flatMap ('.' :: ·.toList) ++ [';']), isBare c = true := by
  rw [List.forall_mem_cons] at hnames
  refine List.forall_mem_append.2 ⟨isBare_of_isIdentifier hnames.1, List.forall_mem_append.2
    ⟨fun c hc => ?_, List.forall_mem_singleton.2 (by decide)⟩⟩
  obtain ⟨v, hv, hc⟩ := List.mem_flatMap.1 hc
  rcases List.mem_cons.1 hc with rfl | hc
  · decide
  · exact isBare_of_isIdentifier (hnames.2 v hv) c hc

/-! ## The third check -/

theorem isWord_iff (h : NamedIn isLetter isLetterOrNumber cs) :
    IsWord cs ↔ NamedIn startsId continuesId cs := by
  cases cs with
  | nil => cases h
  | cons c rest =>
    -- The two joiners that words may have besides are no letters and no numbers.
    have hpart : ∀ d ∈ rest, isNamePart d = true ↔ d = '_' ∨ d = '$' ∨ continuesId d = true := by
      intro d hd
      have hjoiner : ∀ e, continuesIdentifier e = false → d ≠ e := by
        rintro _ he rfl
        rw [continuesIdentifier_iff.2 (h.2 d hd)] at he
        cases he
      rw [isNamePart_iff]
      simp [hjoiner '\u200c' (by decide +kernel), hjoiner '\u200d' (by decide +kernel), continuesId]
    constructor
    · rintro ⟨⟨_, ⟨⟩, hstart⟩, hparts⟩
      exact ⟨isNameStart_iff.1 hstart,
        fun d hd => (hpart d hd).1 (hparts d (List.mem_cons_of_mem _ hd))⟩
    · rintro ⟨hstart, hparts⟩
      have hname := isNameStart_iff.2 hstart
      exact ⟨⟨c, rfl, hname⟩, List.forall_mem_cons.2
        ⟨isNamePart_of_isNameStart hname, fun d hd => (hpart d hd).2 (hparts d hd)⟩⟩

variable {text : String} {a : Alias}

/-- Words with points between them are an alias. -/
theorem Joins.spells (h : Joins IsWord text a) : Spells text a where
  root := ⟨by simpa using h.root, notMem_marks (h.names _ List.mem_cons_self)⟩
  words := h.names
  text := by rw [h.text, toList_intercalate]

/-- The texts that pass the first two checks are refused by the third one if they have characters
that no identifier has, and only then. -/
theorem isSome_ofText?_iff (h : Joins (NamedIn isLetter isLetterOrNumber) text a) :
    (Stmt.ofText? (text ++ ";")).isSome = true ↔
      ∀ w ∈ a.root :: a.properties, NamedIn startsId continuesId w.toList := by
  have hwords : (∀ w ∈ a.root :: a.properties, IsWord w.toList) ↔
      ∀ w ∈ a.root :: a.properties, NamedIn startsId continuesId w.toList :=
    forall₂_congr fun w hw => isWord_iff (h.names w hw)
  rw [← hwords]
  constructor
  · refine fun hsome w hw => Decidable.byContradiction fun hflaw => ?_
    have hnames : ∀ w ∈ a.root :: a.properties, isIdentifier w.toList = true :=
      fun w hw => isIdentifier_iff.2 (h.names w hw)
    have htext : (text ++ ";").toList =
        a.root.toList ++ (a.properties.flatMap ('.' :: ·.toList) ++ [';']) := by
      rw [h.text, String.toList_append, toList_intercalate, List.append_assoc]
      rfl
    have hbare := isBare_joins hnames
    have hstray := hasStray_joins [';'] hnames ⟨w, hw, hflaw⟩
    rw [← htext] at hbare hstray
    rw [Stmt.ofText?_eq_none hbare hstray] at hsome
    cases hsome
  · intro hall
    rw [Snippet.ofText?_alias (Joins.spells ⟨h.text, hall, h.root⟩)]
    rfl

/-! ## What is accepted -/

theorem ofString?_iff_joins : ofString? text = some a ↔
    Joins (NamedIn (fun c => isLetter c && startsId c) fun c => isLetterOrNumber c && continuesId c)
      text a := by
  rw [joins_iff fun cs h => (namedIn_and.1 h).1.point_notMem, ofString?_eq_some_iff]
  simp only [List.all_eq_true, isName_iff]

theorem joins_and :
    Joins (NamedIn (fun c => start c && start' c) fun c => part c && part' c) text a ↔
    Joins (NamedIn start part) text a ∧
      ∀ w ∈ a.root :: a.properties, NamedIn start' part' w.toList := by
  constructor
  · intro h
    exact ⟨⟨h.text, fun w hw => (namedIn_and.1 (h.names w hw)).1, h.root⟩,
      fun w hw => (namedIn_and.1 (h.names w hw)).2⟩
  · rintro ⟨h, hnames⟩
    exact ⟨h.text, fun w hw => namedIn_and.2 ⟨h.names w hw, hnames w hw⟩, h.root⟩

theorem passes_iff : passes text = true ↔ ∃ a, Joins (NamedIn isLetter isLetterOrNumber) text a ∧
    (Stmt.ofText? (text ++ ";")).isSome = true := by
  simp only [joins_iff fun cs h => NamedIn.point_notMem h]
  unfold passes
  split
  next h => simp [h]
  next root properties h =>
    simp only [Bool.and_eq_true, List.all_eq_true, isIdentifier_iff, Bool.not_eq_true']
    constructor
    · rintro ⟨⟨hnames, hroot⟩, hsome⟩
      exact ⟨_, ⟨root, properties, h, hnames, hroot, rfl⟩, hsome⟩
    · rintro ⟨a, ⟨root', properties', h', hnames, hroot, -⟩, hsome⟩
      cases h.symm.trans h'
      exact ⟨⟨hnames, hroot⟩, hsome⟩

/-- What is accepted as an alias: names with single points between them, over the letters and
numbers that identifiers have, where the first name is not reserved. The three checks accept this
grammar. Of the texts that pass the first two, the third refuses those with a character no
identifier has; and what all three accept is one statement, a name and the properties asked of
it. -/
theorem isValid_iff_joins (text : String) :
    (isValid text = true ↔ ∃ a, Joins (NamedIn (fun c => isLetter c && startsId c)
      fun c => isLetterOrNumber c && continuesId c) text a) ∧
    isValid text = passes text ∧
    (∀ a, Joins (NamedIn isLetter isLetterOrNumber) text a →
      ((Stmt.ofText? (text ++ ";")).isSome = true ↔
        ∀ w ∈ a.root :: a.properties, NamedIn startsId continuesId w.toList)) ∧
    ∀ a, ofString? text = some a → Stmt.ofText? (text ++ ";") =
      some (.expression .synthetic (a.properties.foldl .madeMember (.madeName a.root))) := by
  have hvalid : isValid text = true ↔ ∃ a, Joins (NamedIn (fun c => isLetter c && startsId c)
      fun c => isLetterOrNumber c && continuesId c) text a := by
    rw [isValid, Option.isSome_iff_exists]
    exact exists_congr fun a => ofString?_iff_joins
  refine ⟨hvalid, Bool.eq_iff_iff.2 ?_, fun a => isSome_ofText?_iff, fun a ha => ?_⟩
  · rw [hvalid, passes_iff]
    refine exists_congr fun a => joins_and.trans (and_congr_right fun h => ?_)
    exact (isSome_ofText?_iff h).symm
  · exact Snippet.ofText?_alias (spells_of_ofString? ha)

/-- A letter in a circle passes the first check, but no identifier has it. A reserved word is
accepted behind a point. -/
theorem circledLetter_refused :
    Joins (NamedIn isLetter isLetterOrNumber) "lp.\u24b6" ⟨"lp", ["\u24b6"]⟩ ∧
      (Stmt.ofText? ("lp.\u24b6" ++ ";")).isSome = false ∧ passes "lp.\u24b6" = false ∧
      ofString? "lp.for" = some ⟨"lp", ["for"]⟩ ∧ passes "lp.for" = true ∧
      Stmt.ofText? ("lp.for" ++ ";") =
        some (.expression .synthetic (.madeMember (.madeName "lp") "for")) := by
  obtain ⟨-, hpasses, hread, -⟩ := isValid_iff_joins "lp.\u24b6"
  obtain ⟨-, hpasses', -, hread'⟩ := isValid_iff_joins "lp.for"
  have hvalid : isValid "lp.\u24b6" = false := by decide +kernel
  have halias : ofString? "lp.for" = some ⟨"lp", ["for"]⟩ := by decide +kernel
  have hjoins : Joins (NamedIn isLetter isLetterOrNumber) "lp.\u24b6" ⟨"lp", ["\u24b6"]⟩ := by
    refine ⟨by decide +kernel, fun w hw => isIdentifier_iff.1 ?_, by decide +kernel⟩
    have hall : ["lp", "\u24b6"].all (fun w => isIdentifier w.toList) = true := by decide +kernel
    exact List.all_eq_true.1 hall w hw
  refine ⟨hjoins, ?_, hpasses ▸ hvalid, halias, ?_, hread' _ halias⟩
  · rw [Bool.eq_false_iff]
    intro hsome
    have hnamed := (hread _ hjoins).1 hsome "\u24b6" (by decide)
    exact absurd (isName_iff.2 (namedIn_and.2 ⟨hjoins.names _ (by decide), hnamed⟩))
      (by decide +kernel)
  · rw [← hpasses', isValid, halias]
    rfl

end Alias

end LoopGuard
