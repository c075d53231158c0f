import StubForge.Text.Char

set_option autoImplicit false

/-!
Reading listings back: the words, symbols and quoted texts of a source, and the tables that such a source returns.
Comments, quoting and the marks around code follow the rules of the language.
-/

namespace StubForge.Php

/-! ### Tokens -/

inductive Token where
  | word (text : String)
  | symbol (c : Char)
  | literal (text : String)
  deriving DecidableEq, Repr

-- Where a scanner is: outside of the code with so many characters of its opening mark behind it, in the code, behind a character that may begin a comment or end the code, in a
-- comment up to its end mark or up to the end of its line, and in a quoted text.
inductive Mode where
  | outside (seen : Nat)
  | code
  | word (text : List Char)
  | slash
  | question
  | block (star : Bool)
  | line (question : Bool)
  | quoted (text : List Char)
  | escaped (text : List Char)
  deriving DecidableEq, Repr

def opening : List Char := ['<', '?', 'p', 'h', 'p']

def isWord (c : Char) : Bool := c.isAlphanum || c == '_'

def fromCode (c : Char) : Mode × List Token :=
  if c = '\'' then (.quoted [], [])
  else if c = '/' then (.slash, [])
  else if c = '?' then (.question, [])
  else if c = '#' then (.line false, [])
  else if Text.isAsciiBlank c then (.code, [])
  else if isWord c then (.word [c], [])
  else (.code, [.symbol c])

-- Goes on in the code behind a token that is complete.
def after (token : Token) (c : Char) : Mode × List Token := ((fromCode c).1, token :: (fromCode c).2)

def step : Mode → Char → Mode × List Token
  | .outside seen, c =>
      if opening[seen]? = some c then if seen = 4 then (.code, []) else (.outside (seen + 1), [])
      else if c = '<' then (.outside 1, []) else (.outside 0, [])
  | .code, c => fromCode c
  | .word text, c => if isWord c then (.word (text ++ [c]), []) else after (.word (String.ofList text)) c
  | .slash, c =>
      if c = '*' then (.block false, []) else if c = '/' then (.line false, []) else after (.symbol '/') c
  | .question, c => if c = '>' then (.outside 0, []) else after (.symbol '?') c
  | .block star, c => if star && c == '/' then (.code, []) else (.block (c == '*'), [])
  | .line question, c =>
      if c = '\n' ∨ c = '\r' then (.code, [])
      else if question && c == '>' then (.outside 0, [])
      else (.line (c == '?'), [])
  | .quoted text, c =>
      if c = '\'' then (.code, [.literal (String.ofList text)])
      else if c = '\\' then (.escaped text, [])
      else (.quoted (text ++ [c]), [])
  | .escaped text, c => (.quoted (if c = '\'' ∨ c = '\\' then text ++ [c] else text ++ ['\\', c]), [])

def scan : Mode → List Char → Mode × List Token
  | mode, [] => (mode, [])
  | mode, c :: rest => ((scan (step mode c).1 rest).1, (step mode c).2 ++ (scan (step mode c).1 rest).2)

def pending : Mode → List Token
  | .word text => [.word (String.ofList text)]
  | _ => []

def tokens (text : List Char) : List Token := (scan (.outside 0) text).2 ++ pending (scan (.outside 0) text).1

/-! ### Tables -/

inductive Item where
  | text (value : String)
  -- A path, seen from the folder of the source.
  | beside (path : String)
  deriving DecidableEq, Repr

-- A line of a table: the part of the table it stands in, its key, and what it holds.
structure Line where
  part : String
  key : String
  item : Item
  deriving DecidableEq, Repr

-- Reads what a table holds, from the beginning of a part or, in a part, from the beginning of a line.
def readTable : Option String → List Token → Option (List Line)
  | none, .literal part :: .symbol '=' :: .symbol '>' :: .word "array" :: .symbol '(' :: rest =>
      readTable (some part) rest
  | none, [.symbol ')', .symbol ';'] => some []
  | some _, .symbol ')' :: .symbol ',' :: rest => readTable none rest
  | some part, .literal key :: .symbol '=' :: .symbol '>' :: .literal value :: .symbol ',' :: rest =>
      (readTable (some part) rest).map (⟨part, key, .text value⟩ :: ·)
  | some part, .literal key :: .symbol '=' :: .symbol '>' :: .word "__DIR__" :: .symbol '.' :: .literal path
      :: .symbol ',' :: rest => (readTable (some part) rest).map (⟨part, key, .beside path⟩ :: ·)
  | _, _ => none

def readTokens : List Token → Option (List Line)
  | .word "return" :: .word "array" :: .symbol '(' :: rest => readTable none rest
  | _ => none

-- The table that a source returns.
def read? (text : String) : Option (List Line) := readTokens (tokens text.toList)

-- The keys of a part with the paths that they lead to.
def links (part : String) (lines : List Line) : List (String × String) :=
  lines.filterMap fun line =>
    match line.item with
    | .beside path => if line.part = part then some (line.key, path) else none
    | .text _ => none

example : read? "<?php // a\nreturn array('x' => array('it\\'s' => __DIR__ . '/y.php', /* b */ 'k' => 'v',),);" =
    some [⟨"x", "it's", .beside "/y.php"⟩, ⟨"x", "k", .text "v"⟩] := by rfl

/-! ### Scanning in parts -/

-- Scanning a text leads from one place to another and finds tokens.
def Scans (mode : Mode) (text : List Char) (next : Mode) (found : List Token) : Prop := scan mode text = (next, found)

theorem scans_append {first middle last : Mode} {text rest : List Char} {found more : List Token}
    (start : Scans first text middle found) (goes : Scans middle rest last more) :
    Scans first (text ++ rest) last (found ++ more) := by
  induction text generalizing first found with
  | nil =>
      cases start
      exact goes
  | cons c text ih =>
      rw [Scans, scan, Prod.mk.injEq] at start
      obtain ⟨ends, rfl⟩ := start
      have inner := ih (Prod.ext ends rfl : Scans (step first c).1 text middle _)
      rw [Scans] at inner ⊢
      rw [List.cons_append, scan, inner, List.append_assoc]

-- A text that finds nothing and stays where it is may be put between others.
theorem scans_through {first middle last : Mode} {text rest : List Char} {found : List Token}
    (start : Scans first text middle []) (goes : Scans middle rest last found) : Scans first (text ++ rest) last found :=
  scans_append start goes

theorem scans_flat {α : Type} (mode : Mode) (items : List α) (text : α → List Char) (found : α → List Token)
    (each : ∀ item ∈ items, Scans mode (text item) mode (found item)) :
    Scans mode (items.flatMap text) mode (items.flatMap found) := by
  induction items with
  | nil => rfl
  | cons item rest ih =>
      obtain ⟨own, others⟩ := List.forall_mem_cons.mp each
      exact scans_append own (ih others)

theorem scans_flat_through {α : Type} (mode : Mode) (items : List α) (text : α → List Char)
    (each : ∀ item ∈ items, Scans mode (text item) mode []) : Scans mode (items.flatMap text) mode [] := by
  have whole := scans_flat mode items text (fun _ => []) each
  rwa [List.flatMap_eq_nil_iff.mpr fun _ _ => rfl] at whole

/-! ### Inserted texts -/

-- Between single quotes, the text stands for itself.
def Quotable (text : List Char) : Prop := ∀ before, Scans (.quoted before) text (.quoted (before ++ text)) []

-- In a comment up to the end of the line, the text does not end it.
def Remark (text : List Char) : Prop := ∃ question, Scans (.line false) text (.line question) []

-- In a comment up to an end mark, the text does not end it.
def Comment (text : List Char) : Prop := ∃ star, Scans (.block false) text (.block star) []

theorem quotable_append {text rest : List Char} (first : Quotable text) (others : Quotable rest) :
    Quotable (text ++ rest) := by
  intro before
  rw [← List.append_assoc]
  exact scans_through (first before) (others (before ++ text))

theorem quotable_of_plain (text : List Char) (quote : '\'' ∉ text) (slash : '\\' ∉ text) : Quotable text := by
  induction text with
  | nil => exact fun before => by simp [Scans, scan]
  | cons c rest ih =>
      simp only [List.mem_cons, not_or] at quote slash
      intro before
      have inner := ih quote.2 slash.2 (before ++ [c])
      rw [Scans] at inner ⊢
      simp [scan, step, Ne.symm quote.1, Ne.symm slash.1, inner]

theorem quotable_join (separator : Char) (own : Quotable [separator]) (pieces : List (List Char))
    (each : ∀ piece ∈ pieces, Quotable piece) : Quotable (Text.joinWith [separator] pieces) := by
  induction pieces with
  | nil => exact fun before => by simp [Text.joinWith, Scans, scan]
  | cons piece rest ih =>
      obtain ⟨first, others⟩ := List.forall_mem_cons.mp each
      cases rest with
      | nil => exact first
      | cons next more => exact quotable_append (quotable_append first own) (ih others)

-- A single dot behind a remark begins it anew.
theorem remark_join (pieces : List (List Char)) (each : ∀ piece ∈ pieces, Remark piece) :
    Remark (Text.joinWith ['.'] pieces) := by
  induction pieces with
  | nil => exact ⟨false, rfl⟩
  | cons piece rest ih =>
      obtain ⟨⟨question, first⟩, others⟩ := List.forall_mem_cons.mp each
      cases rest with
      | nil => exact ⟨question, first⟩
      | cons next more =>
          obtain ⟨last, goes⟩ := ih others
          have dot : Scans (.line question) ['.'] (.line false) [] := by cases question <;> rfl
          exact ⟨last, scans_through (scans_through first dot) goes⟩

theorem remark_of_plain (text : List Char) (feed : '\n' ∉ text) (carriage : '\r' ∉ text) (mark : '?' ∉ text) :
    Remark text := by
  refine ⟨false, ?_⟩
  induction text with
  | nil => rfl
  | cons c rest ih =>
      simp only [List.mem_cons, not_or] at feed carriage mark
      have inner := ih feed.2 carriage.2 mark.2
      rw [Scans] at inner ⊢
      have other : (c == '?') = false := by simpa using Ne.symm mark.1
      simp [scan, step, Ne.symm feed.1, Ne.symm carriage.1, other, inner]

theorem comment_of_plain (text : List Char) (slash : '/' ∉ text) : Comment text := by
  have goes : ∀ star, ∃ last, Scans (.block star) text (.block last) [] := by
    induction text with
    | nil => exact fun star => ⟨star, rfl⟩
    | cons c rest ih =>
        simp only [List.mem_cons, not_or] at slash
        intro star
        obtain ⟨last, inner⟩ := ih slash.2 (c == '*')
        rw [Scans] at inner
        refine ⟨last, ?_⟩
        have other : (c == '/') = false := by simpa using Ne.symm slash.1
        simp [Scans, scan, step, other, inner]
  exact goes false

-- What stands in front of a text does not matter, once it leads into the code.
theorem read_behind (front other text : List Char) (leads : Scans (.outside 0) front .code [])
    (same : Scans (.outside 0) other .code []) :
    read? (String.ofList (front ++ text)) = readTokens (tokens (other ++ text)) := by
  have rest : Scans .code text (scan .code text).1 (scan .code text).2 := rfl
  have left := scans_through leads rest
  have right := scans_through same rest
  rw [Scans] at left right
  rw [read?, String.toList_ofList, tokens, tokens, left, right]

theorem read_of_symbol (front text : List Char) (mode : Mode) (c : Char) (found : List Token)
    (leads : Scans (.outside 0) front mode (.symbol c :: found)) : read? (String.ofList (front ++ text)) = none := by
  have whole := scans_append leads (rfl : Scans mode text (scan mode text).1 (scan mode text).2)
  rw [Scans] at whole
  rw [read?, String.toList_ofList, tokens, whole]
  rfl

/-! ### Lines of tables -/

def keyTokens (key : String) : List Token := [.literal key, .symbol '=', .symbol '>']

def linkTokens (link : String × String) : List Token :=
  keyTokens link.1 ++ [.word "__DIR__", .symbol '.', .literal link.2, .symbol ',']

def textTokens (entry : String × String) : List Token := keyTokens entry.1 ++ [.literal entry.2, .symbol ',']

def partTokens (part : String) : List Token := keyTokens part ++ [.word "array", .symbol '(']

def returnTokens : List Token := [.word "return", .word "array", .symbol '(']

-- A source that returns a table of two parts.
def tableTokens (first : String) (entries : List Token) (second : String) (others : List Token) : List Token :=
  returnTokens ++ partTokens first ++ entries ++ [.symbol ')', .symbol ',']
    ++ partTokens second ++ others ++ [.symbol ')', .symbol ',', .symbol ')', .symbol ';']

theorem read_links (part : String) (links : List (String × String)) (rest : List Token) (lines : List Line)
    (others : readTable (some part) rest = some lines) :
    readTable (some part) (links.flatMap linkTokens ++ rest) =
      some (links.map (fun link => ⟨part, link.1, .beside link.2⟩) ++ lines) := by
  induction links with
  | nil => exact others
  | cons link more ih =>
      change (readTable (some part) (more.flatMap linkTokens ++ rest)).map (⟨part, link.1, .beside link.2⟩ :: ·) = _
      rw [ih]
      rfl

theorem read_texts (part : String) (entries : List (String × String)) (rest : List Token) (lines : List Line)
    (others : readTable (some part) rest = some lines) :
    readTable (some part) (entries.flatMap textTokens ++ rest) =
      some (entries.map (fun entry => ⟨part, entry.1, .text entry.2⟩) ++ lines) := by
  induction entries with
  | nil => exact others
  | cons entry more ih =>
      change (readTable (some part) (more.flatMap textTokens ++ rest)).map (⟨part, entry.1, .text entry.2⟩ :: ·) = _
      rw [ih]
      rfl

theorem read_of_scan (text : String) (first second : String) (entries others : List Token) (lines more : List Line)
    (scanned : Scans (.outside 0) text.toList .code (tableTokens first entries second others))
    (front : ∀ rest lines', readTable (some first) rest = some lines' →
      readTable (some first) (entries ++ rest) = some (lines ++ lines'))
    (back : ∀ rest lines', readTable (some second) rest = some lines' →
      readTable (some second) (others ++ rest) = some (more ++ lines')) :
    read? text = some (lines ++ more) := by
  rw [Scans] at scanned
  have ended : readTable (some second) [.symbol ')', .symbol ',', .symbol ')', .symbol ';'] = some [] := rfl
  have last := back _ _ ended
  have started : readTable (some first) (.symbol ')' :: .symbol ',' :: (partTokens second ++ (others ++
      [.symbol ')', .symbol ',', .symbol ')', .symbol ';']))) = some (more ++ []) := last
  have whole := front _ _ started
  simp only [read?, tokens, scanned, pending, tableTokens, returnTokens, List.append_assoc, List.cons_append, List.nil_append,
    List.append_nil] at whole ⊢
  exact whole

end StubForge.Php
