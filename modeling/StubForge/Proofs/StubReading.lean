import StubForge.Proofs.PhpReading
import StubForge.Proofs.StubPaths
import StubForge.Proofs.StubText

set_option autoImplicit false

/-!
The texts of the stubs read back: as long as what is put into them leaves the marks around it alone, the files of
namespaces and the index are tables of the links that they were printed from.
-/

namespace StubForge.Stubs

open Php

/-! ### Scanning the texts -/

-- Texts of a configuration and names of commands that leave the marks around them alone: segments of names and the
-- texts of aliases stand for themselves between quotes, and what is put into comments does not end them.
structure Tame (config : Configuration) (commands : List Command) : Prop where
  segments : ∀ command ∈ commands, ∀ segment ∈ Name.segments command.fullName, Quotable segment.toList
  remarks : ∀ command ∈ commands, ∀ segment ∈ Name.segments command.fullName, Remark segment.toList
  name : Comment config.name.toList
  legal : ∀ text, config.legalText = some text → ∀ line ∈ Text.splitLines text, Comment line.toList
  aliases : ∀ entry ∈ config.aliases.getD [], Quotable entry.1.toList ∧ Quotable entry.2.toList

-- Names of identifiers are tame.
theorem tame_of_spelled {config : Configuration} {commands : List Command}
    (spelled : ∀ command ∈ commands, Name.Spelled command.fullName) (name : Comment config.name.toList)
    (legal : ∀ text, config.legalText = some text → ∀ line ∈ Text.splitLines text, Comment line.toList)
    (aliases : ∀ entry ∈ config.aliases.getD [], Quotable entry.1.toList ∧ Quotable entry.2.toList) :
    Tame config commands := by
  have plain : ∀ command ∈ commands, ∀ segment ∈ Name.segments command.fullName,
      ∀ c ∈ ['\'', '\\', '\n', '\r', '?'], c ∉ segment.toList := by
    intro command given segment held c other inside
    have goes := continues_of_identifier segment (spelled command given segment held) c inside
    have ends : ∀ c ∈ ['\'', '\\', '\n', '\r', '?'], Text.continuesIdentifier c = false := by
      simp only [List.forall_mem_cons, List.not_mem_nil, false_imp_iff, implies_true, and_true]
      decide
    rw [ends c other] at goes
    cases goes
  refine ⟨fun command given segment held => ?_, fun command given segment held => ?_, name, legal, aliases⟩
  · exact quotable_of_plain _ (plain command given segment held _ (by decide))
      (plain command given segment held _ (by decide))
  · exact remark_of_plain _ (plain command given segment held _ (by decide))
      (plain command given segment held _ (by decide)) (plain command given segment held _ (by decide))

theorem digits_unslashed (n : Nat) : '/' ∉ Nat.toDigits 10 n :=
  fun inside => absurd (Text.digits_of_to_digits n '/' inside) (by decide)

theorem two_digits_unslashed (n : Nat) : '/' ∉ (Moment.twoDigits n).toList := by
  simp [Moment.twoDigits, Text.padLeft, digits_unslashed]

theorem int_text_unslashed (n : Int) : '/' ∉ (Text.intText n).toList := by
  cases n <;> simp [Text.intText, Text.natText, digits_unslashed]

theorem offset_text_unslashed (offset : Option Int) : '/' ∉ (Moment.offsetText offset).toList := by
  cases offset with
  | none => simp [Moment.offsetText]
  | some offset =>
      simp only [Moment.offsetText, String.toList_append, List.mem_append, two_digits_unslashed, or_false]
      split <;> split <;> simp [two_digits_unslashed]

theorem header_text_unslashed (moment : Moment) : '/' ∉ moment.headerText.toList := by
  have named : ∀ names ∈ [Moment.weekdayNames, Moment.monthNames], ∀ name ∈ names, '/' ∉ name.toList := by decide
  have chosen : ∀ names ∈ [Moment.weekdayNames, Moment.monthNames], ∀ index, '/' ∉ (names.getD index "").toList := by
    intro names member index
    by_cases bound : index < names.length
    · simpa [List.getD, bound] using named names member _ (List.getElem_mem bound)
    · simp [List.getD, bound]
  have weekday := chosen _ (.head _) moment.date.weekday
  have month := chosen _ (.tail _ (.head _)) (moment.date.month - 1)
  unfold Moment.headerText
  simp only [String.toList_append, List.mem_append, not_or]
  simp [Text.natText, digits_unslashed, two_digits_unslashed, int_text_unslashed, offset_text_unslashed,
    -List.getD_eq_getElem?_getD, weekday, month]

theorem scans_legal (legal : Option String)
    (tame : ∀ text, legal = some text → ∀ line ∈ Text.splitLines text, Comment line.toList) :
    Scans (.block false) (legalPart legal) (.block false) [] := by
  cases legal with
  | none => rfl
  | some text =>
      rw [legalPart]
      split
      · rfl
      · refine scans_through (scans_flat_through _ _ _ fun line member => ?_) (by rfl)
        obtain ⟨star, inside⟩ := tame text rfl line member
        refine scans_through (scans_through ?_ inside) ?_
        · rfl
        · cases star <;> rfl

theorem scans_header (generator : Generator) (name : Comment generator.config.name.toList)
    (legal : ∀ text, generator.config.legalText = some text → ∀ line ∈ Text.splitLines text, Comment line.toList) :
    Scans (.outside 0) (headerText generator) .code [] := by
  obtain ⟨star, named⟩ := name
  obtain ⟨last, dated⟩ := comment_of_plain _ (header_text_unslashed generator.scene.moment)
  have opened : Scans (.outside 0) "<?php\n/*\n".toList (.block false) [] := by rfl
  have leads : Scans (.block false) " * Generated by ipcstub (".toList (.block false) [] := by rfl
  have between : Scans (.block star) ") on ".toList (.block false) [] := by cases star <;> rfl
  have closed : Scans (.block last) ".\n * Do not edit by hand.\n */\n".toList .code [] := by cases last <;> rfl
  unfold headerText
  exact scans_through (scans_through (scans_through (scans_through (scans_through (scans_through opened
    (scans_legal _ legal)) leads) named) between) dated) closed

theorem scans_link (key place : String) (keyed : Quotable key.toList) (placed : Quotable place.toList) :
    Scans .code (linkText key place) .code (linkTokens (key, "/" ++ place)) := by
  have opened : Scans .code "        '".toList (.quoted []) [] := by rfl
  have between : Scans (.quoted key.toList) "' => __DIR__ . '/".toList (.quoted ['/'])
      [.literal (String.ofList key.toList), .symbol '=', .symbol '>', .word "__DIR__", .symbol '.'] := by rfl
  have closed : Scans (.quoted ('/' :: place.toList)) "',\n".toList .code
      [.literal (String.ofList ('/' :: place.toList)), .symbol ','] := by rfl
  have whole := scans_append (scans_append (scans_append (scans_append opened (keyed [])) between) (placed ['/'])) closed
  rw [String.ofList_cons, String.ofList_toList] at whole
  unfold linkText
  simpa [linkTokens, keyTokens] using whole

theorem scans_alias (entry : String × String) (keyed : Quotable entry.1.toList) (held : Quotable entry.2.toList) :
    Scans .code (aliasText entry) .code (textTokens entry) := by
  have opened : Scans .code "        '".toList (.quoted []) [] := by rfl
  have between : Scans (.quoted entry.1.toList) "' => '".toList (.quoted [])
      [.literal (String.ofList entry.1.toList), .symbol '=', .symbol '>'] := by rfl
  have closed : Scans (.quoted entry.2.toList) "',\n".toList .code
      [.literal (String.ofList entry.2.toList), .symbol ','] := by rfl
  have whole := scans_append (scans_append (scans_append (scans_append opened (keyed [])) between) (held [])) closed
  unfold aliasText
  simpa [textTokens, keyTokens] using whole

def packageLinks (forest : Forest) (node : Nat) : List (String × String) :=
  (forest.children node).map fun child => (forest.name child, "/" ++ (forest.name child ++ "/_package.php"))

def commandLinks (forest : Forest) (node : Nat) : List (String × String) :=
  (forest.commands node).map fun command => (command.name, "/" ++ (command.name ++ ".php"))

def indexLinks (forest : Forest) : List (String × String) :=
  forest.allCommands.map fun command => (command.fullName, "/" ++ commandPath command.fullName)

def packageTokens (forest : Forest) (node : Nat) : List Token :=
  tableTokens "packages" ((packageLinks forest node).flatMap linkTokens)
    "commands" ((commandLinks forest node).flatMap linkTokens)

def indexTokens (config : Configuration) (forest : Forest) : List Token :=
  tableTokens "commands" ((indexLinks forest).flatMap linkTokens) "aliases" ((config.aliases.getD []).flatMap textTokens)

theorem scans_package (forest : Forest) (node : Nat) (named : Remark (forest.fullName node).toList)
    (children : ∀ child ∈ forest.children node, Quotable (forest.name child).toList)
    (commands : ∀ command ∈ forest.commands node, Quotable command.name.toList) :
    Scans .code (packageText forest node) .code (packageTokens forest node) := by
  obtain ⟨question, inside⟩ := named
  have opened : Scans .code "\n// namespace ".toList (.line false) [] := by rfl
  have begun : Scans (.line question) "\nreturn array(\n    'packages' => array(\n".toList .code
      (returnTokens ++ partTokens "packages") := by cases question <;> rfl
  have below := scans_flat .code (forest.children node)
    (fun child => linkText (forest.name child) (forest.name child ++ "/_package.php"))
    (fun child => linkTokens (forest.name child, "/" ++ (forest.name child ++ "/_package.php"))) fun child member =>
      scans_link _ _ (children child member) (by
        rw [String.toList_append]
        exact quotable_append (children child member) (quotable_of_plain _ (by decide) (by decide)))
  have between : Scans .code "    ),\n    'commands' => array(\n".toList .code
      (.symbol ')' :: .symbol ',' :: partTokens "commands") := by rfl
  have own := scans_flat .code (forest.commands node)
    (fun command => linkText command.name (command.name ++ ".php"))
    (fun command => linkTokens (command.name, "/" ++ (command.name ++ ".php"))) fun command member =>
      scans_link _ _ (commands command member) (by
        rw [String.toList_append]
        exact quotable_append (commands command member) (quotable_of_plain _ (by decide) (by decide)))
  have closed : Scans .code "    ),\n);\n".toList .code [.symbol ')', .symbol ',', .symbol ')', .symbol ';'] := by rfl
  have whole := scans_append (scans_append (scans_append (scans_append (scans_append (scans_through opened inside)
    begun) below) between) own) closed
  unfold packageText
  simp only [packageTokens, tableTokens, packageLinks, commandLinks, List.flatMap_map, List.append_assoc,
    List.cons_append, List.nil_append] at whole ⊢
  exact whole


theorem scans_index (config : Configuration) (forest : Forest)
    (keys : ∀ command ∈ forest.allCommands, Quotable command.fullName.toList)
    (places : ∀ command ∈ forest.allCommands, Quotable (commandPath command.fullName).toList)
    (aliases : ∀ entry ∈ config.aliases.getD [], Quotable entry.1.toList ∧ Quotable entry.2.toList) :
    Scans .code (indexText config forest) .code (indexTokens config forest) := by
  have opened : Scans .code "\nreturn array(\n    'commands' => array(\n".toList .code
      (returnTokens ++ partTokens "commands") := by rfl
  have entries := scans_flat .code forest.allCommands
    (fun command => linkText command.fullName (commandPath command.fullName))
    (fun command => linkTokens (command.fullName, "/" ++ commandPath command.fullName)) fun command member =>
      scans_link _ _ (keys command member) (places command member)
  have between : Scans .code "    ),\n    'aliases' => array(\n".toList .code
      (.symbol ')' :: .symbol ',' :: partTokens "aliases") := by rfl
  have texts := scans_flat .code (config.aliases.getD []) aliasText textTokens fun entry member =>
    scans_alias entry (aliases entry member).1 (aliases entry member).2
  have closed : Scans .code "    ),\n);\n".toList .code [.symbol ')', .symbol ',', .symbol ')', .symbol ';'] := by rfl
  have whole := scans_append (scans_append (scans_append (scans_append opened entries) between) texts) closed
  unfold indexText
  simp only [indexTokens, tableTokens, indexLinks, List.flatMap_map, List.append_assoc, List.cons_append,
    List.nil_append] at whole ⊢
  exact whole

/-! ### Reading the texts -/

def besides (part : String) (links : List (String × String)) : List Line :=
  links.map fun link => ⟨part, link.1, .beside link.2⟩

theorem links_of_two (first second : String) (before after : List (String × String)) (apart : first ≠ second) :
    links first (besides first before ++ besides second after) = before ∧
      links second (besides first before ++ besides second after) = after := by
  simp [links, besides, List.filterMap_map, apart, Ne.symm apart]

theorem links_before_texts (part second : String) (own entries : List (String × String)) :
    links part (besides part own ++ entries.map fun entry => ⟨second, entry.1, .text entry.2⟩) = own := by
  simp [links, besides, List.filterMap_map]

-- The texts of the segments of a name hold for the name as a whole, with dots or slashes between them.
theorem quotable_of_segments (name : String) (each : ∀ segment ∈ Name.segments name, Quotable segment.toList) :
    Quotable name.toList ∧ Quotable (slashed name).toList := by
  have pieces : ∀ piece ∈ Text.splitAt '.' name.toList, Quotable piece := by
    intro piece member
    simpa using each _ (List.mem_map_of_mem member)
  constructor
  · rw [← Text.join_split_at '.' name.toList]
    exact quotable_join '.' (quotable_of_plain _ (by decide) (by decide)) _ pieces
  · rw [slashed_chars, ← Text.join_split_at_swapped]
    exact quotable_join '/' (quotable_of_plain _ (by decide) (by decide)) _ pieces

theorem remark_of_segments (name : String) (each : ∀ segment ∈ Name.segments name, Remark segment.toList) :
    Remark name.toList := by
  rw [← Text.join_split_at '.' name.toList]
  refine remark_join _ fun piece member => ?_
  simpa using each _ (List.mem_map_of_mem member)

theorem given_of_all {commands : List Command} {forest : Forest} (built : Forest.ofCommands commands = .ok forest)
    (command : Command) (member : command ∈ forest.allCommands) : command ∈ commands := by
  obtain ⟨node, inside, own⟩ := List.mem_flatMap.mp member
  rw [(Forest.filled_of_commands commands forest built).ordered, List.mem_range] at inside
  exact (command_of_node built node inside command own).1

section

variable {generator : Generator} {commands : List Command}
  (built : Forest.ofCommands commands = .ok generator.scene.forest) (tame : Tame generator.config commands)
include built tame

theorem read_package (node : Nat) (bound : node < generator.scene.forest.size) :
    read? (String.ofList (headerText generator ++ packageText generator.scene.forest node)) =
      some (besides "packages" (packageLinks generator.scene.forest node)
        ++ besides "commands" (commandLinks generator.scene.forest node)) := by
  have represents := Forest.represents_of_commands commands _ built
  have segments : ∀ node < generator.scene.forest.size, ∀ segment ∈ Name.segments (generator.scene.forest.fullName node),
      Quotable segment.toList ∧ Remark segment.toList := by
    intro node bound segment inside
    obtain ⟨command, given, inside⟩ := segment_of_node built node bound segment inside
    exact ⟨tame.segments command given segment inside, tame.remarks command given segment inside⟩
  have scanned := scans_through (scans_header generator tame.name tame.legal)
    (scans_package generator.scene.forest node (remark_of_segments _ fun segment inside => (segments node bound segment inside).2)
      (fun child member => ?_) (fun command member => ?_))
  · rw [packageTokens, ← @String.toList_ofList (headerText generator ++ _)] at scanned
    exact read_of_scan _ _ _ _ _ _ _ scanned (read_links _ _) (read_links _ _)
  · have linked := (represents.linked child node).mp member
    obtain ⟨-, plain, named⟩ := represents.named child (Forest.parent_in_forest _ child node linked)
    rw [linked] at named
    refine (segments child (Forest.parent_in_forest _ child node linked) _ ?_).1
    rw [named, Name.segments_child _ _ plain]
    simp
  · obtain ⟨given, named, plain⟩ := command_of_node built node bound command member
    refine tame.segments command given _ ?_
    rw [named, Name.segments_child _ _ plain]
    simp

theorem read_index :
    read? (String.ofList (headerText generator ++ indexText generator.config generator.scene.forest)) =
      some (besides "commands" (indexLinks generator.scene.forest)
        ++ (generator.config.aliases.getD []).map fun entry => ⟨"aliases", entry.1, .text entry.2⟩) := by
  have quotable : ∀ command ∈ generator.scene.forest.allCommands,
      Quotable command.fullName.toList ∧ Quotable (slashed command.fullName).toList := fun command member =>
    quotable_of_segments command.fullName (tame.segments command (given_of_all built command member))
  have scanned := scans_through (scans_header generator tame.name tame.legal)
    (scans_index generator.config generator.scene.forest (fun command member => (quotable command member).1)
      (fun command member => by
        rw [commandPath, String.toList_append]
        exact quotable_append (quotable command member).2 (quotable_of_plain _ (by decide) (by decide)))
      tame.aliases)
  rw [indexTokens, ← @String.toList_ofList (headerText generator ++ _)] at scanned
  exact read_of_scan _ _ _ _ _ _ _ scanned (read_links _ _) (read_texts _ _)

end

end StubForge.Stubs
