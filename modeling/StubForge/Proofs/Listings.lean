import StubForge.Proofs.Digits
import StubForge.Proofs.Escapes
import StubForge.Proofs.Naming
import StubForge.Proofs.StubPaths

set_option autoImplicit false

/-!
Listings show what is rendered. The lines of a forest are read from the left, and what they say is what the templates of
a configuration are given: its commands in their order, below the namespaces of its forest, and indented by their depth.
-/

namespace StubForge

/-! ### Reading lines -/

-- What is said by the text that is shown for a namespace or a command: how many blanks it starts with, the name that
-- follows, and whether that is a namespace. A description stands behind the name, and may go on below it.
structure Shown where
  blanks : Nat
  name : String
  isNamespace : Bool
  deriving DecidableEq

namespace Shown

def isBlank (c : Char) : Bool := c == ' '

def isInName (c : Char) : Bool := c != ' ' && c != '/'

-- The name goes up to the next blank or slash. A slash with nothing behind it marks a namespace.
def read (text : String) : Shown :=
  let rest := text.toList.dropWhile isBlank
  { blanks := (text.toList.takeWhile isBlank).length
    name := String.ofList (rest.takeWhile isInName)
    isNamespace := rest.dropWhile isInName == ['/'] }

theorem in_name_of_identifier (name : String) (valid : Text.isIdentifier name = true) :
    ∀ c ∈ name.toList, isInName c = true := by
  intro c inside
  have continues := continues_of_identifier name valid c inside
  have noBlank : c ≠ ' ' := by
    rintro rfl
    exact absurd continues (by decide)
  have noSlash : c ≠ '/' := by
    rintro rfl
    exact absurd continues (by decide)
  simp [isInName, noBlank, noSlash]

theorem read_of_parts (levels : Nat) (name : String) (rest : List Char) (valid : Text.isIdentifier name = true)
    (ends : ∀ c ∈ rest.head?, isInName c = false) (text : String)
    (parts : text.toList = List.replicate (2 * levels) ' ' ++ (name.toList ++ rest)) :
    read text = { blanks := 2 * levels, name, isNamespace := rest == ['/'] } := by
  have letters := in_name_of_identifier name valid
  have first : ∀ c ∈ (name.toList ++ rest).head?, isBlank c = false := by
    intro c head
    cases chars : name.toList with
    | nil => exact absurd (String.toList_eq_nil_iff.mp chars) (identifier_filled name valid)
    | cons first more =>
        rw [chars] at head
        cases head
        have letter := letters c (chars ▸ List.mem_cons_self)
        simp only [isInName, Bool.and_eq_true, bne_iff_ne] at letter
        simp [isBlank, letter.1]
  obtain ⟨blanks, others⟩ := Text.take_run isBlank (List.replicate (2 * levels) ' ') (name.toList ++ rest)
    (by simp [isBlank]) first
  obtain ⟨named, left⟩ := Text.take_run isInName name.toList rest letters ends
  simp only [read, parts, blanks, others, named, left, List.length_replicate, String.ofList_toList]

end Shown

namespace Forest

/-! ### What the lines of a forest say -/

def heading (forest : Forest) (node : Nat) : Shown where
  blanks := 2 * forest.depth node
  name := forest.name node
  isNamespace := true

def entry (forest : Forest) (node : Nat) (command : Command) : Shown where
  blanks := 2 * forest.depth node + 2
  name := command.name
  isNamespace := false

-- A namespace, and then the commands that lie directly in it.
def block (forest : Forest) (node : Nat) : List Shown :=
  forest.heading node :: (forest.commands node).map (forest.entry node)

-- A listing that tells a forest from top to bottom.
structure Tells (forest : Forest) (texts : List String) : Prop where
  -- Every namespace stands there once, directly before its own commands.
  blocks : texts.map Shown.read = forest.nodes.flatMap forest.block
  once : forest.nodes = List.range forest.size
  -- The block of a namespace precedes those of the namespaces below it.
  nested : ∀ node above, node ∈ forest.children above → ∃ before between after,
    texts.map Shown.read = before ++ forest.block above ++ between ++ forest.block node ++ after
  namespaces : (texts.map Shown.read).filter (·.isNamespace) = forest.nodes.map forest.heading
  commands : ((texts.map Shown.read).filter (!·.isNamespace)).map (·.name) = forest.allCommands.map Command.name

-- What a line says about a command behind its name.
def remark (command : Command) : String :=
  (if command.metadata.deprecated then " [deprecated]" else "")
    ++ ((command.metadata.description.descriptionText?.map (" - " ++ ·)).getD "")

theorem command_line_eq (command : Command) : commandLine command = command.name ++ remark command :=
  String.append_assoc

theorem remark_chars (command : Command) :
    (remark command).toList = [] ∨ ∃ more, (remark command).toList = ' ' :: more := by
  unfold remark
  cases command.metadata.deprecated with
  | true =>
      rw [if_pos rfl, String.toList_append]
      exact .inr ⟨_, rfl⟩
  | false =>
      rw [if_neg Bool.false_ne_true]
      cases command.metadata.description.descriptionText? with
      | none => exact .inl rfl
      | some text =>
          rw [Option.map_some, Option.getD_some, String.toList_append, String.toList_append]
          exact .inr ⟨_, rfl⟩

theorem entry_read (forest : Forest) (node : Nat) (command : Command) (named : Text.isIdentifier command.name = true) :
    Shown.read (indentText (forest.depth node + 1) ++ commandLine command) = forest.entry node command := by
  have text : (indentText (forest.depth node + 1) ++ commandLine command).toList =
      List.replicate (2 * (forest.depth node + 1)) ' ' ++ (command.name.toList ++ (remark command).toList) := by
    simp [indentText, command_line_eq]
  rcases remark_chars command with none | ⟨more, chars⟩
  · rw [Shown.read_of_parts _ _ _ named (by simp [none]) _ text, none]
    rfl
  · rw [Shown.read_of_parts _ _ _ named (by simp [chars, Shown.isInName]) _ text, chars]
    rfl

theorem own_lines_read (forest : Forest) (node : Nat) (named : Text.isIdentifier (forest.name node) = true)
    (commands : ∀ command ∈ forest.commands node, Text.isIdentifier command.name = true) :
    (forest.ownLines (forest.depth node) node).map Shown.read = forest.block node := by
  rw [ownLines, block, List.map_cons, List.map_map]
  refine congrArg₂ List.cons ?_ (List.map_congr_left fun command member => ?_)
  · exact Shown.read_of_parts (forest.depth node) (forest.name node) ['/'] named (by simp [Shown.isInName]) _
      (by simp [indentText])
  · exact entry_read forest node command (commands command member)

-- By induction on how deep the lines go: they follow the walk, and one level below they are indented once more.
theorem lines_from_walk (forest : Forest)
    (deeper : ∀ node above, node ∈ forest.children above → forest.depth node = forest.depth above + 1)
    (levels node : Nat) : forest.linesFrom levels (forest.depth node) node =
      (forest.walkFrom levels node).flatMap fun node => forest.ownLines (forest.depth node) node := by
  induction levels generalizing node with
  | zero => simp [linesFrom, walkFrom]
  | succ levels ih =>
      rw [linesFrom, walkFrom, List.flatMap_cons, List.flatMap_assoc]
      refine congrArg _ (List.flatMap_congr fun child member => ?_)
      rw [← deeper child node member, ih]

-- In a range, what is smaller stands before.
theorem range_split (size node above : Nat) (before : above < node) (bound : node < size) :
    ∃ earlier between later, List.range size = earlier ++ above :: between ++ node :: later := by
  obtain ⟨front, later, split⟩ := List.append_of_mem (List.mem_range.mpr bound)
  have ascending : (front ++ node :: later).Pairwise (· < ·) := split ▸ List.pairwise_lt_range
  have inside : above ∈ front ++ node :: later := split ▸ List.mem_range.mpr (Nat.lt_trans before bound)
  have early : above ∈ front := by
    rcases List.mem_append.mp inside with early | late
    · exact early
    · have least := (List.pairwise_append.mp ascending).2.1
      rcases List.mem_cons.mp late with same | behind
      · omega
      · have greater := List.rel_of_pairwise_cons least behind
        omega
  obtain ⟨earlier, between, parted⟩ := List.append_of_mem early
  exact ⟨earlier, between, later, by rw [split, parted]⟩

section

variable {commands : List Command} {forest : Forest} (represents : Represents forest commands)
include represents

theorem depth_of_root (node : Nat) (root : node ∈ forest.roots) : forest.depth node = 1 := by
  have linked := represents.linkedOnce.mem_iff.mp (List.mem_append_left _ root)
  have bound : node < forest.size := List.mem_range.mp linked
  have segments := segments_of_named forest node (represents.named node bound)
  rw [depth, ← Name.length_segments, segments, (represents.rooted node bound).mp root]
  rfl

theorem depth_of_child (node above : Nat) (child : node ∈ forest.children above) :
    forest.depth node = forest.depth above + 1 := by
  have linked := (represents.linked node above).mp child
  have segments := segments_of_named forest node (represents.named node (parent_in_forest forest node above linked))
  rw [depth, ← Name.length_segments, segments, linked, List.length_append]
  exact congrArg (· + 1) (Name.length_segments _)

theorem lines_of_walk : forest.lines = forest.nodes.flatMap fun node => forest.ownLines (forest.depth node) node := by
  rw [lines, nodes, List.flatMap_assoc]
  refine List.flatMap_congr fun node root => ?_
  rw [← depth_of_root represents node root, lines_from_walk forest (depth_of_child represents)]
  rfl

omit represents in
theorem commands_of_block (node : Nat) :
    ((forest.block node).filter (!·.isNamespace)).map (·.name) = (forest.commands node).map Command.name := by
  rw [block, List.filter_cons_of_neg (by simp [heading]), List.filter_map, List.map_map]
  simp [Function.comp_def, entry]

omit represents in
theorem namespaces_of_block (node : Nat) : (forest.block node).filter (·.isNamespace) = [forest.heading node] := by
  rw [block, List.filter_cons_of_pos (by rfl), List.filter_map]
  simp [Function.comp_def, entry]

-- All else that a listing tells follows from its blocks.
theorem tells_of_blocks (texts : List String) (blocks : texts.map Shown.read = forest.nodes.flatMap forest.block) :
    forest.Tells texts := by
  refine ⟨blocks, represents.ordered, ?_, ?_, ?_⟩
  · intro node above child
    have linked := (represents.linked node above).mp child
    obtain ⟨earlier, between, later, split⟩ := range_split forest.size node above
      (represents.parentFirst node above linked) (parent_in_forest forest node above linked)
    rw [blocks, represents.ordered, split]
    exact ⟨earlier.flatMap forest.block, between.flatMap forest.block, later.flatMap forest.block, by simp⟩
  · rw [blocks, List.filter_flatMap, List.flatMap_congr fun node _ => namespaces_of_block node]
    exact List.map_eq_flatMap.symm
  · rw [blocks, List.filter_flatMap, List.map_flatMap, allCommands, List.map_flatMap]
    exact List.flatMap_congr fun node _ => commands_of_block node

end

theorem lines_tell (commands : List Command) (forest : Forest) (built : ofCommands commands = .ok forest)
    (named : ∀ command ∈ commands, Name.OfCommand command.fullName) : forest.Tells forest.lines := by
  have represents := represents_of_commands commands forest built
  apply tells_of_blocks represents
  rw [lines_of_walk represents, List.map_flatMap]
  refine List.flatMap_congr fun node member => ?_
  have bound : node < forest.size := by
    rw [represents.ordered] at member
    exact List.mem_range.mp member
  apply own_lines_read
  · have segments := segments_of_named forest node (represents.named node bound)
    obtain ⟨command, given, inside⟩ := Stubs.segment_of_node built node bound (forest.name node) (by simp [segments])
    exact (named command given).spelled _ inside
  · intro command inside
    obtain ⟨given, whole, plain⟩ := Stubs.command_of_node built node bound command inside
    have segments := Name.segments_child (forest.fullName node) command.name plain
    rw [← whole] at segments
    exact (named command given).spelled _ (by simp [segments])

end Forest

/-! ### The two commands of the program -/

-- Steps that leave the session as it is, taken for one value after another.
theorem map_each_run {ε σ α β : Type} {body : α → ExceptT ε (StateM σ) β} {state : σ} (items : List α) (result : α → β)
    (each : ∀ item ∈ items, body item state = (.ok (result item), state)) :
    items.mapM body state = (.ok (items.map result), state) := by
  induction items with
  | nil => rfl
  | cons item rest ih =>
      obtain ⟨first, others⟩ := List.forall_mem_cons.mp each
      rw [List.mapM_cons, bind_ok first, bind_ok (ih others)]
      rfl

namespace Plan

-- A configuration is rendered with a forest: its templates are given the commands of that forest.
structure RendersWith (plan : Plan) (commands : List Command) (moment : Moment) (config : Configuration)
    (forest : Forest) : Prop where
  generated : plan.generate commands moment config = (do
    Run.say .info (startText config)
    let _ ← plan.engine.template config.scheme Engine.entryTemplate
    makeTarget config (config.targetBelow plan.output)
    let files ← renderEntry (plan.generatorOf config forest moment)
    Run.say .info (finishText config)
    return { name := config.name, target := config.targetBelow plan.output, files })
  offered : Template.Value.attribute? (plan.generatorOf config forest moment).scene .generator "commands" =
    some (.tuple (forest.allCommands.map .command))

end Plan

namespace Program

open CommandLine

def titleOf (config : Configuration) : String := config.name ++ " (" ++ config.scheme ++ ")"

-- What is said after a run.
def report (products : List Product) : Run (List String) := do
  Plan.sayAll (products.map productText)
  return []

-- Two command lines for the same settings, class path and capability. One shows all configurations, and the other
-- renders them.
structure Matches (shown rendering : Invocation) : Prop where
  shows : shown.action = .inspect none
  renders : ∃ output folders keepGoing, rendering.action = .generate output folders keepGoing
  config : rendering.config = shown.config
  classpath : rendering.classpath = shown.classpath
  capability : rendering.capability = shown.capability

theorem inspect_run (plan : Plan) (name : Option String) (session discovered : Session) (commands : List Command)
    (found : plan.discover session = (.ok commands, discovered)) (forestOf : Configuration → Forest)
    (built : ∀ config ∈ plan.configurations,
      Forest.ofCommands (Command.filter config.packages commands) = .ok (forestOf config)) :
    inspect plan name session =
      (.ok (plan.configurations.flatMap fun config => titleOf config :: (forestOf config).lines), discovered) := by
  have some : ¬plan.configurations.isEmpty = true := by
    intro none
    rw [Plan.discover, Configuration.check, if_pos none] at found
    cases found
  have listed : ∀ config ∈ plan.configurations,
      listing commands config discovered = (.ok (titleOf config :: (forestOf config).lines), discovered) := by
    intro config member
    rw [listing, built config member]
    rfl
  rw [inspect, if_neg some, bind_ok found, bind_ok (map_each_run _ _ listed), ← List.flatMap_def]
  rfl

section

variable (shown rendering : Invocation) (matching : Matches shown rendering) (settings : Settings)
  (shownAt renderedAt : String)
include matching

-- Commands are looked for alike, wherever they are rendered to, and whenever.
theorem discover_same :
    (planned rendering settings renderedAt).discover = (planned shown settings shownAt).discover := by
  obtain ⟨output, folders, keepGoing, renders⟩ := matching.renders
  rw [planned, renders, planned, matching.shows]
  dsimp only
  rw [planOf, planOf, matching.classpath, matching.capability]
  rfl

theorem configurations_shown : (planned shown settings shownAt).configurations = settings.generators := by
  rw [planned, matching.shows]
  rfl

theorem configurations_rendered : (planned rendering settings renderedAt).configurations = settings.generators := by
  obtain ⟨output, folders, keepGoing, renders⟩ := matching.renders
  rw [planned, renders]
  rfl

variable (session : Session) (loads : Settings.load shown.config session = (.ok settings, session))
include loads

theorem act_shown : act shown shownAt session = inspect (planned shown settings shownAt) none session := by
  rw [act, bind_ok loads, planned, matching.shows]

theorem act_rendering :
    act rendering renderedAt session = ((planned rendering settings renderedAt).run >>= report) session := by
  obtain ⟨output, folders, keepGoing, renders⟩ := matching.renders
  rw [act, matching.config, bind_ok loads, planned, renders]
  rfl

end

-- Wherever commands are found, showing them ends with a title and a listing for each configuration. The listing tells
-- the forest that the configuration is rendered with, in the same settings, from the same class path: the commands in it
-- are, from top to bottom, those that its templates are given, and its namespaces stand above them and further left.
theorem inspection_tells_rendering (shown rendering : Invocation) (matching : Matches shown rendering)
    (settings : Settings) (shownAt renderedAt : String) (session discovered : Session) (commands : List Command)
    (loaded : (Settings.load shown.config session).1 = .ok settings)
    (found : (planned shown settings shownAt).discover session = (.ok commands, discovered)) :
    ∃ listed : Configuration → List String,
      act shown shownAt session =
          (.ok (settings.generators.flatMap fun config => titleOf config :: listed config), discovered) ∧
        act rendering renderedAt session = ((planned rendering settings renderedAt).run >>= report) session ∧
        (planned rendering settings renderedAt).discover session = (.ok commands, discovered) ∧
        (planned rendering settings renderedAt).configurations = settings.generators ∧
        ∀ config ∈ settings.generators, ∃ forest : Forest,
          forest.Represents (Command.filter config.packages commands) ∧ forest.Tells (listed config) ∧
            ∀ moment, (planned rendering settings renderedAt).RendersWith commands moment config forest := by
  have loads := Settings.load_run shown.config session settings loaded
  have named := Plan.discover_spelled _ session discovered commands found
  have exist : ∀ config : Configuration, ∃ forest,
      Forest.ofCommands (Command.filter config.packages commands) = .ok forest :=
    fun config => Forest.of_filtered_ok commands named config.packages
  choose forestOf built using exist
  have inspected := inspect_run _ none session discovered commands found forestOf fun config _ => built config
  rw [configurations_shown shown rendering matching settings shownAt] at inspected
  refine ⟨fun config => (forestOf config).lines, ?_, ?_, ?_, ?_, ?_⟩
  · rw [act_shown shown rendering matching settings shownAt session loads, inspected]
  · exact act_rendering shown rendering matching settings renderedAt session loads
  · rw [discover_same shown rendering matching settings shownAt renderedAt, found]
  · exact configurations_rendered shown rendering matching settings renderedAt
  · intro config _
    have spelled : ∀ command ∈ Command.filter config.packages commands, Name.OfCommand command.fullName :=
      fun command member => named command (List.mem_filter.mp member).1
    refine ⟨forestOf config, Forest.represents_of_commands _ _ (built config),
      Forest.lines_tell _ _ (built config) spelled, fun moment => ?_⟩
    exact ⟨Plan.generate_of_forest config (forestOf config) (built config), rfl⟩

def stallSettings : String :=
  "generators: [\x7bname: p, scheme: json, packages: [shop]\x7d]\nclasspath: [lib]\ncapability: shop.cart.Cap\n"

-- A library of one module that holds a capability and a command, and settings for it.
def stall : Session where
  world := World.initial { entries := [(["lib"], .folder), (["lib", "shop"], .folder),
    (["lib", "shop", "cart.py"], .file (.module [.define { name := "Cap", bases := ["ABC"], abstractMethods := ["go"] } [],
      .define { name := "Add", bases := ["Cap"], methods := ["go"] } []])),
    (["s.yaml"], .file (.bytes stallSettings.toUTF8.toList))] }

def stallShown : Invocation where
  logLevel := "INFO"
  config := Path.ofString "s.yaml"
  classpath := []
  capability := none
  action := .inspect none

def stallRendering : Invocation := { stallShown with action := .generate none [] true }

theorem stall_matches : Matches stallShown stallRendering where
  shows := rfl
  renders := ⟨none, [], true, rfl⟩
  config := rfl
  classpath := rfl
  capability := rfl

theorem stall_told : ∃ settings commands discovered, ∃ listed : Configuration → List String,
    (Settings.load stallShown.config stall).1 = .ok settings ∧
    (planned stallShown settings "0").discover stall = (.ok commands, discovered) ∧
    act stallShown "0" stall =
      (.ok (settings.generators.flatMap fun config => titleOf config :: listed config), discovered) ∧
    (settings.generators.flatMap fun config => titleOf config :: listed config) =
      ["p (json)", "  shop/", "    cart/", "      Add"] ∧
    ∀ config ∈ settings.generators, ∃ forest : Forest, forest.Tells (listed config) := by
  obtain ⟨settings, loaded, found⟩ := ok_of_computed (Settings.load stallShown.config stall).1
    (fun settings => okHolds (fun _ => true) ((planned stallShown settings "0").discover stall).1) (by decide +kernel)
  obtain ⟨commands, found, -⟩ := ok_of_computed _ _ found
  obtain ⟨listed, acted, -, -, -, told⟩ := inspection_tells_rendering stallShown stallRendering stall_matches settings
    "0" "86400" stall _ commands loaded (pair_of_fst found)
  have shown : okHolds (· == ["p (json)", "  shop/", "    cart/", "      Add"]) (act stallShown "0" stall).1 = true := by
    decide +kernel
  rw [acted] at shown
  refine ⟨settings, commands, _, listed, loaded, pair_of_fst found, acted, beq_iff_eq.mp shown, ?_⟩
  intro config member
  obtain ⟨forest, -, tells, -⟩ := told config member
  exact ⟨forest, tells⟩

end Program

end StubForge
