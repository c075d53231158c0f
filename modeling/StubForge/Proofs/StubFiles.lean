import StubForge.Proofs.Containment
import StubForge.Proofs.KeepGoing
import StubForge.Proofs.StubPaths
import StubForge.Proofs.StubText

set_option autoImplicit false

/-!
The files of a run of the scheme of stubs: every call of its entry template renders a text and writes it into the file
that its path leads to.
-/

namespace StubForge.Stubs

open Template

-- A text that was written for a call.
structure Document where
  call : Call
  text : String

-- Documents are rendered and written in a row, each into the file that its path leads to.
inductive Writes (generator : Generator) (target : Place) : List Document → Stage → Stage → Prop
  | done (stage : Stage) : Writes generator target [] stage stage
  | next (call : Call) (text : String) (rest : List Document) (depth : Nat) (before drawn after last : Stage)
      (rendered : Generator.renderArgs (generator.services (depth + 1)) generator call.template call.args before =
        (.ok text, drawn))
      (written : Manifest.writing generator ⟨.single, Path.landing target call.path⟩ text drawn = (.ok (), after))
      (others : Writes generator target rest after last) : Writes generator target (⟨call, text⟩ :: rest) before last

-- The text of a file that lists others.
def listing? (generator : Generator) (call : Call) : Option (List Char) :=
  match call.template, call.args with
  | "package", .node node => some (headerText generator ++ packageText generator.scene.forest node)
  | "index", .null => some (headerText generator ++ indexText generator.config generator.scene.forest)
  | _, _ => none

def Document.Lists (generator : Generator) (document : Document) : Prop :=
  ∀ chars, listing? generator document.call = some chars → document.text = String.ofList chars

-- The text of a document is what its call is rendered to, wherever the run had got to by then.
def Document.Rendered (generator : Generator) (document : Document) : Prop :=
  ∃ depth before drawn, Stock generator.engine generator.scheme before.session.directory before.session.world.disk ∧
    Generator.renderArgs (generator.services (depth + 1)) generator document.call.template document.call.args before =
      (.ok document.text, drawn)

def fileOf (target : Place) (call : Call) : Path := ⟨.single, Path.landing target call.path⟩

section

variable {generator : Generator}

-- A file that is generated is given first, its text is rendered then, and it is written last.
theorem generated_file {services : Services} {path template : String} {args : Value} {before after : Stage}
    (made : Generator.generateFile services generator (Path.ofString path) path template args before =
      (.ok (), after)) :
    ∃ file text drawn,
      Generator.fileFor before.session.directory generator.scene generator.scheme (Path.ofString path) path =
        .ok file ∧
      Generator.renderArgs services generator template args before = (.ok text, drawn) ∧
      Manifest.writing generator file text drawn = (.ok (), after) := by
  have known : (get : Render Stage) before = (.ok before, before) := rfl
  rw [Generator.generateFile, bind_ok known] at made
  cases given : Generator.fileFor before.session.directory generator.scene generator.scheme (Path.ofString path)
      path with
  | error trouble =>
      rw [given] at made
      cases made
  | ok file =>
      have place : Render.ofResult (.ok file) before = (.ok file, before) := rfl
      rw [given, bind_ok place] at made
      obtain ⟨text, drawn, rendered, written⟩ := ok_of_bind made
      exact ⟨file, text, drawn, rfl, rendered, written⟩

-- Rendering a stub writes nothing, and gives the text of a listing if it is one.
theorem rendered_stub (forest : Forest) (call : Call) (member : call ∈ calls forest) (depth : Nat)
    (stage drawn : Stage) (text : String)
    (stock : Stock generator.engine generator.scheme stage.session.directory stage.session.world.disk)
    (rendered : Generator.renderArgs (generator.services (depth + 1)) generator call.template call.args stage =
      (.ok text, drawn)) :
    Unwritten stage drawn ∧ Document.Lists generator ⟨call, text⟩ := by
  rcases List.mem_append.mp member with own | last
  · obtain ⟨node, -, owned⟩ := List.mem_flatMap.mp own
    rcases List.mem_cons.mp owned with rfl | later
    · rw [show (packageCall forest node).template = "package" from rfl,
        show (packageCall forest node).args = .node node from rfl, render_package stock depth node] at rendered
      cases rendered
      exact ⟨⟨rfl, rfl, rfl⟩, fun chars listed => congrArg String.ofList (Option.some.inj listed)⟩
    · obtain ⟨command, -, rfl⟩ := List.mem_map.mp later
      have kept := (command_keeps stage stock depth command stage ⟨rfl, rfl, rfl⟩).1
      rw [show Generator.renderArgs (generator.services (depth + 1)) generator "command" (.command command) stage =
        (.ok text, drawn) from rendered] at kept
      exact ⟨kept, nofun⟩
  · rw [List.mem_singleton.mp last, show indexCall.template = "index" from rfl, show indexCall.args = .null from rfl,
      render_index stock depth] at rendered
    cases rendered
    rw [List.mem_singleton.mp last]
    exact ⟨⟨rfl, rfl, rfl⟩, fun chars listed => congrArg String.ofList (Option.some.inj listed)⟩

theorem lists_of_rendered (forest : Forest) (document : Document) (member : document.call ∈ calls forest)
    (drawn : document.Rendered generator) : document.Lists generator := by
  obtain ⟨depth, before, after, stock, rendered⟩ := drawn
  exact (rendered_stub forest document.call member depth before after document.text stock rendered).2

variable {directory : Place} {first : Disk}

-- What is known of a generator that finds its templates wherever it has got to.
structure Supplied (generator : Generator) (directory : Place) (first : Disk) : Prop where
  settled : Path.Settled directory
  stock : ∀ disk, Disk.Reaches (Path.Below (generator.scene.target.folder directory)) first disk →
    Stock generator.engine generator.scheme directory disk

variable (supplied : Supplied generator directory first)
include supplied

theorem made_call (forest : Forest) (call : Call) (member : call ∈ calls forest)
    (depth : Nat) (before after : Stage)
    (holds : Contained directory (generator.scene.target.folder directory) first before)
    (made : call.perform (generator.services (depth + 1)) generator before = (.ok (), after)) :
    ∃ text drawn, Generator.renderArgs (generator.services (depth + 1)) generator call.template call.args before =
        (.ok text, drawn) ∧
      Manifest.writing generator (fileOf (generator.scene.target.folder directory) call) text drawn = (.ok (), after) ∧
      after.files = before.files ++ [fileOf (generator.scene.target.folder directory) call] ∧
      Document.Rendered generator ⟨call, text⟩ ∧
      Contained directory (generator.scene.target.folder directory) first after := by
  have upheld := contained_upheld generator first supplied.settled
  have keeps : Keeps _ _ (call.perform (generator.services (depth + 1)) generator) :=
    generate_file_keeps (services_keep upheld (depth + 1)) upheld (Path.ofString call.path) call.path _ call.args
  obtain ⟨kept, -⟩ := keeps before holds
  rw [made] at kept
  obtain ⟨file, text, drawn, given, rendered, written⟩ := generated_file made
  rw [holds.seen] at given
  obtain rfl := file_for_landing call.path file supplied.settled given
  have stock : Stock generator.engine generator.scheme before.session.directory before.session.world.disk := by
    rw [holds.seen]
    exact supplied.stock _ holds.reached
  obtain ⟨quiet, -⟩ := rendered_stub forest call member depth before drawn text stock rendered
  refine ⟨text, drawn, rendered, written, ?_, ⟨depth, before, drawn, stock, rendered⟩, kept⟩
  rw [Manifest.writing, bind_ok (say_run_stage _ _ drawn), write_file_run] at written
  split at written
  · cases written
    rw [← quiet.files]
    rfl
  · cases written

-- Calls that are all made leave one document each.
theorem writes_of_makes (forest : Forest) (made : List Call) (stubs : ∀ call ∈ made, call ∈ calls forest)
    (before last : Stage)
    (holds : Contained directory (generator.scene.target.folder directory) first before)
    (makes : Makes generator made before (.ok ()) last) :
    ∃ documents, documents.map (·.call) = made ∧
      Writes generator (generator.scene.target.folder directory) documents before last ∧
      last.files = before.files ++ made.map (fileOf (generator.scene.target.folder directory)) ∧
      ∀ document ∈ documents, document.Rendered generator := by
  generalize whole : (Except.ok () : Except Trouble Unit) = good at makes
  induction makes with
  | done stage => exact ⟨[], rfl, .done stage, by simp, by simp⟩
  | next call rest depth before middle last result own others ih =>
      obtain ⟨isStub, stubs⟩ := List.forall_mem_cons.mp stubs
      obtain ⟨text, drawn, rendered, written, files, own, kept⟩ :=
        made_call supplied forest call isStub depth before middle holds own
      obtain ⟨documents, same, writes, listed, all⟩ := ih stubs kept whole
      refine ⟨⟨call, text⟩ :: documents, by simp [same], .next call text documents depth before drawn middle last
        rendered written writes, by simp [listed, files], List.forall_mem_cons.mpr ⟨own, all⟩⟩
  | failed => cases whole

end

/-! ### Whole runs -/

section

variable {plan : Plan} {commands : List Command} {moment : Moment} {config : Configuration} {forest : Forest}

-- The entry of the scheme is rendered by making the calls of the stubs, up to the first one that fails.
theorem render_entry_makes (built : Forest.ofCommands (Command.filter config.packages commands) = .ok forest)
    (session : Session)
    (entry : plan.entryOn config session.directory session.world.disk = .ok Bundled.phpMain) :
    ∃ (result : Except Trouble String) (last : Stage),
      Makes (plan.generatorOf config forest moment) (calls forest)
        (announced config.scheme Engine.entryTemplate { session }) (result.map fun _ => ()) last ∧
      Plan.renderEntry (plan.generatorOf config forest moment) session =
        (match result with
          | .ok _ => .ok last.files
          | .error trouble => .error (Generator.blame config.scheme Engine.entryTemplate trouble).error, last.session) := by
  obtain ⟨result, last, made, run⟩ :=
    @render_main_makes (plan.generatorOf config forest moment) (Command.filter config.packages commands) built
      { session } entry
  refine ⟨result, last, made, ?_⟩
  rw [Plan.render_entry_run _ session _ last run]
  cases result <;> rfl

variable (built : Forest.ofCommands (Command.filter config.packages commands) = .ok forest) (session : Session)
  (settled : Path.Settled session.directory)
  (stock : ∀ disk, Disk.Reaches (Path.Below ((config.targetBelow plan.output).folder session.directory))
    session.world.disk disk → Stock plan.engine config.scheme session.directory disk)
include built settled stock

-- A run of the scheme that ends well writes one document for each of its calls.
theorem generate_documents (product : Product) (after : Session)
    (generated : plan.generate commands moment config session = (.ok product, after)) :
    ∃ documents ready last, documents.map Document.call = calls forest ∧
      Writes (plan.generatorOf config forest moment) ((config.targetBelow plan.output).folder session.directory)
        documents ready last ∧
      product.files = (calls forest).map (fileOf ((config.targetBelow plan.output).folder session.directory)) ∧
      ∀ document ∈ documents, document.Rendered (plan.generatorOf config forest moment) := by
  obtain ⟨_, ready, text, final, same, begun, rendered, files, -⟩ :=
    generate_ok plan commands moment config session after product generated
  obtain rfl := Except.ok.inj (same.symm.trans built)
  let target := (config.targetBelow plan.output).folder session.directory
  have reached : Disk.Reaches (Path.Below target) session.world.disk ready.world.disk :=
    Disk.reaches_mono (fun _ => False.elim) begun.reached
  have entry : plan.entryOn config ready.directory ready.world.disk = .ok Bundled.phpMain := by
    rw [begun.seen]
    exact stock ready.world.disk reached ("main", Bundled.phpMain) (.head _)
  obtain ⟨result, last, makes, run⟩ := @render_entry_makes plan commands moment config _ built ready entry
  rw [Plan.render_entry_run _ ready _ final rendered] at run
  cases result with
  | error trouble => cases run
  | ok done =>
      obtain ⟨listed, -⟩ := Prod.mk.inj run
      have contained : Contained session.directory target session.world.disk
          (announced config.scheme Engine.entryTemplate { session := ready }) :=
        ⟨begun.seen, reached, by simp [announced]⟩
      obtain ⟨documents, same, writes, own, rendered⟩ :=
        writes_of_makes ⟨settled, stock⟩ _ (calls _) (fun _ member => member) _ last contained makes
      exact ⟨documents, _, last, same, writes, (files.trans (Except.ok.inj listed)).trans own, rendered⟩

theorem generate_writes (product : Product) (after : Session)
    (generated : plan.generate commands moment config session = (.ok product, after)) :
    ∃ documents ready last, documents.map Document.call = calls forest ∧
      Writes (plan.generatorOf config forest moment) ((config.targetBelow plan.output).folder session.directory)
        documents ready last ∧
      product.files = (calls forest).map (fileOf ((config.targetBelow plan.output).folder session.directory)) ∧
      ∀ document ∈ documents, document.Lists (plan.generatorOf config forest moment) := by
  obtain ⟨documents, ready, last, made, writes, files, rendered⟩ :=
    generate_documents built session settled stock product after generated
  refine ⟨documents, ready, last, made, writes, files, fun document member => ?_⟩
  exact lists_of_rendered forest document (made ▸ List.mem_map_of_mem member) (rendered document member)

end

end StubForge.Stubs
