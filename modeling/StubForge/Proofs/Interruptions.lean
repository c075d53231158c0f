import StubForge.Proofs.Courses

set_option autoImplicit false

/-!
Where the error of a rendering comes from. Renderings call each other through their templates, to any depth. When one
fails, the files that were generated before are told by a course, and the error is the one that was raised where the
rendering stopped, or what the innermost template makes of it; no template around it changes it any more.
-/

namespace StubForge

open Template

open Stubs (Document)

/-! ### Interruptions -/

-- What was done before a rendering stopped, and what stopped it.
structure Interruption where
  -- The files that were generated before.
  documents : List Document := []
  -- A file that was rendered but could not be written.
  unwritten : Option Document := none
  -- The templates that were being rendered, outermost first.
  templates : List String := []
  cause : Trouble

namespace Interruption

-- The error that is seen from outside.
def surfaced (interruption : Interruption) (scheme : String) : Trouble :=
  match interruption.templates.getLast? with
  | none => interruption.cause
  | some template => Generator.blame scheme template interruption.cause

def behind (interruption : Interruption) (documents : List Document) : Interruption :=
  { interruption with documents := documents ++ interruption.documents }

def inside (interruption : Interruption) (template : String) : Interruption :=
  { interruption with templates := template :: interruption.templates }

theorem surfaced_behind (interruption : Interruption) (documents : List Document) (scheme : String) :
    (interruption.behind documents).surfaced scheme = interruption.surfaced scheme := rfl

end Interruption

-- What is blamed on a template is not blamed on another one.
theorem Generator.blame_twice (scheme first second : String) (trouble : Trouble) :
    blame scheme second (blame scheme first trouble) = blame scheme first trouble := by
  cases trouble <;> rfl

namespace Interruption

theorem surfaced_inside (interruption : Interruption) (template scheme : String) :
    (interruption.inside template).surfaced scheme =
      Generator.blame scheme template (interruption.surfaced scheme) := by
  obtain ⟨documents, unwritten, templates, cause⟩ := interruption
  cases last : templates.getLast? with
  | none =>
      obtain rfl := List.getLast?_eq_none_iff.mp last
      rfl
  | some innermost =>
      have deeper : (template :: templates).getLast? = some innermost := by
        rw [List.getLast?_cons, last, Option.getD_some]
      rw [surfaced, surfaced, inside]
      dsimp only
      rw [deeper, last, Generator.blame_twice]

end Interruption

/-! ### Renderings that stop -/

-- What stops a rendering, and where: a trouble of the template or of a call in it, a path that is refused, a template
-- that is not found or not understood, a file that cannot be written, or the same within the text of a template that a
-- call renders.
inductive Halts (generator : Generator) : Interruption → Stage → Stage → Prop
  | raised (cause : Trouble) (stage : Stage) (foreign : cause.Foreign) : Halts generator { cause } stage stage
  | refused (cause : Trouble) (stage : Stage) (path : String)
      (outside : Generator.fileFor stage.session.directory generator.scene generator.scheme (Path.ofString path) path =
        .error cause) : Halts generator { cause } stage stage
  | unresolved (cause : Trouble) (stage : Stage) (template : String)
      (sought : Render.ofRun (generator.engine.template generator.scheme template) stage = (.error cause, stage)) :
      Halts generator { cause } stage stage
  | unwritten (cause : Trouble) (documents : List Document) (call : Call) (text : String) (file : Path) (depth : Nat)
      (before drawn after : Stage)
      (given : Generator.fileFor before.session.directory generator.scene generator.scheme (Path.ofString call.path)
        call.path = .ok file)
      (rendered : Generator.renderArgs (generator.services depth) generator call.template call.args before =
        (.ok text, drawn))
      (within : Course generator documents before drawn)
      (failed : Manifest.writing generator file text drawn = (.error cause, after)) :
      Halts generator { documents, unwritten := some ⟨call, text⟩, cause } before after
  | inside (interruption : Interruption) (template : String) (args : Value) (body : List Stmt) (depth : Nat)
      (before after : Stage)
      (found : generator.engine.read before.session.world.disk before.session.directory
        (Engine.templatePath generator.scheme template) = .ok body)
      (drawn : renderAll (generator.services depth) generator.scene (Engine.templatePath generator.scheme template)
        { globals := generator.globals args } body (announced generator.scheme template before) =
          (.error (interruption.surfaced generator.scheme), after))
      (halted : Halts generator interruption (announced generator.scheme template before) after) :
      Halts generator (interruption.inside template) before after
  | behind (interruption : Interruption) (documents : List Document) (before middle after : Stage)
      (earlier : Course generator documents before middle) (halted : Halts generator interruption middle after) :
      Halts generator (interruption.behind documents) before after

-- Renderings that have a course when they succeed, and an interruption when they fail.
def Breaking (generator : Generator) (α : Type) (block : Render α) : Prop :=
  Coursing generator α block ∧ ∀ before trouble after, block before = (.error trouble, after) →
    ∃ interruption, Halts generator interruption before after ∧ trouble = interruption.surfaced generator.scheme

section

variable {generator : Generator}

theorem breaking_of_halts {α : Type} {block : Render α} (coursing : Coursing generator α block)
    (halts : ∀ before trouble after, block before = (.error trouble, after) →
      Halts generator { cause := trouble } before after) : Breaking generator α block :=
  ⟨coursing, fun before trouble after failed => ⟨_, halts before trouble after failed, rfl⟩⟩

instance breaking_composed : Composed (Breaking generator) where
  pure value := ⟨Composed.pure value, fun before trouble after failed => by cases failed⟩
  throw trouble foreign := by
    refine breaking_of_halts (Composed.throw trouble foreign) fun before other after failed => ?_
    cases failed
    exact .raised trouble before foreign
  bind {_ _ block next} first rest := by
    refine ⟨Composed.bind first.1 fun value => (rest value).1, fun before trouble after failed => ?_⟩
    rw [bind_run] at failed
    cases ran : block before with
    | mk result middle =>
        rw [ran] at failed
        cases result with
        | error other =>
            cases failed
            exact first.2 before trouble after ran
        | ok value =>
            obtain ⟨documents, earlier⟩ := first.1 before value middle ran
            obtain ⟨interruption, halted, surfaced⟩ := (rest value).2 middle trouble after failed
            exact ⟨interruption.behind documents, .behind interruption documents before middle after earlier halted,
              surfaced.trans (interruption.surfaced_behind documents _).symm⟩

theorem looks_breaking : Looks (Breaking generator) generator where
  read path next own := by
    refine ⟨draws_coursing.read path next fun found => (own found).1, fun before trouble after failed => ?_⟩
    rw [bind_ok (show (get : Render Stage) before = (.ok before, before) from rfl)] at failed
    exact (own _).2 before trouble after failed

-- Looking for a template changes nothing, found or not.
theorem template_sought (template : String) (before : Stage) :
    (∃ body, generator.engine.read before.session.world.disk before.session.directory
        (Engine.templatePath generator.scheme template) = .ok body) ∨
      ∃ cause, Render.ofRun (generator.engine.template generator.scheme template) before = (.error cause, before) := by
  rw [Render.ofRun, template_run]
  cases generator.engine.read before.session.world.disk before.session.directory
      (Engine.templatePath generator.scheme template) with
  | ok body => exact .inl ⟨body, rfl⟩
  | error fault => cases fault <;> exact .inr ⟨_, rfl⟩

-- A rendering that fails failed to find its template, or in the body of the template.
theorem render_args_failed {services : Services} {template : String} {args : Value} {before after : Stage}
    {trouble : Trouble}
    (failed : Generator.renderArgs services generator template args before = (.error trouble, after)) :
    (Render.ofRun (generator.engine.template generator.scheme template) before = (.error trouble, before) ∧
      after = before) ∨
    ∃ body cause, generator.engine.read before.session.world.disk before.session.directory
        (Engine.templatePath generator.scheme template) = .ok body ∧
      renderAll services generator.scene (Engine.templatePath generator.scheme template)
        { globals := generator.globals args } body (announced generator.scheme template before) =
          (.error cause, after) ∧
      trouble = Generator.blame generator.scheme template cause := by
  rcases template_sought template before with ⟨body, found⟩ | ⟨cause, sought⟩
  · right
    rw [Generator.renderArgs, render_with_body _ _ _ _ _ found, try_catch_run, bind_run] at failed
    cases drawn : renderAll services generator.scene (Engine.templatePath generator.scheme template)
        { globals := generator.globals args } body (announced generator.scheme template before) with
    | mk result last =>
        rw [drawn] at failed
        cases result with
        | ok value => cases failed
        | error cause =>
            cases failed
            exact ⟨body, cause, found, drawn, rfl⟩
  · left
    rw [Generator.renderArgs, Generator.renderWith, bind_error sought] at failed
    cases failed
    exact ⟨sought, rfl⟩

-- A file that is not generated lies elsewhere, has a text that is not rendered, or cannot be written.
theorem generate_file_failed {services : Services} (call : Call) {before after : Stage} {trouble : Trouble}
    (failed : call.perform services generator before = (.error trouble, after)) :
    (Generator.fileFor before.session.directory generator.scene generator.scheme (Path.ofString call.path) call.path =
      .error trouble ∧ after = before) ∨
    ∃ file, Generator.fileFor before.session.directory generator.scene generator.scheme (Path.ofString call.path)
        call.path = .ok file ∧
      (Generator.renderArgs services generator call.template call.args before = (.error trouble, after) ∨
      ∃ text drawn, Generator.renderArgs services generator call.template call.args before = (.ok text, drawn) ∧
        Manifest.writing generator file text drawn = (.error trouble, after)) := by
  have known : (get : Render Stage) before = (.ok before, before) := rfl
  rw [Call.perform, Generator.generateFile, bind_ok known] at failed
  cases given : Generator.fileFor before.session.directory generator.scene generator.scheme (Path.ofString call.path)
      call.path with
  | error other =>
      rw [given] at failed
      cases failed
      exact .inl ⟨rfl, rfl⟩
  | ok file =>
      have place : Render.ofResult (.ok file) before = (.ok file, before) := rfl
      rw [given, bind_ok place] at failed
      refine .inr ⟨file, rfl, ?_⟩
      cases rendered : Generator.renderArgs services generator call.template call.args before with
      | mk result drawn =>
          cases result with
          | error other =>
              rw [bind_error rendered] at failed
              cases failed
              exact .inl rfl
          | ok text =>
              rw [bind_ok rendered] at failed
              exact .inr ⟨text, drawn, rfl, failed⟩

section

variable (depth : Nat) (serves : Serves (Breaking generator) (generator.services depth))
include serves

theorem serves_coursing : Serves (Coursing generator) (generator.services depth) where
  call template env callee args named := (serves.call template env callee args named).1
  insert names path ignoreMissing := (serves.insert names path ignoreMissing).1

theorem renders_breaking : Renders (Breaking generator) (generator.services depth) generator := by
  intro template args
  refine ⟨render_args_framed (serves_coursing depth serves) draws_coursing template args,
    fun before trouble after failed => ?_⟩
  rcases render_args_failed failed with ⟨sought, rfl⟩ | ⟨body, cause, found, drawn, rfl⟩
  · exact ⟨_, .unresolved trouble after template sought, rfl⟩
  · obtain ⟨interruption, halted, rfl⟩ := (render_all_framed body _ fun _ => serves).2 _ cause after drawn
    exact ⟨interruption.inside template, .inside interruption template args body depth before after found drawn halted,
      (interruption.surfaced_inside template _).symm⟩

theorem generates_breaking : Generates (Breaking generator) (generator.services depth) generator := by
  intro path template args
  have renders := renders_breaking depth serves template args
  refine ⟨generates_coursing depth (serves_coursing depth serves) path template args,
    fun before trouble after failed => ?_⟩
  rcases generate_file_failed ⟨path, template, args⟩ failed with ⟨outside, rfl⟩ | ⟨file, given, failed⟩
  · exact ⟨_, .refused trouble after path outside, rfl⟩
  · rcases failed with failed | ⟨text, drawn, rendered, failed⟩
    · exact renders.2 before trouble after failed
    · obtain ⟨documents, within⟩ := renders.1 before text drawn rendered
      exact ⟨_, .unwritten trouble documents ⟨path, template, args⟩ text file depth before drawn after given rendered
        within failed, rfl⟩

end

theorem services_breaking (depth : Nat) : Serves (Breaking generator) (generator.services depth) :=
  services_composed looks_breaking renders_breaking generates_breaking depth

theorem halts_of_render {depth : Nat} {template : String} {args : Value} {before after : Stage} {trouble : Trouble}
    (failed : Generator.renderArgs (generator.services depth) generator template args before =
      (.error trouble, after)) :
    (Render.ofRun (generator.engine.template generator.scheme template) before = (.error trouble, before) ∧
      after = before) ∨
    ∃ interruption, Halts generator interruption before after ∧ interruption.templates.head? = some template ∧
      trouble = interruption.surfaced generator.scheme := by
  rcases render_args_failed failed with unresolved | ⟨body, cause, found, drawn, rfl⟩
  · exact .inl unresolved
  · obtain ⟨interruption, halted, rfl⟩ :=
      (render_all_framed body _ fun _ => services_breaking depth).2 _ cause after drawn
    exact .inr ⟨interruption.inside template,
      .inside interruption template args body depth before after found drawn halted, rfl,
      (interruption.surfaced_inside template _).symm⟩

-- What stops within templates makes the outermost of them fail.
theorem render_of_halts {interruption : Interruption} {template : String} {before after : Stage}
    (halted : Halts generator interruption before after) (outermost : interruption.templates.head? = some template) :
    ∃ documents middle depth args, Course generator documents before middle ∧
      Generator.renderArgs (generator.services depth) generator template args middle =
        (.error (interruption.surfaced generator.scheme), after) := by
  induction halted with
  | raised | refused | unresolved | unwritten => cases outermost
  | inside interruption own args body depth before after found drawn =>
      cases outermost
      refine ⟨[], before, depth, args, .start before, ?_⟩
      rw [Generator.renderArgs, render_with_body _ _ _ _ _ found, try_catch_run, bind_error drawn,
        interruption.surfaced_inside]
      rfl
  | behind interruption documents before middle after earlier _ ih =>
      obtain ⟨more, last, depth, args, course, failed⟩ := ih outermost
      exact ⟨documents ++ more, last, depth, args, course_append earlier course, failed⟩

end

/-! ### Errors -/

-- What a template is blamed for.
def Template.Trouble.told? : Trouble → Option String
  | .failure _ => none
  | .complaint text => some text
  | .mishap foreign => some (foreign.kind ++ ": " ++ foreign.message)

-- How an error is seen from outside: the program's own failures as they are, everything else as one failure of the
-- innermost template, which the message names once.
structure Interruption.Reaches (interruption : Interruption) (scheme : String) (trouble : Trouble) : Prop where
  own : ∀ failure, interruption.cause = .failure failure → trouble = .failure failure
  foreign : ∀ text, interruption.cause.told? = some text →
    ∃ innermost, interruption.templates.getLast? = some innermost ∧
      trouble = .failure (.of none (.template (.notMerged text) scheme innermost)) ∧
      trouble.error.message =
        "cannot merge template: " ++ text ++ " (scheme '" ++ scheme ++ "', template '" ++ innermost ++ "')"

theorem Interruption.reaches_surfaced (interruption : Interruption) (scheme template : String)
    (outermost : interruption.templates.head? = some template) :
    interruption.Reaches scheme (interruption.surfaced scheme) := by
  obtain ⟨documents, unwritten, templates, cause⟩ := interruption
  cases templates with
  | nil => cases outermost
  | cons first rest =>
      have last := List.getLast?_eq_some_getLast (List.cons_ne_nil first rest)
      rw [surfaced]
      dsimp only
      rw [last]
      constructor
      · rintro failure rfl
        rfl
      · intro text told
        refine ⟨_, last, ?_⟩
        cases cause with
        | failure failure => cases told
        | complaint text =>
            cases told
            exact ⟨rfl, rfl⟩
        | mishap mishap =>
            cases told
            exact ⟨rfl, rfl⟩

-- Renderings that leave no mark when they succeed.
def Unmarking (marked : Stage → Prop) (α : Type) (block : Render α) : Prop :=
  ∀ before value after, block before = (.ok value, after) → marked after → marked before

instance unmarking_composed (marked : Stage → Prop) : Composed (Unmarking marked) where
  pure value before _ after ran holds := by
    cases ran
    exact holds
  throw trouble _ before value after ran := by cases ran
  bind first rest before value after ran holds := by
    obtain ⟨given, middle, ran, others⟩ := ok_of_bind ran
    exact first before given middle ran (rest given middle value after others holds)

-- However renderings are nested, the error of one that fails comes from where it stopped, and only the innermost
-- template is blamed for it. What stops there is never passed over: a rendering whose calls leave a mark when they fail
-- does not succeed with a mark.
theorem errors_keep_origin (generator : Generator) (depth : Nat) :
    (∀ template args before trouble after,
      Generator.renderArgs (generator.services depth) generator template args before = (.error trouble, after) →
      (Render.ofRun (generator.engine.template generator.scheme template) before = (.error trouble, before) ∧
        after = before) ∨
      ∃ interruption, Halts generator interruption before after ∧ interruption.templates.head? = some template ∧
        interruption.Reaches generator.scheme trouble) ∧
    (∀ interruption template before after, Halts generator interruption before after →
      interruption.templates.head? = some template → ∃ documents middle depth args trouble,
        Course generator documents before middle ∧
        Generator.renderArgs (generator.services depth) generator template args middle = (.error trouble, after) ∧
        interruption.Reaches generator.scheme trouble) ∧
    ∀ marked services, Serves (Unmarking marked) services → ∀ scene path env body,
      Unmarking marked _ (renderAll services scene path env body) := by
  refine ⟨fun template args before trouble after failed => ?_,
    fun interruption template before after halted outermost => ?_,
    fun marked services serves scene path env body => render_all_framed body env fun _ => serves⟩
  · rcases halts_of_render failed with unresolved | ⟨interruption, halted, outermost, rfl⟩
    · exact .inl unresolved
    · exact .inr ⟨interruption, halted, outermost, interruption.reaches_surfaced _ template outermost⟩
  · obtain ⟨documents, middle, depth, args, course, failed⟩ := render_of_halts halted outermost
    exact ⟨documents, middle, depth, args, _, course, failed, interruption.reaches_surfaced _ template outermost⟩

-- The entry of a scheme includes a part, which generates a file whose template uses a name that is not defined.
def brokenEntries : List (Place × Entry) := [(["tpl"], .folder), (["tpl", "own"], .folder),
  (["tpl", "own", "main.j2"],
    .file (.bytes "\x7b\x7b generator.include_file('part', args) \x7d\x7d".toUTF8.toList)),
  (["tpl", "own", "part.j2"],
    .file (.bytes "\x7b\x7b generator.generate_file(args, 'leaf') \x7d\x7d".toUTF8.toList)),
  (["tpl", "own", "leaf.j2"], .file (.bytes "\x7b\x7b missing \x7d\x7d".toUTF8.toList))]

def brokenStage : Stage where
  session := { world := World.initial { entries := brokenEntries } }

def ownGenerator : Generator where
  engine := { folders := [Path.ofString "tpl"] }
  scene :=
    { configuration := { name := "web", scheme := "own", packages := ["shop"] }
      target := Path.ofString "out"
      moment := { date := ⟨2010, 5, 3⟩, hour := 14, minute := 7, second := 9, offset := some 0 } }

def brokenRun (path : String) : Except Trouble String × Stage :=
  Generator.renderArgs (ownGenerator.services 3) ownGenerator "main" (.text path) brokenStage

-- The undefined name is blamed on the leaf; a path that is refused is blamed on no template.
theorem broken_leaf_blamed :
    (∃ trouble interruption, (brokenRun "a.txt").1 = .error trouble ∧
      trouble.error.message = "cannot merge template: 'missing' is undefined (scheme 'own', template 'leaf')" ∧
      Halts ownGenerator interruption brokenStage (brokenRun "a.txt").2 ∧ interruption.Reaches "own" trouble) ∧
    ∃ trouble interruption, (brokenRun "../a.txt").1 = .error trouble ∧
      trouble.error.message = "refusing to generate ../a.txt outside of /out (scheme 'own')" ∧
      Halts ownGenerator interruption brokenStage (brokenRun "../a.txt").2 ∧ interruption.Reaches "own" trouble := by
  have known : (match (Render.ofRun (ownGenerator.engine.template "own" "main") brokenStage).1 with
      | .ok _ => true
      | .error _ => false) = true := by decide +kernel
  have found (trouble : Trouble) (after : Stage) :
      Render.ofRun (ownGenerator.engine.template "own" "main") brokenStage ≠ (.error trouble, after) := by
    intro failed
    rw [failed] at known
    cases known
  constructor
  · obtain ⟨trouble, failed, message⟩ := error_of_computed (brokenRun "a.txt").1
      (fun trouble => trouble.error.message ==
        "cannot merge template: 'missing' is undefined (scheme 'own', template 'leaf')") (by decide +kernel)
    rcases (errors_keep_origin ownGenerator 3).1 "main" (.text "a.txt") brokenStage trouble _ (pair_of_fst failed) with
      ⟨unresolved, -⟩ | ⟨interruption, halted, -, reaches⟩
    · exact absurd unresolved (found trouble _)
    · exact ⟨trouble, interruption, failed, eq_of_beq message, halted, reaches⟩
  · obtain ⟨trouble, failed, message⟩ := error_of_computed (brokenRun "../a.txt").1
      (fun trouble => trouble.error.message == "refusing to generate ../a.txt outside of /out (scheme 'own')")
      (by decide +kernel)
    rcases (errors_keep_origin ownGenerator 3).1 "main" (.text "../a.txt") brokenStage trouble _
        (pair_of_fst failed) with ⟨unresolved, -⟩ | ⟨interruption, halted, -, reaches⟩
    · exact absurd unresolved (found trouble _)
    · exact ⟨trouble, interruption, failed, eq_of_beq message, halted, reaches⟩

end StubForge
