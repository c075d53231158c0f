import Mathlib.Data.List.Lex
import StubForge.ClassPath
import StubForge.Proofs.Occurrences

set_option autoImplicit false

/-!
The classes that a source is said to define are those of its class statements that lie in branches and attempts only, each
once and in the order of the source. What lies in a loop, a function or another class does not count.
-/

namespace StubForge

namespace Statement

-- The blocks of a statement, in the order in which they are written.
def blocks : Statement → List (List Statement)
  | .define _ inner => [inner]
  | .branch _ body orelse => [body, orelse]
  | .attempt _ body handlers orelse cleanup => body :: handlers.map (·.2) ++ [orelse, cleanup]
  | .once body => [body]
  | .function _ body => [body]
  | _ => []

theorem mem_blocks_of_branch {condition : Bool} {body orelse block : List Statement} :
    block ∈ (branch condition body orelse).blocks ↔ block = body ∨ block = orelse := List.mem_pair

theorem mem_blocks_of_attempt {grouped : Bool} {body orelse cleanup block : List Statement}
    {handlers : List (Option String × List Statement)} :
    block ∈ (attempt grouped body handlers orelse cleanup).blocks ↔
      block = body ∨ block ∈ handlers.map (·.2) ∨ block = orelse ∨ block = cleanup := by
  rw [blocks, List.mem_append, List.mem_cons, List.mem_pair, or_assoc]

-- Branches and attempts leave what is in them at the level at which they stand themselves.
def guards : Statement → Bool
  | .branch .. => true
  | .attempt .. => true
  | _ => false

mutual
-- No attempt in a statement, however deep, has handlers that form a group.
def ungrouped : Statement → Bool
  | .define _ inner => ungroupedIn inner
  | .branch _ body orelse => ungroupedIn body && ungroupedIn orelse
  | .attempt grouped body handlers orelse cleanup =>
      !grouped && ungroupedIn body && ungroupedHandlers handlers && ungroupedIn orelse && ungroupedIn cleanup
  | .once body => ungroupedIn body
  | .function _ body => ungroupedIn body
  | _ => true
termination_by structural statement => statement
def ungroupedIn : List Statement → Bool
  | [] => true
  | statement :: rest => statement.ungrouped && ungroupedIn rest
termination_by structural statements => statements
def ungroupedHandlers : List (Option String × List Statement) → Bool
  | [] => true
  | (_, body) :: rest => ungroupedIn body && ungroupedHandlers rest
termination_by structural handlers => handlers
end

-- A branch or an attempt of which every block is looked into.
def opens : Statement → Bool
  | .branch .. => true
  | .attempt grouped .. => !grouped
  | _ => false

-- A class statement for a name stands at a place of a block, and all statements around it are of a kind. A place numbers
-- the statement of the block, then its block, then the statement of that block, and so on, each as written; so the places
-- of a source are in its order if they are in the order of words.
inductive Declares (passes : Statement → Bool) : List Statement → List Nat → String → Prop where
  | here (block : List Statement) (number : Nat) (head : ClassHead) (inner : List Statement)
      (found : block[number]? = some (.define head inner)) : Declares passes block [number] head.name.text
  | inside (block : List Statement) (number part : Nat) (outer : Statement) (inner : List Statement) (place : List Nat)
      (name : String) (found : block[number]? = some outer) (through : passes outer = true)
      (opened : outer.blocks[part]? = some inner) (deeper : Declares passes inner place name) :
      Declares passes block (number :: part :: place) name

/-! ### Names in the order of their places -/

-- The names are those that are held at places, as often as they are held and in the order of the places.
def Enumerates (held : List Nat → String → Prop) (names : List String) : Prop :=
  ∃ placed : List (List Nat × String), placed.map (·.2) = names ∧ placed.Pairwise (fun a b => a.1 < b.1) ∧
    ∀ place name, (place, name) ∈ placed ↔ held place name

theorem enumerates_nothing (held : List Nat → String → Prop) (empty : ∀ place name, ¬held place name) :
    Enumerates held [] :=
  ⟨[], rfl, List.Pairwise.nil, fun place name => by simp [empty place name]⟩

theorem enumerates_congr {held other : List Nat → String → Prop} {names : List String}
    (same : ∀ place name, held place name ↔ other place name) (enumerated : Enumerates held names) :
    Enumerates other names := by
  obtain ⟨placed, told, sorted, members⟩ := enumerated
  exact ⟨placed, told, sorted, fun place name => (members place name).trans (same place name)⟩

-- The names told of items in turn, if those of each item are held at places below the number of the item.
theorem enumerates_numbered {α : Type} (told : α → List String) (held : α → List Nat → String → Prop) (items : List α)
    (each : ∀ item ∈ items, Enumerates (held item) (told item)) (start : Nat) :
    Enumerates (fun place name => ∃ number item deeper, place = (start + number) :: deeper ∧
      items[number]? = some item ∧ held item deeper name) (items.flatMap told) := by
  induction items generalizing start with
  | nil => exact enumerates_nothing _ fun place name => by simp
  | cons first rest ih =>
      obtain ⟨own, others⟩ := List.forall_mem_cons.mp each
      obtain ⟨front, frontTold, frontSorted, frontMembers⟩ := own
      obtain ⟨back, backTold, backSorted, backMembers⟩ := ih others (start + 1)
      let below := fun entry : List Nat × String => (start :: entry.1, entry.2)
      refine ⟨front.map below ++ back, ?_, ?_, ?_⟩
      · simp [below, Function.comp_def, frontTold, backTold]
      · refine List.pairwise_append.mpr ⟨?_, backSorted, ?_⟩
        · refine List.pairwise_map.mpr (frontSorted.imp fun {a b} before => ?_)
          exact List.cons_lt_cons_iff.mpr (.inr ⟨rfl, before⟩)
        · intro a aMember b bMember
          obtain ⟨entry, -, rfl⟩ := List.mem_map.mp aMember
          obtain ⟨number, item, deeper, same, -⟩ := (backMembers b.1 b.2).mp bMember
          rw [same]
          exact List.cons_lt_cons_iff.mpr (.inl (by omega))
      · intro place name
        rw [List.mem_append, backMembers]
        constructor
        · rintro (own | ⟨number, item, deeper, same, found, holds⟩)
          · obtain ⟨⟨deeper, text⟩, member, same⟩ := List.mem_map.mp own
            cases same
            exact ⟨0, first, deeper, rfl, rfl, (frontMembers _ _).mp member⟩
          · exact ⟨number + 1, item, deeper, by rw [same]; congr 1; omega, by simpa using found, holds⟩
        · rintro ⟨number, item, deeper, rfl, found, holds⟩
          cases number with
          | zero =>
              cases found
              exact .inl (List.mem_map.mpr ⟨(deeper, name), (frontMembers _ _).mpr holds, rfl⟩)
          | succ number => exact .inr ⟨number, item, deeper, by congr 1; omega, by simpa using found, holds⟩

-- First occurrences are in the order of the first places.
theorem first_places (held : List Nat → String → Prop) (names : List String) (enumerated : Enumerates held names) :
    (∀ name, name ∈ names.eraseDups ↔ ∃ place, held place name) ∧ names.eraseDups.Pairwise fun a b =>
      ∃ place, held place a ∧ ∀ later, held later b → place < later := by
  obtain ⟨placed, told, sorted, members⟩ := enumerated
  subst told
  have known (name : String) : name ∈ placed.map (·.2) ↔ ∃ place, held place name := by
    simp only [List.mem_map, Prod.exists, exists_eq_right, members]
  refine ⟨fun name => by rw [List.mem_eraseDups, known], ?_⟩
  have ordered := erase_dups_in_order (fun entry : List Nat × String => some entry.2) placed
  rw [List.filterMap_eq_map'] at ordered
  refine ordered.imp_of_mem fun {a b} aMember _ before => ?_
  obtain ⟨⟨first, text⟩, member, rfl⟩ := List.mem_map.mp (List.mem_eraseDups.mp aMember)
  have bound := List.findIdx_lt_length (p := fun entry : List Nat × String => decide (some entry.2 = some text)) |>.mpr
    ⟨(first, text), member, by simp⟩
  have own := List.findIdx_getElem (w := bound)
  generalize placed.findIdx (fun entry => some entry.2 = some text) = i at before bound own
  refine ⟨placed[i].1, (members _ _).mp ?_, fun later holds => ?_⟩
  · have same : placed[i].2 = text := by simpa using own
    rw [← same]
    exact List.getElem_mem bound
  · obtain ⟨j, inside, found⟩ := List.getElem_of_mem ((members later b).mpr holds)
    have reached : placed.findIdx (fun entry => some entry.2 = some b) ≤ j := by
      by_contra earlier
      have unseen := List.not_of_lt_findIdx (Nat.lt_of_not_le earlier)
      simp [found] at unseen
    have sooner := List.pairwise_iff_getElem.mp sorted i j bound inside (Nat.lt_of_lt_of_le before reached)
    rwa [found] at sooner

/-! ### Class statements -/

-- What stands at places below that of a statement, or at its own.
def DeclaresBelow (passes : Statement → Bool) (statement : Statement) (place : List Nat) (name : String) : Prop :=
  (place = [] ∧ ∃ head inner, statement = .define head inner ∧ head.name.text = name) ∨
    passes statement = true ∧ ∃ part inner deeper, place = part :: deeper ∧ statement.blocks[part]? = some inner ∧
      Declares passes inner deeper name

theorem declares_iff (passes : Statement → Bool) (block : List Statement) (place : List Nat) (name : String) :
    Declares passes block place name ↔ ∃ number statement deeper, place = number :: deeper ∧
      block[number]? = some statement ∧ DeclaresBelow passes statement deeper name := by
  constructor
  · intro declared
    cases declared with
    | here block number head inner found => exact ⟨number, _, [], rfl, found, .inl ⟨rfl, head, inner, rfl, rfl⟩⟩
    | inside block number part outer inner place name found through opened deeper =>
        exact ⟨number, outer, part :: place, rfl, found, .inr ⟨through, part, inner, place, rfl, opened, deeper⟩⟩
  · rintro ⟨number, statement, deeper, rfl, found, below⟩
    rcases below with ⟨rfl, head, inner, rfl, rfl⟩ | ⟨through, part, inner, place, rfl, opened, further⟩
    · exact .here block number head inner found
    · exact .inside block number part statement inner place name found through opened further

def texts (names : List Identifier) : List String := names.map (·.text)

theorem texts_append (names more : List Identifier) : texts (names ++ more) = texts names ++ texts more :=
  List.map_append

theorem names_in_eq (block : List Statement) : texts (classNamesIn block) = block.flatMap (texts ·.classNames) := by
  induction block with
  | nil => rfl
  | cons statement rest ih => rw [classNamesIn, texts_append, ih, List.flatMap_cons]

theorem names_of_handlers_eq (handlers : List (Option String × List Statement)) :
    texts (classNamesOfHandlers handlers) = (handlers.map (·.2)).flatMap (texts <| classNamesIn ·) := by
  induction handlers with
  | nil => rfl
  | cons handler rest ih => rw [classNamesOfHandlers, texts_append, ih, List.map_cons, List.flatMap_cons]

-- Every block of a statement that is opened is listed.
theorem names_of_opened (statement : Statement) (opened : statement.opens = true) :
    texts statement.classNames = statement.blocks.flatMap (texts <| classNamesIn ·) := by
  cases statement with
  | branch condition body orelse => simp [classNames, texts_append, blocks]
  | attempt grouped body handlers orelse cleanup =>
      cases grouped with
      | true => cases opened
      | false => simp [classNames, texts_append, names_of_handlers_eq, blocks, List.flatMap_map]
  | _ => cases opened

theorem enumerates_block (block : List Statement)
    (each : ∀ statement ∈ block, Enumerates (DeclaresBelow opens statement) (texts statement.classNames)) :
    Enumerates (Declares opens block) (texts (classNamesIn block)) := by
  rw [names_in_eq]
  refine enumerates_congr (fun place name => ?_) (enumerates_numbered _ _ block each 0)
  simp only [Nat.zero_add, declares_iff]

theorem enumerates_opened (statement : Statement) (opened : statement.opens = true)
    (each : ∀ block ∈ statement.blocks, Enumerates (Declares opens block) (texts (classNamesIn block))) :
    Enumerates (DeclaresBelow opens statement) (texts statement.classNames) := by
  rw [names_of_opened statement opened]
  refine enumerates_congr (fun place name => ?_) (enumerates_numbered _ _ statement.blocks each 0)
  have other : ¬∃ head inner, statement = .define head inner ∧ head.name.text = name := by
    rintro ⟨head, inner, rfl, -⟩
    cases opened
  simp only [DeclaresBelow, opened, other, and_false, false_or, true_and, Nat.zero_add]

theorem enumerates_closed (statement : Statement) (closed : statement.opens = false) (unnamed : statement.classNames = [])
    (other : ∀ head inner, statement ≠ .define head inner) :
    Enumerates (DeclaresBelow opens statement) (texts statement.classNames) := by
  rw [unnamed]
  refine enumerates_nothing _ fun place name below => ?_
  rcases below with ⟨-, head, inner, same, -⟩ | ⟨through, -⟩
  · exact other head inner same
  · rw [closed] at through
    cases through

theorem enumerates_class (head : ClassHead) (inner : List Statement) :
    Enumerates (DeclaresBelow opens (.define head inner)) [head.name.text] := by
  refine ⟨[([], head.name.text)], rfl, List.pairwise_singleton _ _, fun place name => ?_⟩
  rw [List.mem_singleton, Prod.mk.injEq]
  constructor
  · rintro ⟨rfl, rfl⟩
    exact .inl ⟨rfl, head, inner, rfl, rfl⟩
  · rintro (⟨rfl, _, _, same, rfl⟩ | ⟨through, -⟩)
    · cases same
      exact ⟨rfl, rfl⟩
    · cases through

-- By recursion over statements: what a block lists is what its statements list in turn, and an opened statement lists
-- what its blocks list in turn.
mutual
theorem statement_enumerates : ∀ statement : Statement,
    Enumerates (DeclaresBelow opens statement) (texts statement.classNames)
  | .define head inner => enumerates_class head inner
  | .branch condition body orelse =>
      enumerates_opened _ rfl fun block own => by
        rcases mem_blocks_of_branch.mp own with same | same
        · exact same ▸ enumerates_block body (block_enumerates body)
        · exact same ▸ enumerates_block orelse (block_enumerates orelse)
  | .attempt false body handlers orelse cleanup =>
      enumerates_opened _ rfl fun block own => by
        rcases mem_blocks_of_attempt.mp own with same | caught | same | same
        · exact same ▸ enumerates_block body (block_enumerates body)
        · exact handlers_enumerate handlers block caught
        · exact same ▸ enumerates_block orelse (block_enumerates orelse)
        · exact same ▸ enumerates_block cleanup (block_enumerates cleanup)
  | .attempt true body handlers orelse cleanup => enumerates_closed _ rfl rfl nofun
  | .once body => enumerates_closed _ rfl rfl nofun
  | .function name body => enumerates_closed _ rfl rfl nofun
  | .fromImport module name => enumerates_closed _ rfl rfl nofun
  | .importModule module => enumerates_closed _ rfl rfl nofun
  | .raise exception message => enumerates_closed _ rfl rfl nofun
  | .assign name value => enumerates_closed _ rfl rfl nofun
  | .rebind name expression => enumerates_closed _ rfl rfl nofun
  | .delete name => enumerates_closed _ rfl rfl nofun
  | .register base virtual => enumerates_closed _ rfl rfl nofun
termination_by structural statement => statement
theorem block_enumerates : ∀ (block : List Statement), ∀ statement ∈ block,
    Enumerates (DeclaresBelow opens statement) (texts statement.classNames)
  | [], _, member => absurd member List.not_mem_nil
  | first :: rest, statement, member => by
      rcases List.mem_cons.mp member with same | later
      · exact same ▸ statement_enumerates first
      · exact block_enumerates rest statement later
termination_by structural block => block
theorem handlers_enumerate : ∀ (handlers : List (Option String × List Statement)), ∀ block ∈ handlers.map (·.2),
    Enumerates (Declares opens block) (texts (classNamesIn block))
  | [], _, member => absurd member List.not_mem_nil
  | (_, body) :: rest, block, member => by
      rcases List.mem_cons.mp member with same | later
      · exact same ▸ enumerates_block body (block_enumerates body)
      · exact handlers_enumerate rest block later
termination_by structural handlers => handlers
end

/-! ### Without grouped attempts -/

theorem ungrouped_of_mem (block : List Statement) (plain : ungroupedIn block = true) (statement : Statement)
    (member : statement ∈ block) : statement.ungrouped = true := by
  induction block with
  | nil => cases member
  | cons first rest ih =>
      rw [ungroupedIn, Bool.and_eq_true] at plain
      rcases List.mem_cons.mp member with rfl | later
      · exact plain.1
      · exact ih plain.2 later

theorem ungrouped_of_handler (handlers : List (Option String × List Statement))
    (plain : ungroupedHandlers handlers = true) (block : List Statement) (member : block ∈ handlers.map (·.2)) :
    ungroupedIn block = true := by
  induction handlers with
  | nil => cases member
  | cons handler rest ih =>
      rw [ungroupedHandlers, Bool.and_eq_true] at plain
      rcases List.mem_cons.mp member with rfl | later
      · exact plain.1
      · exact ih plain.2 later

theorem ungrouped_block (statement : Statement) (plain : statement.ungrouped = true) (block : List Statement)
    (own : block ∈ statement.blocks) : ungroupedIn block = true := by
  cases statement with
  | define head inner => exact List.mem_singleton.mp own ▸ plain
  | branch condition body orelse =>
      rw [ungrouped, Bool.and_eq_true] at plain
      rcases mem_blocks_of_branch.mp own with rfl | rfl
      · exact plain.1
      · exact plain.2
  | attempt grouped body handlers orelse cleanup =>
      simp only [ungrouped, Bool.and_eq_true] at plain
      obtain ⟨⟨⟨⟨-, inBody⟩, inHandlers⟩, inElse⟩, inCleanup⟩ := plain
      rcases mem_blocks_of_attempt.mp own with rfl | caught | rfl | rfl
      · exact inBody
      · exact ungrouped_of_handler handlers inHandlers block caught
      · exact inElse
      · exact inCleanup
  | once body => exact List.mem_singleton.mp own ▸ plain
  | function name body => exact List.mem_singleton.mp own ▸ plain
  | _ => cases own

-- Where no attempt has grouped handlers, the blocks of every branch and attempt are looked into.
theorem opens_of_ungrouped (statement : Statement) (plain : statement.ungrouped = true) :
    statement.opens = statement.guards := by
  cases statement with
  | attempt grouped body handlers orelse cleanup =>
      simp only [ungrouped, Bool.and_eq_true] at plain
      exact plain.1.1.1.1
  | _ => rfl

theorem declares_of_ungrouped {passes other : Statement → Bool}
    (same : ∀ statement, statement.ungrouped = true → passes statement = other statement) {block : List Statement}
    {place : List Nat} {name : String} (declared : Declares passes block place name) (plain : ungroupedIn block = true) :
    Declares other block place name := by
  induction declared with
  | here block number head inner found => exact .here block number head inner found
  | inside block number part outer inner place name found through opened deeper ih =>
      have outerPlain := ungrouped_of_mem block plain outer (List.mem_of_getElem? found)
      exact .inside block number part outer inner place name found (same outer outerPlain ▸ through) opened
        (ih (ungrouped_block outer outerPlain inner (List.mem_of_getElem? opened)))

end Statement

namespace SourceUnit

-- The statements of a source that can be read.
def statements? (source : SourceUnit) : Option (List Statement) :=
  match source.body with
  | .module statements => some statements
  | .bytes data => Source.read? data

theorem class_names_of_statements (source : SourceUnit) :
    source.classNames? = source.statements?.map Source.classNames := by
  rw [classNames?, statements?]
  cases source.body <;> rfl

-- A name is listed if and only if it is that of a class statement of which all enclosing statements are branches and
-- attempts, each name once, and in the order of the first such class statements.
theorem module_classes_listed (source : SourceUnit) (block : List Statement) (read : source.statements? = some block)
    (plain : Statement.ungroupedIn block = true) : ∃ names, source.classNames? = some names ∧
      (∀ name, name ∈ names ↔ ∃ place, Statement.Declares Statement.guards block place name) ∧ names.Nodup ∧
      names.Pairwise fun a b => ∃ place, Statement.Declares Statement.guards block place a ∧
        ∀ later, Statement.Declares Statement.guards block later b → place < later := by
  have enumerated := Statement.enumerates_block block (Statement.block_enumerates block)
  have same (place : List Nat) (name : String) : Statement.Declares Statement.opens block place name ↔
      Statement.Declares Statement.guards block place name :=
    ⟨fun declared => Statement.declares_of_ungrouped Statement.opens_of_ungrouped declared plain,
      fun declared => Statement.declares_of_ungrouped (fun statement own => (Statement.opens_of_ungrouped statement own).symm)
        declared plain⟩
  obtain ⟨members, ordered⟩ := Statement.first_places _ _ (Statement.enumerates_congr same enumerated)
  exact ⟨_, by rw [class_names_of_statements, read, Option.map_some]; rfl, members, nodup_erase_dups _, ordered⟩

def guardedText : String :=
  "if a:\n class A: pass\nelse:\n try:\n  class B: pass\n except X:\n  class A: pass\n"
    ++ "for x in y:\n class F: pass\nclass C:\n class G: pass\n"

def guardedSource : SourceUnit := { module := "m", origin := "m.py", body := .bytes guardedText.toUTF8.toList }

def guardedNames : List String := ["A", "B", "C"]

theorem guarded_read : ∃ block, guardedSource.statements? = some block ∧ Statement.ungroupedIn block = true ∧
    Source.classNames block = guardedNames := by
  have reads : (guardedSource.statements?.map fun block => (Statement.ungroupedIn block, Source.classNames block)) =
      some (true, guardedNames) := by decide +kernel
  obtain ⟨block, found, told⟩ := Option.map_eq_some_iff.mp reads
  exact ⟨block, found, congrArg Prod.fst told, congrArg Prod.snd told⟩

-- The classes in the loop and in the class are not listed; one class is named twice.
theorem guarded_classes_listed : ∃ block, guardedSource.statements? = some block ∧
    Statement.ungroupedIn block = true ∧ guardedSource.classNames? = some guardedNames ∧
    (∀ name, name ∈ guardedNames ↔ ∃ place, Statement.Declares Statement.guards block place name) ∧
    guardedNames.Pairwise fun a b => ∃ place, Statement.Declares Statement.guards block place a ∧
      ∀ later, Statement.Declares Statement.guards block later b → place < later := by
  obtain ⟨block, read, plain, told⟩ := guarded_read
  obtain ⟨names, found, members, -, ordered⟩ := module_classes_listed guardedSource block read plain
  have same : guardedSource.classNames? = some guardedNames := by
    rw [class_names_of_statements, read, Option.map_some, told]
  rw [same, Option.some.injEq] at found
  subst found
  exact ⟨block, read, plain, same, members, ordered⟩

end SourceUnit

end StubForge
