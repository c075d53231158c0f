import StubForge.Proofs.JsonReading
import StubForge.Proofs.Layout
import StubForge.Proofs.Partition
import StubForge.Proofs.Rendering

set_option autoImplicit false

/-!
The manifest of the commands: its text is that of one JSON value, which tells the forest node by node.
-/

namespace StubForge

open Template

/-! ### What the manifest says -/

-- The value of a field that holds a constant.
def TagField.json : TagField → Json
  | .constant value => value
  | _ => .null

def TagField.IsJson (field : TagField) : Prop := ∃ value, field = .constant value ∧ value.Valid

namespace Manifest

-- A tag as an object of some of its fields. What is read back has the members of inner objects sorted.
def tagJson (names : List String) (tag : Tag) : Json :=
  .object (names.map fun name => (name, (((tag.field? name).map TagField.json).getD .null).sorted))

def HasFields (names : List String) (tag : Tag) : Prop :=
  ∀ name ∈ names, ∃ field, tag.field? name = some field ∧ field.IsJson

def paramFields : List String := ["name", "description", "type", "optional", "default"]

def thingFields : List String := ["name", "description"]

def tagsJson (names : List String) (tags : List Tag) : Json := .array (tags.map (tagJson names))

def commandJson (command : Command) : Json := .object [
  ("name", .string command.name), ("fullName", .string command.fullName),
  ("description", command.metadata.description.json.sorted),
  ("deprecated", .bool command.metadata.deprecated),
  ("hasMetaInformations", .bool command.metadata.hasMetaInformations),
  ("params", tagsJson paramFields command.metadata.params),
  ("throws", tagsJson thingFields command.metadata.throws),
  ("returns", tagsJson thingFields command.metadata.returns)]

-- What is asked of the tags of a command: that their fields hold JSON values.
structure Writable (metadata : Metadata) : Prop where
  description : metadata.description.IsJson
  params : ∀ tag ∈ metadata.params, HasFields paramFields tag
  throws : ∀ tag ∈ metadata.throws, HasFields thingFields tag
  returns : ∀ tag ∈ metadata.returns, HasFields thingFields tag

def nodeJson (forest : Forest) (node : Nat) (packages : List Json) : Json := .object [
  ("name", .string (forest.name node)), ("fullName", .string (forest.fullName node)),
  ("commands", .array ((forest.commands node).map commandJson)), ("packages", .array packages)]

-- A value tells a node with everything below it, the nodes below it in their order.
inductive Tells (forest : Forest) : Nat → Json → Prop
  | node (node : Nat) (packages : List Json) (below : List.Forall₂ (Tells forest) (forest.children node) packages) :
      Tells forest node (nodeJson forest node packages)

def aliasesJson (config : Configuration) : Json :=
  .object (Json.sortMembers ((config.aliases.getD []).map fun entry => (entry.1, .string entry.2)))

def legalJson (config : Configuration) : Json := (config.legalText.map Json.string).getD .null

def manifestJson (scene : Scene) (packages : List Json) : Json := .object [
  ("generator", .string scene.configuration.name), ("generated", .string scene.moment.headerText),
  ("legalText", legalJson scene.configuration), ("aliases", aliasesJson scene.configuration),
  ("packages", .array packages)]

end Manifest

/-! ### Constants -/

namespace Template.Value

mutual
theorem to_json_of_json : ∀ value : Json, (ofJson value).toJson = .ok value
  | .null => rfl
  | .bool _ => rfl
  | .int _ => rfl
  | .float _ => rfl
  | .string _ => rfl
  | .array items => by
      rw [ofJson, toJson, to_items_of_items items]
      rfl
  | .object members => by
      rw [ofJson, toJson, to_members_of_members members]
      rfl
termination_by structural value => value
theorem to_items_of_items : ∀ items : List Json, toItems (ofItems items) = .ok items
  | [] => rfl
  | item :: rest => by
      rw [ofItems, toItems, to_json_of_json item, to_items_of_items rest]
      rfl
termination_by structural items => items
theorem to_members_of_members : ∀ members : List (String × Json), toMembers (ofMembers members) = .ok members
  | [] => rfl
  | (key, value) :: rest => by
      have first := to_json_of_json value
      have others := to_members_of_members rest
      simp only [ofMembers, toMembers, keyText?, first, others]
      rfl
termination_by structural members => members
end

end Template.Value

/-! ### What the fragments print -/

namespace Template

section

variable {services : Services} {scene : Scene} {template : String}

theorem separated_written (items : List Json) : separated (items.map Json.written) = Json.writtenItems items := by
  induction items with
  | nil => rfl
  | cons item rest ih =>
      cases rest with
      | nil => rfl
      | cons second more =>
          rw [Json.writtenItems, ← ih]
          · rfl
          · simp

-- Members of an object in a row: the text in front of each, its name and its value.
theorem prints_members (env : Env) (thing : String) (value : Value) (known : env.lookup thing = value)
    (members : List (String × String × Json))
    (has : ∀ member ∈ members, ∃ found, value.member scene member.2.1 = .ok found ∧ found.toJson = .ok member.2.2) :
    Prints services scene template env
      (members.flatMap fun member => Bundled.jsonMember member.1 thing member.2.1) env
      (members.flatMap fun member => member.1.toList ++ member.2.2.sorted.written) := by
  induction members with
  | nil => exact prints_nil env
  | cons member rest ih =>
      obtain ⟨found, present, writable⟩ := has member List.mem_cons_self
      have first := @prints_json_member services scene template env member.1 thing member.2.1 value found member.2.2
        known present writable
      rw [Json.chars_eq_written] at first
      exact prints_append _ _ _ _ _ _ _ first (ih fun other inside => has other (List.mem_cons_of_mem _ inside))

end

end Template

namespace Manifest

def bodyOf : Stmt → List Stmt
  | .define _ _ _ body => body
  | _ => []

-- The fragments that the manifest defines.
def fragments : Scope := [
  ("tags", .fragment "tags" ["items"] [] (bodyOf Bundled.jsonTags) []),
  ("command_json", .fragment "command_json" ["command"] [] (bodyOf Bundled.jsonCommand) []),
  ("node_json", .fragment "node_json" ["node"] [] (bodyOf Bundled.jsonNode) [])]

-- The names known in the body of a fragment.
def within (globals : Scope) (scope : Scope) : Env := { locals := [scope], root := fragments, globals }

section

variable {services : Services} {scene : Scene} {template : String}

theorem field_of_tag (tag : Tag) (name : String) (field : TagField) (has : tag.field? name = some field)
    (json : field.IsJson) : ∃ found, (Value.tag tag).member scene name = .ok found ∧
      found.toJson = .ok (((tag.field? name).map TagField.json).getD .null) := by
  obtain ⟨value, rfl, -⟩ := json
  refine ⟨.ofJson value, ?_, ?_⟩
  · simp [Value.member, Value.attribute?, has, Value.ofField]
  · rw [has]
    exact Value.to_json_of_json value

-- The text of a tag, member by member.
theorem tag_text (tag : Tag) (first : String × String) (rest : List (String × String))
    (opens : first.1.toList = '\x7b' :: (Json.stringChars first.2 ++ [':', ' ']))
    (goes : ∀ field ∈ rest, field.1.toList = ',' :: ' ' :: (Json.stringChars field.2 ++ [':', ' '])) :
    ((first :: rest).flatMap fun field =>
        field.1.toList ++ (((tag.field? field.2).map TagField.json).getD .null).sorted.written) ++ ['\x7d'] =
      (tagJson ((first :: rest).map (·.2)) tag).written := by
  have others : (rest.flatMap fun field =>
        field.1.toList ++ (((tag.field? field.2).map TagField.json).getD .null).sorted.written) =
      rest.flatMap fun field => ',' :: ' ' :: (Json.stringChars field.2 ++ ':' :: ' ' ::
        (((tag.field? field.2).map TagField.json).getD .null).sorted.written) := by
    refine List.flatMap_congr ?_
    intro field inside
    simp [goes field inside]
  simp [tagJson, Json.written, Json.written_entries_cons, opens, others, List.flatMap_map]

theorem prints_tag_loop (env : Env) (name : String) (other : name ≠ "loop") (items : Expr) (tags : List Tag)
    (given : evaluate services scene template env items = pure (Value.ofTags tags))
    (first : String × String) (rest : List (String × String))
    (opens : first.1.toList = '\x7b' :: (Json.stringChars first.2 ++ [':', ' ']))
    (goes : ∀ field ∈ rest, field.1.toList = ',' :: ' ' :: (Json.stringChars field.2 ++ [':', ' ']))
    (plain : ∀ tag ∈ tags, HasFields ((first :: rest).map (·.2)) tag) :
    PrintsOne services scene template env
      (Bundled.each name items (((first :: rest).flatMap fun field => Bundled.jsonMember field.1 name field.2)
        ++ [.data "\x7d"] ++ [Bundled.separator]))
      env (Json.writtenItems (tags.map (tagJson ((first :: rest).map (·.2))))) := by
  have iterated : (Value.ofTags tags).iterate scene = .ok (tags.map Value.tag) := rfl
  rw [← separated_written, List.map_map]
  refine prints_separated env name items _ other _ _ _ given iterated ?_
  rw [List.forall₂_map_left_iff, List.forall₂_map_right_iff, List.forall₂_same]
  intro tag member index total
  have printed := @prints_members services scene template (turn env name (.tag tag) index total) name (.tag tag)
    (lookup_turn env name (.tag tag) index total)
    ((first :: rest).map fun field => (field.1, field.2, ((tag.field? field.2).map TagField.json).getD .null)) ?_
  · rw [List.flatMap_map, List.flatMap_map] at printed
    rw [Function.comp_apply, ← tag_text tag first rest opens goes]
    refine prints_append _ _ _ _ _ _ _ printed ?_
    exact prints_cons _ _ _ _ _ _ _ (prints_data _ "\x7d") (prints_nil _)
  · intro member inside
    obtain ⟨field, among, rfl⟩ := List.mem_map.mp inside
    obtain ⟨found, has, json⟩ := plain tag ‹_› field.2 (List.mem_map_of_mem among)
    exact field_of_tag tag field.2 found has json

theorem prints_tags (globals : Scope) (tags : List Tag) (plain : ∀ tag ∈ tags, HasFields thingFields tag) :
    Prints services scene template (within globals [("items", Value.ofTags tags)]) (bodyOf Bundled.jsonTags)
      (within globals [("items", Value.ofTags tags)]) (tagsJson thingFields tags).written := by
  have given : evaluate services scene template (within globals [("items", Value.ofTags tags)]) (.name "items") =
      pure (Value.ofTags tags) := rfl
  have loop := prints_tag_loop _ "item" (by decide) (.name "items") tags given
    ("\x7b\"name\": ", "name") [(", \"description\": ", "description")] rfl (by simp; rfl) plain
  refine prints_cons _ _ _ _ _ _ _ (prints_data _ "[") ?_
  refine prints_cons _ _ _ _ _ _ _ loop ?_
  exact prints_cons _ _ _ _ _ _ _ (prints_data _ "]") (prints_nil _)

end

section

variable {generator : Generator} {template : String}

-- The names known in the fragment for commands once the metadata has a name of its own.
def described (globals : Scope) (command : Command) : Env :=
  within globals [("command", .command command), ("meta", .metadata command.metadata)]

theorem prints_command_members (services : Services) (scene : Scene) (globals : Scope) (command : Command)
    (description : Json) (known : command.metadata.description = .constant description) :
    Prints services scene template (described globals command)
      ((Bundled.jsonMember "\x7b\"name\": " "command" "name"
          ++ Bundled.jsonMember ", \"fullName\": " "command" "full_name")
        ++ (Bundled.jsonMember ", \"description\": " "meta" "description"
          ++ Bundled.jsonMember ", \"deprecated\": " "meta" "deprecated"
          ++ Bundled.jsonMember ", \"hasMetaInformations\": " "meta" "has_meta_informations"))
      (described globals command)
      ("\x7b\"name\": ".toList ++ (Json.string command.name).written
        ++ ", \"fullName\": ".toList ++ (Json.string command.fullName).written
        ++ ", \"description\": ".toList ++ description.sorted.written
        ++ ", \"deprecated\": ".toList ++ (Json.bool command.metadata.deprecated).written
        ++ ", \"hasMetaInformations\": ".toList ++ (Json.bool command.metadata.hasMetaInformations).written) := by
  have named := @prints_members services scene template (described globals command) "command" (.command command) rfl
    [("\x7b\"name\": ", "name", .string command.name), (", \"fullName\": ", "full_name", .string command.fullName)]
    (by
      simp only [List.forall_mem_cons, List.not_mem_nil, false_imp_iff, implies_true, and_true]
      exact ⟨⟨_, rfl, rfl⟩, ⟨_, rfl, rfl⟩⟩)
  have told := @prints_members services scene template (described globals command) "meta"
    (.metadata command.metadata) rfl
    [(", \"description\": ", "description", description),
      (", \"deprecated\": ", "deprecated", .bool command.metadata.deprecated),
      (", \"hasMetaInformations\": ", "has_meta_informations", .bool command.metadata.hasMetaInformations)]
    (by
      simp only [List.forall_mem_cons, List.not_mem_nil, false_imp_iff, implies_true, and_true]
      refine ⟨⟨.ofJson description, ?_, Value.to_json_of_json description⟩, ⟨_, rfl, rfl⟩, ⟨_, rfl, rfl⟩⟩
      rw [← Value.ofField, ← known]
      rfl)
  refine prints_same_text _ _ _ _ _ (prints_append _ _ _ _ _ _ _ named told) ?_
  simp only [List.flatMap_cons, List.flatMap_nil, List.append_nil, List.append_assoc, Json.sorted]

theorem prints_command_lists (depth : Nat) (globals : Scope) (command : Command) (plain : Writable command.metadata) :
    Prints (generator.services (depth + 1)) generator.scene template (described globals command)
      [.data ", \"params\": [", Bundled.jsonParameters,
        .data "], \"throws\": ", Bundled.called "tags" [Bundled.member "meta" "throws"],
        .data ", \"returns\": ", Bundled.called "tags" [Bundled.member "meta" "returns"],
        .data "\x7d"]
      (described globals command)
      (", \"params\": ".toList ++ (tagsJson paramFields command.metadata.params).written
        ++ ", \"throws\": ".toList ++ (tagsJson thingFields command.metadata.throws).written
        ++ ", \"returns\": ".toList ++ (tagsJson thingFields command.metadata.returns).written ++ ['\x7d']) := by
  obtain ⟨-, params, throws, returns⟩ := plain
  let env := described globals command
  have parameters := @prints_tag_loop (generator.services (depth + 1)) generator.scene template env "param"
    (by decide) (Bundled.member "meta" "params") command.metadata.params rfl ("\x7b\"name\": ", "name")
    [(", \"description\": ", "description"), (", \"type\": ", "type"), (", \"optional\": ", "optional"),
      (", \"default\": ", "default")] rfl
    (by
      simp only [List.forall_mem_cons, List.not_mem_nil, false_imp_iff, implies_true, and_true]
      exact ⟨rfl, rfl, rfl, rfl⟩) params
  have thrown := prints_called generator depth env _ "tags" "items" (bodyOf Bundled.jsonTags)
    (Bundled.member "meta" "throws") _ _ rfl rfl
    (@prints_tags (generator.services depth) generator.scene template globals command.metadata.throws throws)
  have returned := prints_called generator depth env _ "tags" "items" (bodyOf Bundled.jsonTags)
    (Bundled.member "meta" "returns") _ _ rfl rfl
    (@prints_tags (generator.services depth) generator.scene template globals command.metadata.returns returns)
  have whole :=
    prints_cons env env env _ _ _ _ (prints_data env ", \"params\": [")
      (prints_cons env env env _ _ _ _ parameters
        (prints_cons env env env _ _ _ _ (prints_data env "], \"throws\": ")
          (prints_cons env env env _ _ _ _ thrown
            (prints_cons env env env _ _ _ _ (prints_data env ", \"returns\": ")
              (prints_cons env env env _ _ _ _ returned
                (prints_cons env env env _ _ _ _ (prints_data env "\x7d") (prints_nil env)))))))
  refine prints_same_text _ _ _ _ _ whole ?_
  simp only [tagsJson, Json.written, List.append_assoc, List.cons_append, List.nil_append, List.append_nil]
  rfl

theorem prints_command (depth : Nat) (globals : Scope) (command : Command) (plain : Writable command.metadata) :
    ∃ after, Prints (generator.services (depth + 1)) generator.scene template
      (within globals [("command", .command command)]) (bodyOf Bundled.jsonCommand) after
      (commandJson command).written := by
  obtain ⟨description, known, -⟩ := plain.description
  have assigned : PrintsOne (generator.services (depth + 1)) generator.scene template
      (within globals [("command", .command command)]) (.assign (.name "meta") (Bundled.member "command" "meta"))
      (described globals command) [] := rfl
  have members := @prints_command_members template (generator.services (depth + 1)) generator.scene globals command
    description known
  have lists := @prints_command_lists generator template depth globals command plain
  have whole := prints_cons _ _ _ _ _ _ _ assigned (prints_append _ _ _ _ _ _ _ members lists)
  refine ⟨described globals command, prints_same_text _ _ _ _ _ whole ?_⟩
  simp only [commandJson, known, TagField.json, tagsJson, Json.written, Json.written_entries_cons, List.flatMap_cons,
    List.flatMap_nil, List.append_assoc, List.cons_append, List.nil_append, List.append_nil]
  rfl

-- The body of the fragment for nodes, from what the nodes below are told as.
theorem prints_node (depth : Nat) (globals : Scope) (node : Nat) (packages : List Json)
    (plain : ∀ command ∈ generator.scene.forest.commands node, Writable command.metadata)
    (below : List.Forall₂ (fun child json => Prints (generator.services (depth + 1)) generator.scene template
      (within globals [("node", .node child)]) (bodyOf Bundled.jsonNode) (within globals [("node", .node child)])
      json.written) (generator.scene.forest.children node) packages) :
    Prints (generator.services (depth + 2)) generator.scene template (within globals [("node", .node node)])
      (bodyOf Bundled.jsonNode) (within globals [("node", .node node)])
      (nodeJson generator.scene.forest node packages).written := by
  let env := within globals [("node", .node node)]
  have named := @prints_members (generator.services (depth + 2)) generator.scene template env "node" (.node node) rfl
    [("\x7b\"name\": ", "name", .string (generator.scene.forest.name node)),
      (", \"fullName\": ", "full_name", .string (generator.scene.forest.fullName node))]
    (by
      simp only [List.forall_mem_cons, List.not_mem_nil, false_imp_iff, implies_true, and_true]
      exact ⟨⟨_, rfl, rfl⟩, ⟨_, rfl, rfl⟩⟩)
  have commands := @prints_call_loop template generator (depth + 1) env "command" "command_json" "command"
    (bodyOf Bundled.jsonCommand) (Bundled.member "node" "commands")
    (Value.ofCommands (generator.scene.forest.commands node))
    ((generator.scene.forest.commands node).map Value.command)
    (((generator.scene.forest.commands node).map commandJson).map Json.written) (by decide) (by decide) (by decide)
    rfl rfl rfl (by
      rw [List.map_map, List.forall₂_map_left_iff, List.forall₂_map_right_iff, List.forall₂_same]
      exact fun command member => prints_command depth globals command (plain command member))
  have children := @prints_call_loop template generator (depth + 1) env "child" "node_json" "node"
    (bodyOf Bundled.jsonNode) (Bundled.member "node" "packages") (Value.ofNodes (generator.scene.forest.children node))
    ((generator.scene.forest.children node).map Value.node) (packages.map Json.written) (by decide) (by decide)
    (by decide) rfl rfl rfl (by
      rw [List.forall₂_map_left_iff, List.forall₂_map_right_iff]
      exact below.imp fun child json printed => ⟨_, printed⟩)
  rw [separated_written] at commands children
  have whole := prints_append _ _ _ _ _ _ _ named
    (prints_cons env env env _ _ _ _ (prints_data env ", \"commands\": [")
    (prints_cons env env env _ _ _ _ commands
    (prints_cons env env env _ _ _ _ (prints_data env "], \"packages\": [")
    (prints_cons env env env _ _ _ _ children
    (prints_cons env env env _ _ _ _ (prints_data env "]\x7d") (prints_nil env))))))
  refine prints_same_text _ _ _ _ _ whole ?_
  simp only [nodeJson, Json.written, Json.sorted, Json.written_entries_cons,
    List.flatMap_cons, List.flatMap_nil, List.append_assoc, List.cons_append, List.nil_append, List.append_nil]
  rfl

end

/-! ### What is told is valid -/

theorem valid_tags (names : List String) (distinct : names.Nodup) (tags : List Tag)
    (plain : ∀ tag ∈ tags, HasFields names tag) : (tagsJson names tags).Valid := by
  refine (Json.valid_items_iff _).mpr ?_
  intro item inside
  obtain ⟨tag, member, rfl⟩ := List.mem_map.mp inside
  refine ⟨?_, (Json.valid_entries_iff _).mpr ?_⟩
  · rw [List.map_map]
    exact (List.map_id names).symm ▸ distinct
  · intro entry among
    obtain ⟨name, listed, rfl⟩ := List.mem_map.mp among
    obtain ⟨field, has, value, rfl, valid⟩ := plain tag member name listed
    simpa [has, TagField.json] using Json.valid_sorted value valid

theorem valid_command (command : Command) (plain : Writable command.metadata) : (commandJson command).Valid := by
  obtain ⟨⟨description, described, valid⟩, params, throws, returns⟩ := plain
  refine ⟨by simp, trivial, trivial, ?_, trivial, trivial, ?_, ?_, ?_, trivial⟩
  · rw [described]
    exact Json.valid_sorted description valid
  · exact valid_tags _ (by decide) _ params
  · exact valid_tags _ (by decide) _ throws
  · exact valid_tags _ (by decide) _ returns

theorem valid_node (forest : Forest) (node : Nat) (packages : List Json)
    (plain : ∀ command ∈ forest.commands node, Writable command.metadata)
    (valid : ∀ json ∈ packages, json.Valid) : (nodeJson forest node packages).Valid := by
  refine ⟨by simp, trivial, trivial, ?_, (Json.valid_items_iff _).mpr valid, trivial⟩
  refine (Json.valid_items_iff _).mpr ?_
  intro item inside
  obtain ⟨command, member, rfl⟩ := List.mem_map.mp inside
  exact valid_command command (plain command member)

/-! ### The whole forest -/

-- A value tells a node, and the fragment for nodes prints it when calls may be nested deep enough.
structure Told (generator : Generator) (levels node : Nat) (json : Json) : Prop where
  tells : Tells generator.scene.forest node json
  valid : json.Valid
  prints : ∀ depth template globals, levels ≤ depth →
    Prints (generator.services (depth + 1)) generator.scene template (within globals [("node", .node node)])
      (bodyOf Bundled.jsonNode) (within globals [("node", .node node)]) json.written

theorem valid_of_told {generator : Generator} {levels : Nat} {nodes : List Nat} {jsons : List Json}
    (told : List.Forall₂ (Told generator levels) nodes jsons) : ∀ json ∈ jsons, json.Valid := by
  have both := told.flip.imp fun json node told => And.intro told.valid told.tells
  exact ((List.forall₂_and_left _ _).mp both).1

theorem told_of_layout (generator : Generator)
    (plain : ∀ node, ∀ command ∈ generator.scene.forest.commands node, Writable command.metadata)
    (outline : Outline) (parent : Option Nat) (first : Nat)
    (lies : outline.LiesIn parent first generator.scene.forest) :
    ∃ jsons, List.Forall₂ (Told generator outline.size) (outline.tops first) jsons := by
  induction outline generalizing parent first with
  | empty => exact ⟨[], .nil⟩
  | node fullName own below beside ihBelow ihBeside =>
      obtain ⟨slot, liesBelow, liesBeside⟩ := Outline.lies_in_node _ _ _ _ _ _ _ lies
      obtain ⟨packages, toldBelow⟩ := ihBelow _ _ liesBelow
      obtain ⟨others, toldBeside⟩ := ihBeside _ _ liesBeside
      have children : generator.scene.forest.children first = below.tops (first + 1) := by
        simp [Forest.children, slot]
      rw [← children] at toldBelow
      refine ⟨nodeJson generator.scene.forest first packages :: others, .cons ⟨?_, ?_, ?_⟩ ?_⟩
      · exact .node first packages (toldBelow.imp fun child json told => told.tells)
      · refine valid_node _ first packages (plain first) ?_
        exact valid_of_told toldBelow
      · intro depth template globals enough
        rw [Outline.size] at enough
        obtain ⟨fewer, rfl⟩ := Nat.exists_eq_add_of_le' (show 1 ≤ depth by omega)
        refine prints_node fewer globals first packages (plain first) ?_
        exact toldBelow.imp fun child json told => told.prints fewer template globals (by omega)
      · refine toldBeside.imp fun node json told => ⟨told.tells, told.valid, ?_⟩
        intro depth template globals enough
        rw [Outline.size] at enough
        exact told.prints depth template globals (by omega)

/-! ### The manifest as a whole -/

section

variable {services : Services} {generator : Generator} {template : String}

def aliasMembers (config : Configuration) : List (String × Json) :=
  (config.aliases.getD []).map fun entry => (entry.1, .string entry.2)

theorem aliases_of_members (entries : List (String × String)) :
    entries.map (fun entry => (Value.text entry.1, Value.text entry.2)) =
      Value.ofMembers (entries.map fun entry => (entry.1, Json.string entry.2)) := by
  induction entries with
  | nil => rfl
  | cons entry rest ih => rw [List.map_cons, ih]; rfl

theorem evaluate_aliases (env : Env) (known : env.lookup "generator" = .generator) :
    evaluate services generator.scene template env Bundled.aliases =
      pure (Value.ofJson (.object (aliasMembers generator.config))) := by
  have given : evaluate services generator.scene template env (Bundled.member "generator" "aliases") =
      pure (Value.ofAliases generator.config.aliases) := evaluate_member env "generator" "aliases" _ _ known rfl
  cases aliases : generator.config.aliases with
  | none =>
      rw [aliases] at given
      rw [Bundled.aliases, evaluate_either env _ _ _ false given rfl, aliasMembers, aliases]
      rfl
  | some entries =>
      rw [aliases] at given
      cases entries with
      | nil =>
          rw [Bundled.aliases, evaluate_either env _ _ _ false given rfl, aliasMembers, aliases]
          rfl
      | cons entry rest =>
          rw [Bundled.aliases, evaluate_either env _ _ _ true given rfl, aliasMembers, aliases, Option.getD_some,
            Value.ofJson, ← aliases_of_members]
          rfl

theorem legal_to_json (config : Configuration) : (Value.ofText? config.legalText).toJson = .ok (legalJson config) := by
  rw [legalJson]
  cases config.legalText <;> rfl

theorem sorted_legal (config : Configuration) : (legalJson config).sorted = legalJson config := by
  rw [legalJson]
  cases config.legalText <;> rfl

theorem sorted_aliases (config : Configuration) : (Json.object (aliasMembers config)).sorted = aliasesJson config := by
  have plain : Json.sortedEntries (aliasMembers config) = aliasMembers config := by
    rw [Json.sorted_entries_eq, aliasMembers, List.map_map]
    rfl
  rw [Json.sorted, plain]
  rfl

end

section

variable {generator : Generator} {template : String}

theorem prints_manifest (depth : Nat) (args : Value) (packages : List Json)
    (below : List.Forall₂ (fun node json => Prints (generator.services depth) generator.scene template
      (within (generator.globals args) [("node", .node node)]) (bodyOf Bundled.jsonNode)
      (within (generator.globals args) [("node", .node node)]) json.written) generator.scene.forest.roots packages) :
    Prints (generator.services (depth + 1)) generator.scene template { globals := generator.globals args }
      Bundled.jsonManifest { root := fragments, globals := generator.globals args }
      ((manifestJson generator.scene packages).written ++ ['\n']) := by
  let env : Env := { root := fragments, globals := generator.globals args }
  have defined : Prints (generator.services (depth + 1)) generator.scene template
      { globals := generator.globals args } [Bundled.jsonTags, Bundled.jsonCommand, Bundled.jsonNode] env [] := rfl
  have named := @prints_members (generator.services (depth + 1)) generator.scene template env "generator" .generator
    rfl
    [("\x7b\"generator\": ", "name", .string generator.config.name),
      (", \"generated\": ", "generation_date", .string generator.scene.moment.headerText),
      (", \"legalText\": ", "legal_text", legalJson generator.config)]
    (by
      simp only [List.forall_mem_cons, List.not_mem_nil, false_imp_iff, implies_true, and_true]
      exact ⟨⟨_, rfl, rfl⟩, ⟨_, rfl, rfl⟩, ⟨_, rfl, legal_to_json generator.config⟩⟩)
  have aliases := @prints_json (generator.services (depth + 1)) generator.scene template env Bundled.aliases _ _
    (evaluate_aliases env rfl) (Value.to_json_of_json _)
  have roots := @prints_call_loop template generator depth env "root" "node_json" "node"
    (bodyOf Bundled.jsonNode) (.name "packages") (Value.ofNodes generator.scene.forest.roots)
    (generator.scene.forest.roots.map Value.node) (packages.map Json.written) (by decide) (by decide) (by decide)
    rfl rfl rfl (by
      rw [List.forall₂_map_left_iff, List.forall₂_map_right_iff]
      exact below.imp fun child json printed => ⟨_, printed⟩)
  rw [separated_written] at roots
  rw [Json.chars_eq_written, sorted_aliases] at aliases
  have whole := prints_append _ _ _ _ _ _ _ defined (prints_append _ _ _ _ _ _ _ named
    (prints_cons env env env _ _ _ _ (prints_data env ", \"aliases\": ")
    (prints_cons env env env _ _ _ _ aliases
    (prints_cons env env env _ _ _ _ (prints_data env ", \"packages\": [")
    (prints_cons env env env _ _ _ _ roots
    (prints_cons env env env _ _ _ _ (prints_data env "]\x7d\n") (prints_nil env)))))))
  refine prints_same_text _ _ _ _ _ whole ?_
  simp only [manifestJson, Json.written, Json.sorted, sorted_legal, Json.written_entries_cons, List.flatMap_cons,
    List.flatMap_nil, List.append_assoc, List.cons_append, List.nil_append, List.append_nil]
  rfl

-- The entry of the scheme does nothing but generate the file of the manifest.
theorem render_all_main (depth : Nat) (env : Env) (known : env.lookup "generator" = .generator) :
    renderAll (generator.services (depth + 1)) generator.scene template env Bundled.jsonMain = do
      Generator.generateFile (generator.services depth) generator (Path.ofString "commands.json") "commands.json"
        "manifest" .null
      return (env, "\n") := by
  have callee : evaluate (generator.services (depth + 1)) generator.scene template env
      (Bundled.member "generator" "generate_file") = pure (.method .generator "generate_file") :=
    evaluate_member env "generator" "generate_file" _ _ known rfl
  have called : (generator.services (depth + 1)).call template env (.method .generator "generate_file")
      [.text "commands.json", .text "manifest"] [] = do
        Generator.generateFile (generator.services depth) generator (Path.ofString "commands.json") "commands.json"
          "manifest" .null
        return .text "" := by
    rfl
  simp [Bundled.jsonMain, Bundled.generated, renderAll, renderStmt, evaluate, evaluateAll, evaluateNamed, callee,
    evaluate_constant, call, called, Render.ofResult, Value.plain]

end

-- A forest of commands has a value for each of its roots.
theorem told_of_commands (generator : Generator) (commands : List Command)
    (built : Forest.ofCommands commands = .ok generator.scene.forest)
    (plain : ∀ command ∈ commands, Writable command.metadata) :
    ∃ packages, List.Forall₂ (Told generator generator.scene.forest.size)
      generator.scene.forest.roots packages := by
  have filled := Forest.filled_of_commands commands _ built
  obtain ⟨-, outline, -, -, layout⟩ := Forest.of_commands_grown commands _ built
  have size : generator.scene.forest.size = outline.size := by simp [layout, Forest.size, Outline.toForest]
  have roots : generator.scene.forest.roots = outline.tops 0 := by rw [layout]; rfl
  rw [size, roots]
  refine told_of_layout generator ?_ outline none 0 (layout ▸ outline.lies_in_forest)
  intro node command member
  cases found : generator.scene.forest.slot? node with
  | none => simp [Forest.commands, found] at member
  | some slot =>
      have inside : command ∈ slot.commands := by simpa [Forest.commands, found] using member
      exact plain command (Forest.kept_of_slot filled slot (List.mem_of_getElem? found) command inside).1

theorem valid_manifest (scene : Scene) (packages : List Json)
    (distinct : ((scene.configuration.aliases.getD []).map (·.1)).Nodup) (valid : ∀ json ∈ packages, json.Valid) :
    (manifestJson scene packages).Valid := by
  refine ⟨by simp, trivial, trivial, ?_, ?_, (Json.valid_items_iff _).mpr valid, trivial⟩
  · rw [legalJson]
    cases scene.configuration.legalText <;> trivial
  · rw [← sorted_aliases]
    refine Json.valid_sorted _ ⟨?_, ?_⟩
    · rw [aliasMembers, List.map_map]
      exact distinct
    · refine (Json.valid_entries_iff _).mpr ?_
      intro entry inside
      obtain ⟨name, -, rfl⟩ := List.mem_map.mp inside
      trivial

theorem manifest_rendered (generator : Generator) (packages : List Json) (stage : Stage) (depth : Nat) (args : Value)
    (told : List.Forall₂ (Told generator generator.scene.forest.size) generator.scene.forest.roots packages)
    (manifest : generator.engine.read stage.session.world.disk stage.session.directory
      (Engine.templatePath generator.scheme "manifest") = .ok Bundled.jsonManifest)
    (enough : generator.scene.forest.size + 2 ≤ depth) :
    Generator.renderArgs (generator.services depth) generator "manifest" args stage =
      (.ok (String.ofList ((manifestJson generator.scene packages).written ++ ['\n'])),
        announced generator.scheme "manifest" stage) := by
  obtain ⟨fewer, rfl⟩ := Nat.exists_eq_add_of_le' (show 2 ≤ depth by omega)
  refine render_with_prints _ _ _ _ _ _ _ manifest (prints_manifest (fewer + 1) args packages ?_)
  exact told.imp fun node json told => told.prints fewer _ _ (by omega)

-- What is left to do for a file once its text is known.
def writing (generator : Generator) (file : Path) (text : String) : Render Unit := do
  Render.ofRun (Run.say .info ("Generating " ++ file.toString ++ "..."))
  generator.writeFile file text

theorem generate_file_rendered (services : Services) (generator : Generator) (relative : Path)
    (relativeText template text : String) (args : Value) (stage after : Stage) (file : Path)
    (inside : Generator.fileFor stage.session.directory generator.scene generator.scheme relative relativeText =
      .ok file)
    (rendered : Generator.renderArgs services generator template args stage = (.ok text, after)) :
    Generator.generateFile services generator relative relativeText template args stage =
      writing generator file text after := by
  have known : (get : Render Stage) stage = (.ok stage, stage) := rfl
  have place : Render.ofResult (.ok file) stage = (.ok file, stage) := rfl
  rw [Generator.generateFile, bind_ok known, inside, bind_ok place, bind_ok rendered, writing]

-- Rendering the entry of the scheme is writing the text of the manifest into its file.
theorem entry_rendered (generator : Generator) (text : String) (stage after : Stage) (file : Path)
    (entry : generator.engine.read stage.session.world.disk stage.session.directory
      (Engine.templatePath generator.scheme Engine.entryTemplate) = .ok Bundled.jsonMain)
    (inside : Generator.fileFor stage.session.directory generator.scene generator.scheme
      (Path.ofString "commands.json") "commands.json" = .ok file)
    (rendered : Generator.renderArgs (generator.services (generator.scene.forest.size + 999)) generator "manifest"
      .null (announced generator.scheme Engine.entryTemplate stage) = (.ok text, after)) :
    generator.render Engine.entryTemplate .null stage =
      (tryCatch (do writing generator file text; return "\n")
        (fun trouble => throw (Generator.blame generator.scheme Engine.entryTemplate trouble)) : Render String)
        after := by
  have main := @render_all_main generator (Engine.templatePath generator.scheme Engine.entryTemplate)
    (generator.scene.forest.size + 999) { globals := generator.globals .null } rfl
  have generated := generate_file_rendered _ generator (Path.ofString "commands.json") "commands.json" "manifest" text
    .null (announced generator.scheme Engine.entryTemplate stage) after file inside rendered
  have limit : generator.depthLimit = generator.scene.forest.size + 999 + 1 := rfl
  rw [Generator.render, Generator.renderArgs, render_with_body _ _ _ _ _ entry, try_catch_run, try_catch_run, limit,
    main]
  simp only [bind_assoc, pure_bind]
  rw [bind_run, generated, ← bind_run]

-- The text that the scheme writes into its file is a JSON text, and reading it gives what the configuration and the
-- forest say. The templates of the scheme are the bundled ones, and aliases are a map.
theorem manifest_read_back (generator : Generator) (commands : List Command) (stage : Stage)
    (built : Forest.ofCommands commands = .ok generator.scene.forest)
    (plain : ∀ command ∈ commands, Writable command.metadata)
    (distinct : ((generator.config.aliases.getD []).map (·.1)).Nodup)
    (entry : generator.engine.read stage.session.world.disk stage.session.directory
      (Engine.templatePath generator.scheme Engine.entryTemplate) = .ok Bundled.jsonMain)
    (manifest : generator.engine.read stage.session.world.disk stage.session.directory
      (Engine.templatePath generator.scheme "manifest") = .ok Bundled.jsonManifest) :
    ∃ text packages,
      (∀ file, Generator.fileFor stage.session.directory generator.scene generator.scheme
          (Path.ofString "commands.json") "commands.json" = .ok file →
        generator.render Engine.entryTemplate .null stage =
          (tryCatch (do writing generator file text; return "\n")
            (fun trouble => throw (Generator.blame generator.scheme Engine.entryTemplate trouble)) : Render String)
            (announced generator.scheme "manifest" (announced generator.scheme Engine.entryTemplate stage))) ∧
      (∀ depth args, generator.scene.forest.size + 2 ≤ depth →
        Generator.renderArgs (generator.services depth) generator "manifest" args stage =
          (.ok text, announced generator.scheme "manifest" stage)) ∧
      Json.read? text = some (manifestJson generator.scene packages) ∧
      List.Forall₂ (Tells generator.scene.forest) generator.scene.forest.roots packages := by
  obtain ⟨packages, told⟩ := told_of_commands generator commands built plain
  refine ⟨_, packages, ?_, fun depth args => manifest_rendered generator packages stage depth args told manifest,
    Json.read_of_written _ (valid_manifest generator.scene packages distinct (valid_of_told told)) ['\n'] ?_,
    told.imp fun node json told => told.tells⟩
  · intro file inside
    refine entry_rendered generator _ stage _ file entry inside ?_
    exact manifest_rendered generator packages _ _ .null told manifest (by omega)
  · intro c blank
    rw [List.mem_singleton.mp blank]
    rfl

def shopLimit : Tag := .of ⟨0, "Param", .param, true, false⟩ 0 [
  ("name", .constant (.string "limit")), ("description", .constant (.string "how \"many\"")),
  ("type", .constant .null), ("optional", .constant (.bool true)),
  ("default", .constant (.object [("to", .float (.finite false (2 ^ 52) (-53))), ("from", .int (-1))]))]

def shopCommands : List Command := [
  { fullName := "shop.cart.Add", metadata := { description := .constant (.string "Adds"), params := [shopLimit] } },
  { fullName := "shop.Find" }]

def shopGenerator : Generator where
  engine := {}
  scene :=
    { configuration := { name := "shop", scheme := "json", aliases := some [("add", "shop.cart.Add")] }
      forest :=
        { slots := [⟨"shop", none, [1], [{ fullName := "shop.Find" }]⟩, ⟨"shop.cart", some 0, [],
            [{ fullName := "shop.cart.Add"
               metadata := { description := .constant (.string "Adds"), params := [shopLimit] } }]⟩]
          roots := [0] }
      moment := { date := ⟨2010, 5, 3⟩, hour := 14, minute := 7, second := 9, offset := some 0 } }

theorem shop_commands_writable : ∀ command ∈ shopCommands, Writable command.metadata := by
  have limit : HasFields paramFields shopLimit := by
    simp only [HasFields, paramFields, List.forall_mem_cons, List.not_mem_nil, false_imp_iff, implies_true, and_true]
    refine ⟨⟨_, rfl, _, rfl, trivial⟩, ⟨_, rfl, _, rfl, trivial⟩, ⟨_, rfl, _, rfl, trivial⟩, ⟨_, rfl, _, rfl, trivial⟩,
      ⟨_, rfl, _, rfl, by simp, ?_, trivial, trivial⟩⟩
    exact ⟨by decide, by decide, by decide, .inl (le_refl _)⟩
  simp only [shopCommands, List.forall_mem_cons, List.not_mem_nil, false_imp_iff, implies_true, and_true]
  refine ⟨⟨⟨_, rfl, trivial⟩, ?_, by simp, by simp⟩, ⟨⟨_, rfl, trivial⟩, by simp, by simp, by simp⟩⟩
  intro tag member
  rw [List.mem_singleton.mp member]
  exact limit

theorem shop_manifest_read_back : ∃ text packages,
    Generator.renderArgs (shopGenerator.services 4) shopGenerator "manifest" .null {} =
        (.ok text, announced "json" "manifest" {}) ∧
      Json.read? text = some (manifestJson shopGenerator.scene packages) ∧
      List.Forall₂ (Tells shopGenerator.scene.forest) [0] packages := by
  obtain ⟨text, packages, -, rendered, read, told⟩ := manifest_read_back shopGenerator shopCommands {} rfl
    shop_commands_writable (by simp [shopGenerator, Generator.config]) rfl rfl
  exact ⟨text, packages, rendered 4 .null (by decide), read, told⟩

end Manifest

end StubForge
