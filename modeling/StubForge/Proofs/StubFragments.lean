import StubForge.Proofs.PhpFragments
import StubForge.Proofs.StubText

set_option autoImplicit false

/-!
The files of the stubs as sources that texts are put into: the marks of their templates, and between them the texts of
the configuration, of the names of commands and of their metadata, each as the template puts it there.
-/

namespace StubForge.Stubs

open Php
open Template (Value Scene)

/-! ### What tags hold -/

def fieldText (scene : Scene) (field : TagField) : String := ((Value.ofField field).plain scene).toOption.getD ""

def fieldHolds (scene : Scene) (field : TagField) : Bool := ((Value.ofField field).isTrue scene).toOption.getD false

def fieldOf (tag : Tag) (name : String) : TagField := (tag.field? name).getD (.constant .null)

def tagText (scene : Scene) (tag : Tag) (name : String) : String := fieldText scene (fieldOf tag name)

def tagHolds (scene : Scene) (tag : Tag) (name : String) : Bool := fieldHolds scene (fieldOf tag name)

/-! ### The fragments of the files -/

def legalLineFragments (line : String) : List Fragment :=
  [.marks " * ", .comment line, .marks "\n"]

def legalFragments : Option String → List Fragment
  | none => []
  | some text =>
      if text = "" then [] else (Text.splitLines text).flatMap legalLineFragments ++ [.marks " *\n"]

def headerFragments (generator : Generator) : List Fragment :=
  .marks "<?php\n/*\n" :: (legalFragments generator.config.legalText ++ [
    .marks " * Generated by ipcstub (", .comment generator.config.name,
    .marks ") on ", .comment generator.scene.moment.headerText,
    .marks ".\n * Do not edit by hand.\n */\n"])

def linkFragments (key place ending : String) : List Fragment := [
  .marks "        ", .quoted "" key "",
  .marks " => __DIR__ . ", .quoted "/" place ending,
  .marks ",\n"]

def aliasFragments (entry : String × String) : List Fragment := [
  .marks "        ", .quoted "" entry.1 "",
  .marks " => ", .quoted "" entry.2 "",
  .marks ",\n"]

def packageFragments (forest : Forest) (node : Nat) : List Fragment :=
  [.marks "\n// namespace ", .remark (forest.fullName node),
    .marks "\nreturn array(\n    'packages' => array(\n"]
  ++ (forest.children node).flatMap (fun child =>
    linkFragments (forest.name child) (forest.name child) "/_package.php")
  ++ [.marks "    ),\n    'commands' => array(\n"]
  ++ (forest.commands node).flatMap (fun command => linkFragments command.name command.name ".php")
  ++ [.marks "    ),\n);\n"]

def indexFragments (config : Configuration) (forest : Forest) : List Fragment :=
  [.marks "\nreturn array(\n    'commands' => array(\n"]
  ++ forest.allCommands.flatMap (fun command => linkFragments command.fullName (slashed command.fullName) ".php")
  ++ [.marks "    ),\n    'aliases' => array(\n"]
  ++ (config.aliases.getD []).flatMap aliasFragments
  ++ [.marks "    ),\n);\n"]

section

variable (scene : Scene)

def describedFragments (before : String) (tag : Tag) : List Fragment :=
  if tagHolds scene tag "description" then [.marks before, .comment (tagText scene tag "description")] else []

def defaultFragments (tag : Tag) : List Fragment :=
  if tagHolds scene tag "default" then
    [.marks ", defaults to ", .comment (tagText scene tag "default")]
  else []

def optionalFragments (tag : Tag) : List Fragment :=
  if tagHolds scene tag "optional" then
    .marks " (optional" :: (defaultFragments scene tag ++ [.marks ")"])
  else []

def paramFragments (tag : Tag) : List Fragment :=
  [.marks " * @param ",
    .comment (if tagHolds scene tag "type" then tagText scene tag "type" else "mixed"),
    .marks " $", .comment (tagText scene tag "name")]
  ++ describedFragments scene " " tag ++ optionalFragments scene tag ++ [.marks "\n"]

def throwFragments (tag : Tag) : List Fragment :=
  [.marks " * @throws ", .comment (tagText scene tag "name")]
  ++ describedFragments scene " " tag ++ [.marks "\n"]

def returnFragments (tag : Tag) (index : Nat) : List Fragment :=
  [.marks (if index = 0 then " '" else ", '"), .comment (tagText scene tag "name"), .marks "'"]
  ++ describedFragments scene ": " tag

def argumentFragments (tag : Tag) : List Fragment :=
  [.marks ", $", .name (tagText scene tag "name")]
  ++ (if tagHolds scene tag "optional" then [.marks " = null"] else [])

def passedFragments (tag : Tag) : List Fragment := [
  .marks "            ", .quoted "" (tagText scene tag "name") "",
  .marks " => $", .name (tagText scene tag "name"),
  .marks ",\n"]

def summary (command : Command) : String :=
  if fieldHolds scene command.metadata.description then fieldText scene command.metadata.description else command.name

-- The comment of a class, between its first mark and its end mark.
def commentFragments (command : Command) : List Fragment :=
  [.comment (summary scene command), .marks "\n *\n"]
  ++ command.metadata.params.flatMap (paramFragments scene)
  ++ command.metadata.throws.flatMap (throwFragments scene)
  ++ [.marks " * @return array"]
  ++ command.metadata.returns.zipIdx.flatMap (fun entry => returnFragments scene entry.1 entry.2)
  ++ [.marks "\n"]
  ++ (if command.metadata.deprecated then [.marks " * @deprecated\n"] else [])

def commandFragments (command : Command) : List Fragment :=
  [.marks "\nnamespace ", .name (Text.replace "." "\\" command.home), .marks ";\n\n/**\n * "]
  ++ commentFragments scene command
  ++ [.marks " */\nclass ", .name command.name,
    .marks "\n\x7b\n    const COMMAND = ", .quoted "" command.fullName "",
    .marks ";\n\n    public static function call($connection"]
  ++ command.metadata.params.flatMap (argumentFragments scene)
  ++ [.marks ")\n    \x7b\n        return $connection->call(self::COMMAND, array(\n"]
  ++ command.metadata.params.flatMap (passedFragments scene)
  ++ [.marks "        ));\n    \x7d\n\x7d\n"]

end

-- The source that a call is rendered to.
def fragmentsOf (generator : Generator) (call : Call) : List Fragment :=
  headerFragments generator ++
    match call.template, call.args with
    | "package", .node node => packageFragments generator.scene.forest node
    | "command", .command command => commandFragments generator.scene command
    | "index", .null => indexFragments generator.config generator.scene.forest
    | _, _ => []

/-! ### Their texts -/

theorem written_flat {α : Type} (items : List α) (parts : α → List Fragment) (text : α → List Char)
    (each : ∀ item, written (parts item) = text item) : written (items.flatMap parts) = items.flatMap text := by
  rw [written, List.flatMap_assoc]
  exact List.flatMap_congr fun item _ => each item

theorem written_header (generator : Generator) : written (headerFragments generator) = headerText generator := by
  have legal : ∀ legal, written (legalFragments legal) = legalPart legal := by
    intro legal
    cases legal with
    | none => rfl
    | some text =>
        rw [legalFragments, legalPart]
        split
        · rfl
        · rw [written_append, written_flat _ _ legalLine fun line => by simp [written, legalLineFragments,
            Fragment.chars, legalLine]]
          rfl
  have parts := legal generator.config.legalText
  rw [written] at parts
  simp only [headerFragments, written, List.flatMap_cons, List.flatMap_append, parts, List.flatMap_nil, Fragment.chars]
  unfold headerText
  simp only [List.append_assoc, List.append_nil]

theorem written_link (key place ending : String) :
    written (linkFragments key place ending) = linkText key (place ++ ending) := by
  have opened : "        '".toList = "        ".toList ++ ['\''] := rfl
  have between : "' => __DIR__ . '/".toList = '\'' :: (" => __DIR__ . ".toList ++ '\'' :: "/".toList) := rfl
  have closed : "',\n".toList = '\'' :: ",\n".toList := rfl
  unfold linkText
  rw [opened, between, closed]
  simp only [written, linkFragments, Fragment.chars, List.flatMap_cons, List.flatMap_nil, String.toList_append,
    String.empty_append, String.append_empty, List.append_assoc, List.cons_append, List.nil_append, List.append_nil]

theorem written_alias (entry : String × String) : written (aliasFragments entry) = aliasText entry := by
  have opened : "        '".toList = "        ".toList ++ ['\''] := rfl
  have between : "' => '".toList = '\'' :: (" => ".toList ++ ['\'']) := rfl
  have closed : "',\n".toList = '\'' :: ",\n".toList := rfl
  unfold aliasText
  rw [opened, between, closed]
  simp only [written, aliasFragments, Fragment.chars, List.flatMap_cons, List.flatMap_nil,
    String.empty_append, String.append_empty, List.append_assoc, List.cons_append, List.nil_append, List.append_nil]

theorem written_package (forest : Forest) (node : Nat) :
    written (packageFragments forest node) = packageText forest node := by
  simp only [packageFragments, written_append]
  rw [written_flat _ _ _ fun _ => written_link _ _ _, written_flat _ _ _ fun _ => written_link _ _ _]
  unfold packageText
  simp only [written, List.flatMap_cons, List.flatMap_nil, Fragment.chars, List.append_assoc, List.append_nil]

theorem written_index (config : Configuration) (forest : Forest) :
    written (indexFragments config forest) = indexText config forest := by
  simp only [indexFragments, written_append]
  rw [written_flat _ _ _ fun _ => written_link _ _ _, written_flat _ _ _ written_alias]
  unfold indexText
  simp only [written, List.flatMap_cons, List.flatMap_nil, Fragment.chars, List.append_nil]
  rfl

/-! ### Their places -/

theorem block_of_at (star : Bool) (mode : Mode) (here : At (.block star) mode) : InBlock mode := ⟨star, here⟩

theorem names_of_at (word : List Char) (mode : Mode) (here : At (.word word) mode) : InNames mode := .inr ⟨word, here⟩

-- Marks in a comment that go on in it.
theorem sound_marks_within (text : String) (leads : ∀ star, (scan (.block star) text.toList).1 = .block false) :
    Sound InBlock [.marks text] InBlock :=
  sound_mono (sound_marks_block text leads) (block_of_at false)

theorem sound_header (generator : Generator) : Sound (At (.outside 0)) (headerFragments generator) (At .code) := by
  have line : ∀ line, Sound (At (.block false)) (legalLineFragments line) (At (.block false)) := fun line =>
    sound_cons (sound_marks_at _ _ (.block false) rfl) <| sound_cons (sound_comment line) <|
      sound_marks_block _ fun star => by cases star <;> rfl
  have legal : Sound (At (.block false)) (legalFragments generator.config.legalText) (At (.block false)) := by
    cases generator.config.legalText with
    | none => exact sound_nil _
    | some text =>
        rw [legalFragments]
        split
        · exact sound_nil _
        · exact sound_append (sound_flat _ _ line) (sound_marks_at _ _ _ rfl)
  have closed : Sound InBlock [.marks ".\n * Do not edit by hand.\n */\n"] (At .code) := by
    refine sound_marks _ _ ?_
    rintro _ ⟨star, rfl⟩
    cases star <;> rfl
  have rest : Sound (At (.block false)) [
      .marks " * Generated by ipcstub (", .comment generator.config.name,
      .marks ") on ", .comment generator.scene.moment.headerText,
      .marks ".\n * Do not edit by hand.\n */\n"] (At .code) :=
    sound_cons (sound_marks_at _ _ (.block false) rfl) <| sound_cons (sound_comment _) <|
      sound_cons (sound_marks_block _ fun star => by cases star <;> rfl) <| sound_cons (sound_comment _) closed
  exact sound_cons (sound_marks_at _ _ (.block false) rfl) (sound_append legal rest)

theorem sound_link (key place ending : String) : Sound (At .code) (linkFragments key place ending) (At .code) :=
  sound_cons (sound_marks_at _ _ .code rfl) <| sound_cons (sound_quoted _ _ _) <|
    sound_cons (sound_marks_at _ _ .code rfl) <| sound_cons (sound_quoted _ _ _) <| sound_marks_at _ _ _ rfl

theorem sound_alias (entry : String × String) : Sound (At .code) (aliasFragments entry) (At .code) :=
  sound_cons (sound_marks_at _ _ .code rfl) <| sound_cons (sound_quoted _ _ _) <|
    sound_cons (sound_marks_at _ _ .code rfl) <| sound_cons (sound_quoted _ _ _) <| sound_marks_at _ _ _ rfl

theorem sound_package (forest : Forest) (node : Nat) : Sound (At .code) (packageFragments forest node) (At .code) := by
  have begun : Sound InLine [.marks "\nreturn array(\n    'packages' => array(\n"] (At .code) := by
    refine sound_marks _ _ ?_
    rintro _ ⟨question, rfl⟩
    cases question <;> rfl
  have opened : Sound (At .code) [.marks "\n// namespace ", .remark (forest.fullName node),
      .marks "\nreturn array(\n    'packages' => array(\n"] (At .code) :=
    sound_cons (sound_marks_at _ _ (.line false) rfl) (sound_cons (sound_remark _) begun)
  exact sound_append (sound_append (sound_append (sound_append opened
    (sound_flat _ _ fun _ => sound_link _ _ _)) (sound_marks_at _ _ .code rfl))
    (sound_flat _ _ fun _ => sound_link _ _ _)) (sound_marks_at _ _ _ rfl)

theorem sound_index (config : Configuration) (forest : Forest) :
    Sound (At .code) (indexFragments config forest) (At .code) :=
  sound_append (sound_append (sound_append (sound_append (sound_marks_at _ _ .code rfl)
    (sound_flat _ _ fun _ => sound_link _ _ _)) (sound_marks_at _ _ .code rfl))
    (sound_flat _ _ sound_alias)) (sound_marks_at _ _ _ rfl)

section

variable (scene : Scene)

theorem sound_described (before : String) (tag : Tag)
    (leads : ∀ star, (scan (.block star) before.toList).1 = .block false) :
    Sound InBlock (describedFragments scene before tag) InBlock :=
  sound_if _ (sound_cons (sound_marks_block before leads) (sound_comment _))

theorem sound_optional (tag : Tag) : Sound InBlock (optionalFragments scene tag) InBlock := by
  have default : Sound InBlock (defaultFragments scene tag) InBlock :=
    sound_if _ <| sound_cons (sound_marks_block _ fun star => by cases star <;> rfl) (sound_comment _)
  exact sound_if _ <| sound_cons (sound_marks_within _ fun star => by cases star <;> rfl) <|
    sound_append default (sound_marks_within _ fun star => by cases star <;> rfl)

theorem sound_param (tag : Tag) : Sound (At (.block false)) (paramFragments scene tag) (At (.block false)) := by
  have named : Sound (At (.block false)) [.marks " * @param ",
      .comment (if tagHolds scene tag "type" then tagText scene tag "type" else "mixed"),
      .marks " $", .comment (tagText scene tag "name")] InBlock :=
    sound_cons (sound_marks_at _ _ (.block false) rfl) <| sound_cons (sound_comment _) <|
      sound_cons (sound_marks_block _ fun star => by cases star <;> rfl) (sound_comment _)
  exact sound_append (sound_append (sound_append named
    (sound_described scene " " tag fun star => by cases star <;> rfl)) (sound_optional scene tag))
    (sound_marks_block _ fun star => by cases star <;> rfl)

theorem sound_throw (tag : Tag) : Sound (At (.block false)) (throwFragments scene tag) (At (.block false)) := by
  have named : Sound (At (.block false)) [.marks " * @throws ", .comment (tagText scene tag "name")] InBlock :=
    sound_cons (sound_marks_at _ _ (.block false) rfl) (sound_comment _)
  exact sound_append (sound_append named (sound_described scene " " tag fun star => by cases star <;> rfl))
    (sound_marks_block _ fun star => by cases star <;> rfl)

theorem sound_return (tag : Tag) (index : Nat) : Sound InBlock (returnFragments scene tag index) InBlock := by
  have named : Sound InBlock [.marks (if index = 0 then " '" else ", '"), .comment (tagText scene tag "name"),
      .marks "'"] InBlock :=
    sound_cons (sound_marks_block _ fun star => by split <;> cases star <;> rfl) <| sound_cons (sound_comment _) <|
      sound_marks_within _ fun star => by cases star <;> rfl
  exact sound_append named (sound_described scene ": " tag fun star => by cases star <;> rfl)

theorem sound_argument (tag : Tag) : Sound InNames (argumentFragments scene tag) InNames := by
  have named : Sound InNames [.marks ", $", .name (tagText scene tag "name")] InNames :=
    sound_cons (sound_marks_names _ .code rfl fun _ => rfl) (sound_name _)
  exact sound_append named <| sound_if _ <|
    sound_mono (sound_marks_names _ (.word ['n', 'u', 'l', 'l']) rfl fun _ => rfl) (names_of_at _)

theorem sound_passed (tag : Tag) : Sound (At .code) (passedFragments scene tag) (At .code) :=
  sound_cons (sound_marks_at _ _ .code rfl) <| sound_cons (sound_quoted _ _ _) <|
    sound_cons (sound_marks_at _ _ .code rfl) <| sound_cons (sound_name _) <| sound_marks_names _ _ rfl fun _ => rfl

theorem sound_comments (command : Command) :
    Sound (At (.block false)) (commentFragments scene command) (At (.block false)) := by
  have summed : Sound (At (.block false)) [.comment (summary scene command), .marks "\n *\n"] (At (.block false)) :=
    sound_cons (sound_comment _) (sound_marks_block _ fun star => by cases star <;> rfl)
  have returns : Sound (At (.block false)) [.marks " * @return array"] InBlock :=
    sound_mono (sound_marks_at _ _ (.block false) rfl) (block_of_at false)
  have ended : Sound InBlock [.marks "\n"] (At (.block false)) :=
    sound_marks_block _ fun star => by cases star <;> rfl
  have deprecated : Sound (At (.block false)) [.marks " * @deprecated\n"] (At (.block false)) :=
    sound_marks_at _ _ _ rfl
  exact sound_append (sound_append (sound_append (sound_append (sound_append (sound_append summed
    (sound_flat _ _ (sound_param scene))) (sound_flat _ _ (sound_throw scene))) returns)
    (sound_flat _ _ fun entry => sound_return scene entry.1 entry.2)) ended) (sound_if _ deprecated)

theorem sound_command (command : Command) : Sound (At .code) (commandFragments scene command) (At .code) := by
  have opened : Sound (At .code) [.marks "\nnamespace ", .name (Text.replace "." "\\" command.home),
      .marks ";\n\n/**\n * "] (At (.block false)) :=
    sound_cons (sound_marks_at _ _ .code rfl) <| sound_cons (sound_name _) <|
      sound_marks_names _ _ rfl fun _ => rfl
  have declared : Sound (At (.block false)) [.marks " */\nclass ", .name command.name,
      .marks "\n\x7b\n    const COMMAND = ", .quoted "" command.fullName "",
      .marks ";\n\n    public static function call($connection"] InNames :=
    sound_cons (sound_marks_at _ _ .code rfl) <| sound_cons (sound_name _) <|
      sound_cons (sound_marks_names _ .code rfl fun _ => rfl) <| sound_cons (sound_quoted _ _ _) <|
      sound_mono (sound_marks_at _ _ (.word ['c', 'o', 'n', 'n', 'e', 'c', 't', 'i', 'o', 'n']) rfl) (names_of_at _)
  have body : Sound InNames [.marks ")\n    \x7b\n        return $connection->call(self::COMMAND, array(\n"]
      (At .code) := sound_marks_names _ _ rfl fun _ => rfl
  have closed : Sound (At .code) [.marks "        ));\n    \x7d\n\x7d\n"] (At .code) := sound_marks_at _ _ _ rfl
  exact sound_append (sound_append (sound_append (sound_append (sound_append (sound_append opened
    (sound_comments scene command)) declared) (sound_flat _ _ (sound_argument scene))) body)
    (sound_flat _ _ (sound_passed scene))) closed

end

-- Whatever is put into a file, its texts are read where they were put exactly if each of them is safe there, and then
-- the file ends in its code.
theorem sound_file (generator : Generator) (call : Call) :
    Sound (At (.outside 0)) (fragmentsOf generator call) (At .code) := by
  refine sound_append (sound_header generator) ?_
  split
  · exact sound_package _ _
  · exact sound_command _ _
  · exact sound_index _ _
  · exact sound_nil _

end StubForge.Stubs
