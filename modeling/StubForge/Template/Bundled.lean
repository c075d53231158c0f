import StubForge.Template.Syntax

set_option autoImplicit false

/-!
The schemes that come with the program: a manifest of all commands, and stubs with one class for
each command. Their templates are given by their statements, so nothing in them is left to be read.
-/

namespace StubForge.Template.Bundled

/-! ### Forms that the templates share -/

def constant (text : String) : Expr := .constant (.string text)

def member (thing name : String) : Expr := .attribute (.name thing) name

def shown (thing name : String) : Stmt := .output (member thing name)

def json (value : Expr) : Stmt := .output (.filtered value "tojson" [] [] 1)

def jsonMember (before thing name : String) : List Stmt := [.data before, json (member thing name)]

def each (name : String) (items : Expr) (body : List Stmt) : Stmt :=
  .loop (.name name) items (.constant (.bool true)) body []

def separator : Stmt :=
  .output (.choice (.negation (member "loop" "last")) (constant ", ") (constant ""))

def given (condition : Expr) (body : List Stmt) : Stmt := .branch condition body []

def undotted (name : Expr) (text : String) : Expr :=
  .filtered name "replace" [constant ".", constant text] [] 1

def generated (args : List Expr) : Stmt := .output (.call (member "generator" "generate_file") args [])

def called (fragment : String) (args : List Expr) : Stmt := .output (.call (.name fragment) args [])

def header : Stmt := .output (.call (member "generator" "include_file") [constant "header"] [])

def aliases : Expr := .either (member "generator" "aliases") (.dictionary [])

/-! ### The manifest -/

def jsonMain : List Stmt := [
  generated [constant "commands.json", constant "manifest"],
  .data "\n"]

def jsonTags : Stmt := .define "tags" ["items"] [] [
  .data "[",
  each "item" (.name "items") (
    jsonMember "\x7b\"name\": " "item" "name"
    ++ jsonMember ", \"description\": " "item" "description"
    ++ [.data "\x7d", separator]),
  .data "]"]

def jsonParameters : Stmt :=
  each "param" (member "meta" "params") (
    jsonMember "\x7b\"name\": " "param" "name"
    ++ jsonMember ", \"description\": " "param" "description"
    ++ jsonMember ", \"type\": " "param" "type"
    ++ jsonMember ", \"optional\": " "param" "optional"
    ++ jsonMember ", \"default\": " "param" "default"
    ++ [.data "\x7d", separator])

def jsonCommand : Stmt := .define "command_json" ["command"] [] (
  [.assign (.name "meta") (member "command" "meta")]
  ++ jsonMember "\x7b\"name\": " "command" "name"
  ++ jsonMember ", \"fullName\": " "command" "full_name"
  ++ jsonMember ", \"description\": " "meta" "description"
  ++ jsonMember ", \"deprecated\": " "meta" "deprecated"
  ++ jsonMember ", \"hasMetaInformations\": " "meta" "has_meta_informations"
  ++ [
    .data ", \"params\": [", jsonParameters,
    .data "], \"throws\": ", called "tags" [member "meta" "throws"],
    .data ", \"returns\": ", called "tags" [member "meta" "returns"],
    .data "\x7d"])

def jsonNode : Stmt := .define "node_json" ["node"] [] (
  jsonMember "\x7b\"name\": " "node" "name"
  ++ jsonMember ", \"fullName\": " "node" "full_name"
  ++ [
    .data ", \"commands\": [",
    each "command" (member "node" "commands") [called "command_json" [.name "command"], separator],
    .data "], \"packages\": [",
    each "child" (member "node" "packages") [called "node_json" [.name "child"], separator],
    .data "]\x7d"])

def jsonManifest : List Stmt :=
  [jsonTags, jsonCommand, jsonNode]
  ++ jsonMember "\x7b\"generator\": " "generator" "name"
  ++ jsonMember ", \"generated\": " "generator" "generation_date"
  ++ jsonMember ", \"legalText\": " "generator" "legal_text"
  ++ [
    .data ", \"aliases\": ", json aliases,
    .data ", \"packages\": [",
    each "root" (.name "packages") [called "node_json" [.name "root"], separator],
    .data "]\x7d\n"]

/-! ### The stubs -/

def phpFile (thing ending : String) : Expr :=
  .joined [undotted (member thing "full_name") "/", constant ending]

def phpMain : List Stmt := [
  .define "walk" ["node"] [] [
    generated [phpFile "node" "/_package.php", constant "package", .name "node"],
    .data "\n",
    each "command" (member "node" "commands") [
      generated [phpFile "command" ".php", constant "command", .name "command"],
      .data "\n"],
    each "child" (member "node" "packages") [called "walk" [.name "child"], .data "\n"]],
  each "root" (.name "packages") [called "walk" [.name "root"], .data "\n"],
  generated [constant "ipcstub.php", constant "index"],
  .data "\n"]

def phpIndex : List Stmt := [
  header,
  .data "\nreturn array(\n    'commands' => array(\n",
  each "command" (member "generator" "commands") [
    .data "        '", shown "command" "full_name",
    .data "' => __DIR__ . '/", .output (undotted (member "command" "full_name") "/"),
    .data ".php',\n"],
  .data "    ),\n    'aliases' => array(\n",
  .loop (.tuple [.name "alias", .name "command"]) (.call (.attribute aliases "items") [] [])
    (.constant (.bool true)) [
      .data "        '", .output (.name "alias"),
      .data "' => '", .output (.name "command"),
      .data "',\n"] [],
  .data "    ),\n);\n"]

-- An entry of a package file: a name, and the file beside this one that holds what it stands for.
def phpEntry (thing ending : String) : List Stmt := [
  .data "        '", shown thing "name",
  .data "' => __DIR__ . '/", shown thing "name",
  .data (ending ++ "',\n")]

def phpPackage : List Stmt := [
  header,
  .data "\n// namespace ", shown "args" "full_name",
  .data "\nreturn array(\n    'packages' => array(\n",
  each "child" (member "args" "packages") (phpEntry "child" "/_package.php"),
  .data "    ),\n    'commands' => array(\n",
  each "command" (member "args" "commands") (phpEntry "command" ".php"),
  .data "    ),\n);\n"]

def phpHeader : List Stmt := [
  .data "<?php\n/*\n",
  given (member "generator" "legal_text") [
    each "line" (.call (.attribute (member "generator" "legal_text") "splitlines") [] []) [
      .data " * ", .output (.name "line"), .data "\n"],
    .data " *\n"],
  .data " * Generated by ipcstub (", shown "generator" "name",
  .data ") on ", shown "generator" "generation_date",
  .data ".\n * Do not edit by hand.\n */\n"]

def described (before thing : String) : Stmt :=
  given (member thing "description") [.data before, shown thing "description"]

def phpComment : List Stmt := [
  .output (.either (member "meta" "description") (member "args" "name")),
  .data "\n *\n",
  each "param" (member "meta" "params") [
    .data " * @param ", .output (.either (member "param" "type") (constant "mixed")),
    .data " $", shown "param" "name",
    described " " "param",
    given (member "param" "optional") [
      .data " (optional",
      given (member "param" "default") [.data ", defaults to ", shown "param" "default"],
      .data ")"],
    .data "\n"],
  each "throw" (member "meta" "throws") [
    .data " * @throws ", shown "throw" "name", described " " "throw", .data "\n"],
  .data " * @return array",
  each "ret" (member "meta" "returns") [
    .output (.choice (member "loop" "first") (constant " ") (constant ", ")),
    .data "'", shown "ret" "name", .data "'",
    described ": " "ret"],
  .data "\n",
  given (member "meta" "deprecated") [.data " * @deprecated\n"]]

def phpCommand : List Stmt :=
  [
    .assign (.name "meta") (member "args" "meta"),
    header,
    .data "\nnamespace ", .output (undotted (member "args" "namespace") "\\"),
    .data ";\n\n/**\n * "]
  ++ phpComment
  ++ [
    .data " */\nclass ", shown "args" "name",
    .data "\n\x7b\n    const COMMAND = '", shown "args" "full_name",
    .data "';\n\n    public static function call($connection",
    each "param" (member "meta" "params") [
      .data ", $", shown "param" "name",
      given (member "param" "optional") [.data " = null"]],
    .data ")\n    \x7b\n        return $connection->call(self::COMMAND, array(\n",
    each "param" (member "meta" "params") [
      .data "            '", shown "param" "name",
      .data "' => $", shown "param" "name",
      .data ",\n"],
    .data "        ));\n    \x7d\n\x7d\n"]

def templates : List (String × List Stmt) := [
  ("json/main.j2", jsonMain),
  ("json/manifest.j2", jsonManifest),
  ("php/command.j2", phpCommand),
  ("php/header.j2", phpHeader),
  ("php/index.j2", phpIndex),
  ("php/main.j2", phpMain),
  ("php/package.j2", phpPackage)]

def find? (path : String) : Option (List Stmt) :=
  (templates.find? fun entry => entry.1 == path).map (·.2)

end StubForge.Template.Bundled
