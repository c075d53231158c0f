import StubForge.CommandLine.Options
import StubForge.Path

set_option autoImplicit false

/-!
The command line of the program: a command, `generate` or `inspect`, with its options, and before
it the level from which on records are shown.
-/

namespace StubForge.CommandLine

inductive Action where
  | generate (output : Option Path) (templateFolders : List Path) (keepGoing : Bool)
  | inspect (name : Option String)
  deriving Repr

structure Invocation where
  logLevel : String
  config : Path
  classpath : List Path
  capability : Option String
  action : Action
  deriving Repr

inductive Refusal where
  | help
  | misuse (program : String) (fault : UsageFault)
  deriving Repr

def programName : String := "ipcstub"

def defaultLogLevel : String := "INFO"

def commandNames : List String := ["generate", "inspect"]

def helpForm : OptionForm := { spellings := ["-h", "--help"], arity := .help }

def mainForms : List OptionForm := [helpForm, { spellings := ["--log-level"], arity := .argument }]

def commonForms : List OptionForm := [
  helpForm,
  { spellings := ["-c", "--config"], arity := .argument, required := true },
  { spellings := ["--classpath"], arity := .argument },
  { spellings := ["--capability"], arity := .argument }]

def generateForms : List OptionForm := commonForms ++ [
  { spellings := ["-o", "--output"], arity := .argument },
  { spellings := ["--template-dir"], arity := .argument },
  { spellings := ["--keep-going"], arity := .flag }]

def inspectForms : List OptionForm := commonForms ++ [{ spellings := ["--name"], arity := .argument }]

def refusal (program : String) : Stop → Refusal
  | .help => .help
  | .misuse fault => .misuse program fault

def actionOf (command : String) (parsed : Parsed) : Action :=
  if command = "generate" then
    .generate ((parsed.last? "--output").map Path.ofString)
      ((parsed.all "--template-dir").map Path.ofString) (parsed.has "--keep-going")
  else .inspect (parsed.last? "--name")

namespace Invocation

def read (arguments : List String) : Except Refusal Invocation := do
  let outer ← (CommandLine.read mainForms (some "command") arguments).mapError (refusal programName)
  match outer.command with
  | [] => .error (.misuse programName (.required ["command"]))
  | command :: rest =>
      if !commandNames.contains command then
        .error (.misuse programName (.invalidChoice "command" command commandNames))
      else
        let forms := if command = "generate" then generateForms else inspectForms
        let parsed ←
          (CommandLine.read forms none rest).mapError (refusal (programName ++ " " ++ command))
        let extras := outer.extras ++ parsed.extras
        if extras.isEmpty then
          .ok {
            logLevel := (outer.last? "--log-level").getD defaultLogLevel
            config := Path.ofString ((parsed.last? "--config").getD "")
            classpath := (parsed.all "--classpath").map Path.ofString
            capability := parsed.last? "--capability"
            action := actionOf command parsed }
        else .error (.misuse programName (.unrecognized extras))

end Invocation

end StubForge.CommandLine
