import StubForge.Text.Quoted

set_option autoImplicit false

/-!
Command lines with options. An option may be written with any start of its long name that no other
option shares, and its argument may be attached to it. Everything behind a double dash is a word.
-/

namespace StubForge.CommandLine

inductive Arity where
  | argument
  | flag
  | help
  deriving DecidableEq, Repr

structure OptionForm where
  -- All names of the option, which is known by the last of them.
  spellings : List String
  arity : Arity
  required : Bool := false
  deriving Repr

def OptionForm.key (form : OptionForm) : String := (form.spellings.getLast?).getD ""

def OptionForm.title (form : OptionForm) : String := Text.join "/" form.spellings

inductive UsageFault where
  | ambiguous (argument : String) (candidates : List String)
  | argumentMissing (option : String)
  | argumentIgnored (option text : String)
  | required (names : List String)
  | invalidChoice (name value : String) (choices : List String)
  | unrecognized (arguments : List String)
  deriving DecidableEq, Repr

def UsageFault.message : UsageFault → String
  | ambiguous argument candidates =>
      "ambiguous option: " ++ argument ++ " could match " ++ Text.join ", " candidates
  | argumentMissing option => "argument " ++ option ++ ": expected one argument"
  | argumentIgnored option text =>
      "argument " ++ option ++ ": ignored explicit argument " ++ Text.quoted text
  | required names => "the following arguments are required: " ++ Text.join ", " names
  | invalidChoice name value choices =>
      "argument " ++ name ++ ": invalid choice: " ++ Text.quoted value ++ " (choose from "
        ++ Text.join ", " (choices.map Text.quoted) ++ ")"
  | unrecognized arguments => "unrecognized arguments: " ++ Text.join " " arguments

inductive Stop where
  | help
  | misuse (fault : UsageFault)
  deriving Repr

inductive Item where
  | word (text : String)
  | separator
  | option (form : OptionForm) (spelling : String) (attached : Option String)
  | unknown (text : String)

/-! ### Recognising options -/

def spelled (forms : List OptionForm) : List (String × OptionForm) :=
  forms.flatMap fun form => form.spellings.map fun spelling => (spelling, form)

def find? (forms : List OptionForm) (spelling : String) : Option OptionForm :=
  ((spelled forms).find? fun entry => entry.1 == spelling).map (·.2)

def isLong (chars : List Char) : Bool := chars.take 2 = ['-', '-']

def splitEquals (chars : List Char) : List Char × Option (List Char) :=
  let name := chars.takeWhile (· ≠ '=')
  (name, if name.length = chars.length then none else some (chars.drop (name.length + 1)))

-- The options that an argument may stand for without being spelled out.
def candidates (forms : List OptionForm) (chars : List Char) : List Item :=
  let (name, attached) := if isLong chars then splitEquals chars else (chars, none)
  (spelled forms).filterMap fun (spelling, form) =>
    if !isLong chars && spelling.toList = chars.take 2 then
      some (.option form spelling (some (String.ofList (chars.drop 2))))
    else if name.isPrefixOf spelling.toList then
      some (.option form spelling (attached.map String.ofList))
    else none

def itemSpelling : Item → String
  | .option _ spelling _ => spelling
  | _ => ""

def isNegativeNumber (chars : List Char) : Bool :=
  match chars with
  | '-' :: digits =>
      let whole := digits.takeWhile fun c => (Text.digitValue? c).isSome
      match digits.drop whole.length with
      | [] => !whole.isEmpty
      | '.' :: fraction => !fraction.isEmpty && fraction.all fun c => (Text.digitValue? c).isSome
      | _ => false
  | _ => false

def exactly? (forms : List OptionForm) (argument : String) : Option Item :=
  match find? forms argument with
  | some form => some (.option form argument none)
  | none =>
      match splitEquals argument.toList with
      | (name, some attached) =>
          (find? forms (String.ofList name)).map fun form =>
            .option form (String.ofList name) (some (String.ofList attached))
      | _ => none

def classify (forms : List OptionForm) (argument : String) : Except UsageFault Item :=
  let chars := argument.toList
  if chars.head? ≠ some '-' || chars.length = 1 then .ok (.word argument)
  else
    match exactly? forms argument with
    | some item => .ok item
    | none =>
        match candidates forms chars with
        | [item] => .ok item
        | [] =>
            if isNegativeNumber chars || chars.contains ' ' then .ok (.word argument)
            else .ok (.unknown argument)
        | items => .error (.ambiguous argument (items.map itemSpelling))

def classifyAll (forms : List OptionForm) : List String → Except UsageFault (List (String × Item))
  | [] => .ok []
  | argument :: rest =>
      if argument = "--" then
        .ok ((argument, .separator) :: rest.map fun word => (word, .word word))
      else do
        let item ← classify forms argument
        .ok ((argument, item) :: (← classifyAll forms rest))

/-! ### Reading -/

structure Parsed where
  options : List (String × String) := []
  -- The words from the first one on, where a command may be given.
  command : List String := []
  extras : List String := []

namespace Parsed

def all (parsed : Parsed) (key : String) : List String :=
  (parsed.options.filter fun entry => entry.1 == key).map (·.2)

def last? (parsed : Parsed) (key : String) : Option String := (parsed.all key).getLast?

def has (parsed : Parsed) (key : String) : Bool := parsed.options.any fun entry => entry.1 == key

end Parsed

abbrev Taken := List (String × String) × List (String × Item)

-- Takes an option whose argument, if it needs one, is the next word.
def takeApart (form : OptionForm) (rest : List (String × Item)) : Except Stop Taken :=
  match form.arity with
  | .help => .error .help
  | .flag => .ok ([(form.key, "")], rest)
  | .argument =>
      match rest with
      | (_, .word text) :: rest => .ok ([(form.key, text)], rest)
      | _ => .error (.misuse (.argumentMissing form.title))

-- Takes an option with text attached to it. Behind a short flag that text is more short options.
def takeAttached (forms : List OptionForm) (rest : List (String × Item)) :
    List Char → OptionForm → String → Except Stop Taken
  | text, form, spelling =>
      if form.arity = .argument then .ok ([(form.key, String.ofList text)], rest)
      else
        let ignored := Except.error (.misuse (.argumentIgnored form.title (String.ofList text)))
        match text with
        | [] => ignored
        | c :: more =>
            let short := String.ofList ['-', c]
            match if isLong spelling.toList then none else find? forms short with
            | none => ignored
            | some next => do
                let (taken, rest) ←
                  if more.isEmpty then takeApart next rest else takeAttached forms rest more next short
                if form.arity = .help then .error .help
                else .ok ((form.key, "") :: taken, rest)

-- Reads items. A command takes all arguments from the first word on.
def readItems (forms : List OptionForm) (takesCommand : Bool) :
    Nat → List (String × Item) → Parsed → Except Stop Parsed
  | 0, _, parsed => .ok parsed
  | _, [], parsed => .ok parsed
  | fuel + 1, (text, item) :: rest, parsed =>
      match item with
      | .option form spelling attached => do
          let (options, rest) ← match attached with
            | some attached => takeAttached forms rest attached.toList form spelling
            | none => takeApart form rest
          readItems forms takesCommand fuel rest { parsed with options := parsed.options ++ options }
      | .unknown _ =>
          readItems forms takesCommand fuel rest { parsed with extras := parsed.extras ++ [text] }
      | .word _ =>
          if takesCommand then .ok { parsed with command := text :: rest.map (·.1) }
          else readItems forms takesCommand fuel rest { parsed with extras := parsed.extras ++ [text] }
      | .separator =>
          if takesCommand && !rest.isEmpty then .ok { parsed with command := text :: rest.map (·.1) }
          else readItems forms takesCommand fuel rest { parsed with extras := parsed.extras ++ [text] }

-- Reads arguments; an option or a command that is required must be there.
def read (forms : List OptionForm) (command : Option String) (arguments : List String) :
    Except Stop Parsed := do
  let items ← (classifyAll forms arguments).mapError .misuse
  let parsed ← readItems forms command.isSome items.length items {}
  let missing := (forms.filter fun form => form.required && !parsed.has form.key).map (·.title)
  let missing := if parsed.command.isEmpty then missing ++ command.toList else missing
  if missing.isEmpty then .ok parsed else .error (.misuse (.required missing))

end StubForge.CommandLine
