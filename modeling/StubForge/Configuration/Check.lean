import StubForge.Configuration
import StubForge.Encoding.Codec
import StubForge.Failure

set_option autoImplicit false

/-!
Which configurations can be run. They are checked in their order before anything is looked for or
written, and the first fault counts.
-/

namespace StubForge.Configuration

def nulText : String := "embedded null character"

def encodingError? (config : Configuration) : Option Error :=
  match config.encoding with
  | none => none
  | some "" => none
  | some encoding =>
      if encoding.toList.contains '\x00' then some (.raised "ValueError" nulText)
      else if (Codec.lookup? encoding).isSome then none
      else some (.configuration (.unknownEncoding encoding config.name))

def error? (seen : List String) (config : Configuration) : Option Error :=
  if config.name = "" then some (.configuration .noName)
  else if seen.contains config.name then some (.configuration (.duplicateName config.name))
  else if config.scheme = "" then some (.configuration (.noScheme config.name))
  else if config.packages.isEmpty || config.packages.contains "" then
    some (.configuration (.noPackages config.name))
  else config.encodingError?

def checkFrom (seen : List String) : List Configuration → Except Error Unit
  | [] => .ok ()
  | config :: rest =>
      match config.error? seen with
      | some error => .error error
      | none => checkFrom (seen ++ [config.name]) rest

def check (configs : List Configuration) : Except Error Unit :=
  if configs.isEmpty then .error (.configuration .noGenerators) else checkFrom [] configs

end StubForge.Configuration
