import StubForge.Calendar

set_option autoImplicit false

/-!
Settings that come from the environment of a run.
-/

namespace StubForge.Environment

def truthyWords : List String := ["true", "yes", "1"]

-- A switch is on if its text is one of the truthy words; without a text the default counts.
def switch (value : Option String) (fallback : Bool) : Bool :=
  match value with
  | none => fallback
  | some text => truthyWords.any fun word => Text.matchesWord word text

end StubForge.Environment
