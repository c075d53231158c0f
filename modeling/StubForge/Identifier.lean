import StubForge.Text.Char

set_option autoImplicit false

/-!
Identifiers: texts that can name a class. They hold no dot, so a class adds one segment to the name of
its module.
-/

namespace StubForge

structure Identifier where
  text : String
  valid : Text.isIdentifier text = true
  deriving DecidableEq, Repr

namespace Identifier

def of? (text : String) : Option Identifier :=
  if valid : Text.isIdentifier text = true then some { text, valid } else none

instance : Inhabited Identifier := ⟨{ text := "_", valid := rfl }⟩

-- Lets a text stand where an identifier is meant; one that is none becomes an underscore.
instance : Coe String Identifier := ⟨fun text => (of? text).getD default⟩

theorem text_of_some (text : String) (name : Identifier) (found : of? text = some name) :
    name.text = text := by
  rw [of?] at found
  split at found
  · rw [← Option.some.inj found]
  · simp at found

theorem plain (name : Identifier) : '.' ∉ name.text.toList := by
  have valid := name.valid
  rw [Text.isIdentifier] at valid
  cases chars : name.text.toList with
  | nil => exact List.not_mem_nil
  | cons first rest =>
      rw [chars, Text.isIdentifierChars, Bool.and_eq_true] at valid
      intro dotted
      rcases List.mem_cons.mp dotted with same | later
      · rw [← same] at valid
        exact absurd valid.1 (by decide)
      · exact absurd (List.all_eq_true.mp valid.2 '.' later) (by decide)

end Identifier

end StubForge
