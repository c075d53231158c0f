import StubForge.Configuration
import StubForge.Reading

set_option autoImplicit false

/-!
Configurations as they stand in a document. The legal text goes by two names, of which the first one
counts.
-/

namespace StubForge.Configuration

open Reading

def fieldNames : List (List String) :=
  [["name"], ["scheme"], ["packages"], ["aliases"], ["target"], ["legalText", "legal_text"],
    ["encoding"]]

def ofRecord (record : Fields) : Reading Configuration :=
  let name := record.field ["name"] "" text
  let scheme := record.field ["scheme"] "" text
  let packages := record.field ["packages"] [] (listOf text "tuple_type")
  let aliases := record.field ["aliases"] none (optional dictionary)
  let target := record.field ["target"] none (optional path)
  let legalText := record.field ["legalText", "legal_text"] none (optional text)
  let encoding := record.field ["encoding"] none (optional text)
  record.complete fieldNames
    (apply (apply (apply (apply (apply (apply (name.map Configuration.mk) scheme) packages) aliases)
      target) legalText) encoding)

end StubForge.Configuration
