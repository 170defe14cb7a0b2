import IdentityClaims.Yaml.Collection
import IdentityClaims.Yaml.Document

/-!
# Loading YAML

The data of the one document in a YAML text. An empty text gives null. Since a document can contain
itself, its data are read down to a depth.
-/

namespace IdentityClaims.Yaml

/-- Reads the document in a text as data down to a depth. -/
def load (depth : Nat) (text : String) : YamlResult Data :=
  match document text with
  | .error e => .error e
  | .ok none => .ok .null
  | .ok (some (root, nodes)) => nodes.data depth root

end IdentityClaims.Yaml
