import Checkout.Settings.File
import Checkout.Yaml.Reader

/-!
# Files of YAML

A loader for settings files, which reads documents of plain, flow and block style that have no
anchors, tags or directives.
-/

namespace Checkout.Yaml

/-- The document that a file of YAML holds. -/
def load : Settings.Loader := fun content =>
  let (characters, isCut) := FileTree.readable content
  (read characters isCut).mapError .ofUnreadable

/-- A file holds the value of the node that the tokens of its text stand for. -/
theorem load_of_tokens {content : ByteArray} {characters : List Char} {isCut : Bool}
    {found : List Token} {node : Node} {value : Value}
    (readable : FileTree.readable content = (characters, isCut))
    (isFound : tokens characters isCut = found) (isNode : Node.ofTokens found = .ok (some node))
    (isValue : node.document = .ok value) : load content = .ok value := by
  rw [load, readable]
  dsimp only
  rw [read, isFound, isNode]
  change node.document.mapError _ = .ok value
  rw [isValue]
  rfl

end Checkout.Yaml
