import CoffeeTree.Text.Encoding
import CoffeeTree.Tree.Load

/-!
# Where trees come from

A parse tree can be at hand already, as a JSON value, as the text of one, or as bytes. Bytes are
decoded first; their encoding is told from their first bytes, and bytes that do not decode are no
tree input at all.
-/

namespace CoffeeTree.Tree

/-- A parse tree, or what one can be loaded from. -/
inductive Input where
  | loaded (root : Block Tree)
  | value (json : Json)
  | text (text : List Char)
  /-- A text that was decoded from bytes, without its byte order mark. -/
  | document (text : List Char)

namespace Input

def ofBytes? (bytes : List UInt8) : Option Input :=
  (Text.decodeDocument bytes).map document

/-- A JSON string is the text of a tree. -/
def ofJson : Json → Input
  | .str s => text s.toList
  | json => value json

/-- The tree itself. -/
def load : Input → Traced Unsupported LoadError (Block Tree)
  | loaded root => pure root
  | value json => (Tree.load json).mapError .format
  | text chars => loadText chars
  | document chars => loadParsed (Json.parseDecoded chars)

end Input

end CoffeeTree.Tree
