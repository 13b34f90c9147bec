import MessageTemplate.Yaml.Node

/-! # Reading from a document

What a node is read as may depend on other nodes, for an alias is followed to the node it stands for.
Aliases are followed only when a reader comes to them, so an alias in a part that nobody reads may
stand for anything. All in all a document lets only so many of them be followed, in proportion to its
extent; then a short text cannot stand for an endless value. -/

namespace MessageTemplate.Yaml

/-- Reading from a document, which may fail. The state is how many more aliases can be followed. -/
abbrev NodeReader := ReaderT Document (StateT Nat Option)

namespace Document

/-- How many aliases of a document can be followed. -/
def followLimit (document : Document) : Nat :=
  100 * document.root.extent

/-- What the root of a document is read as. -/
def read? {α : Type} (document : Document) (reader : Node → NodeReader α) : Option α :=
  ((reader document.root document).run document.followLimit).map Prod.fst

end Document

/-- The node itself, or the one it stands for. -/
def Node.follow : Node → NodeReader Node
  | .alias number => fun document followable =>
      match followable with
      | 0 => none
      | followable + 1 => (document.numbered.lookup number).map fun node => (node, followable)
  | node => return node

end MessageTemplate.Yaml
