import FormWidgets.Data.Outline
import FormWidgets.Yaml.Node

/-!
# Reading texts as data

The data that the node of a text stands for, with every alias replaced by the
node it refers to.

Only what is read is unfolded: the aliases in a field that nobody reads are not
followed, so such a field may hold a node that refers to itself.  Unfolding is
bounded: nodes lie at most 128 levels deep, and the aliases followed are at
most a hundred times as many as the parts of the text.  What lies beyond is
unreadable.
-/

namespace FormWidgets.Yaml

/-- The number of levels that are unfolded. -/
def depthLimit : Nat := 128

/-- The node that each anchor refers to, the last one with its number. -/
abbrev Anchors := List (Nat × Node)

namespace Node

/-- The node that a node stands for, counting down the aliases that may still be followed. -/
def target? (anchors : Anchors) : Node → StateM Nat (Option Node)
  | .alias number => do
      match ← get with
      | 0 => pure none
      | left + 1 => do
          set left
          pure ((anchors.reverse.find? fun entry => entry.1 = number).map Prod.snd)
  | node => pure (some node)

/-- A collection under its tag. -/
def labelledBy (tag : Option Tag) (content : Data) : Data :=
  if tag = some .own then .labelled content else content

/-- What unfolds a node as far as it is read. -/
abbrev Unfolding := Outline → Node → StateM Nat Data

/-- Unfold a node, with what unfolds the nodes inside it when these are still within the depth. -/
def unfoldBy (anchors : Anchors) (inner : Option Unfolding) : Unfolding := fun outline node => do
  if outline.isRead then
    match ← node.target? anchors, inner with
    | some (.scalar _ content), _ => pure (.written content)
    | some (.sequence _ tag items), some inner =>
        let items ← items.mapM (inner outline.ofItem)
        pure (labelledBy tag (.list items))
    | some (.mapping _ tag entries), some inner =>
        let entries ← entries.mapM fun (key, value) => do
          let key ← inner outline.ofKey key
          let value ← inner (outline.ofValue key) value
          pure (key, value)
        pure (labelledBy tag (.record entries))
    | _, _ => pure .unreadable
  else pure .unreadable

/-- Unfold a node to a number of levels. -/
def unfold (anchors : Anchors) : Nat → Unfolding
  | 0 => unfoldBy anchors none
  | levels + 1 => unfoldBy anchors (some (unfold anchors levels))

/-- The data that a node stands for, as far as it is read. -/
def toData (outline : Outline) (node : Node) : Data :=
  (unfold node.anchored depthLimit outline node (100 * node.eventCount)).1

end Node

end FormWidgets.Yaml

namespace FormWidgets.Data

/-- The data of a text, as far as it is read; nothing when the text is malformed. -/
def ofYaml? (text : String) (outline : Outline := .everything) : Option Data :=
  (Yaml.node? text).map (Yaml.Node.toData outline)

end FormWidgets.Data
