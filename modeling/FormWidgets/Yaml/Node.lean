import FormWidgets.Yaml.TokenStream

/-!
# Nodes

The tree of nodes that tokens describe.  A node with an anchor can be referred
to elsewhere: the anchors are numbered, and an alias holds the number that its
name has where it stands.
-/

namespace FormWidgets.Yaml

/-- A node of a text. -/
inductive Node where
  | alias (anchor : Nat)
  | scalar (anchor : Option Nat) (content : WrittenScalar)
  | sequence (anchor : Option Nat) (tag : Option Tag) (items : List Node)
  | mapping (anchor : Option Nat) (tag : Option Tag) (entries : List (Node × Node))

namespace Node

/-- The node where nothing is written. -/
def empty : Node :=
  .scalar none ⟨"", .plain, none⟩

mutual

/-- The nodes with anchors, each before those inside it, with the numbers of the anchors. -/
def anchored : Node → List (Nat × Node)
  | .alias _ => []
  | .scalar anchor content => anchor.toList.map fun number => (number, .scalar anchor content)
  | .sequence anchor tag items =>
      (anchor.toList.map fun number => (number, .sequence anchor tag items))
        ++ anchoredItems items
  | .mapping anchor tag entries =>
      (anchor.toList.map fun number => (number, .mapping anchor tag entries))
        ++ anchoredEntries entries

/-- The nodes with anchors among items. -/
def anchoredItems : List Node → List (Nat × Node)
  | [] => []
  | item :: rest => anchored item ++ anchoredItems rest

/-- The nodes with anchors among entries. -/
def anchoredEntries : List (Node × Node) → List (Nat × Node)
  | [] => []
  | (key, value) :: rest => anchored key ++ anchored value ++ anchoredEntries rest

end

mutual

/-- The number of scalars and aliases and of the starts and ends of the others. -/
def eventCount : Node → Nat
  | .alias _ | .scalar .. => 1
  | .sequence _ _ items => 2 + eventCountItems items
  | .mapping _ _ entries => 2 + eventCountEntries entries

/-- The number of events of items. -/
def eventCountItems : List Node → Nat
  | [] => 0
  | item :: rest => eventCount item + eventCountItems rest

/-- The number of events of entries. -/
def eventCountEntries : List (Node × Node) → Nat
  | [] => 0
  | (key, value) :: rest => eventCount key + eventCount value + eventCountEntries rest

end

end Node

/-- The handles of tags with the bytes that they stand for. -/
abbrev TagHandles := List (String × List UInt8)

/-- Where the reading of nodes stands. -/
structure NodeState where
  tokens : List Token
  handles : TagHandles
  /-- The anchor names so far with their numbers, the latest number of a name first. -/
  anchors : List (String × Nat) := []

namespace NodeState

/-- The next token. -/
def next? (state : NodeState) : Option Token :=
  state.tokens.head?

/-- Whether the next token is one of some. -/
def nextIsIn (state : NodeState) (tokens : List Token) : Bool :=
  state.next?.any tokens.contains

/-- The state after the next token. -/
def drop (state : NodeState) : NodeState :=
  { state with tokens := state.tokens.drop 1 }

/-- Give a name the next number, which is the number of distinct names before it. -/
def withAnchor (state : NodeState) (name : String) : Nat × NodeState :=
  let number := (state.anchors.map Prod.fst).eraseDups.length
  (number, { state with anchors := (name, number) :: state.anchors })

/-- The number of a name. -/
def anchor? (state : NodeState) (name : String) : Option Nat :=
  (state.anchors.find? fun entry => entry.1 = name).map Prod.snd

/-- What a tag with a handle stands for. -/
def resolveTag? (state : NodeState) (handle : String) (suffix : List UInt8) : Option Tag :=
  if handle.isEmpty then some (.ofBytes suffix)
  else
    (state.handles.find? fun entry => entry.1 = handle).map fun entry =>
      .ofBytes (entry.2 ++ suffix)

end NodeState

/-- What stands in front of a node. -/
structure NodeMarks where
  anchor : Option Nat := none
  tag : Option Tag := none

/-- The tag in front of a node, if there is one. -/
def takeTag? (state : NodeState) : Option (Option Tag × NodeState) :=
  match state.tokens with
  | .tag handle suffix :: _ =>
      (state.resolveTag? handle suffix).map fun tag => (some tag, state.drop)
  | _ => some (none, state)

/-- The anchor in front of a node, if there is one. -/
def takeAnchor (state : NodeState) : Option Nat × NodeState :=
  match state.tokens with
  | .anchor name :: _ =>
      let (number, state) := state.drop.withAnchor name
      (some number, state)
  | _ => (none, state)

/-- The anchor and the tag in front of a node, in either order. -/
def takeMarks? (state : NodeState) : Option (NodeMarks × NodeState) := do
  let (anchor, state) := takeAnchor state
  let (tag, state) ← takeTag? state
  match anchor, tag with
  | none, some tag =>
      let (anchor, state) := takeAnchor state
      some (⟨anchor, some tag⟩, state)
  | anchor, tag => some (⟨anchor, tag⟩, state)

/-- A node of which only marks are written; without any there is none. -/
def readUnwritten? (marks : NodeMarks) (state : NodeState) : Option (Node × NodeState) :=
  if marks.anchor.isNone && marks.tag.isNone then none
  else some (.scalar marks.anchor ⟨"", .plain, marks.tag⟩, state)

/-- The state after the comma in front of an item, which the first item has not. -/
def afterComma? (first : Bool) (state : NodeState) : Option NodeState :=
  if first then some state
  else if state.nextIsIn [.flowEntry] then some state.drop
  else none

mutual

/-- Read a node; each step takes a token or ends a part. -/
def readNode? (inBlock indentless : Bool) : Nat → NodeState → Option (Node × NodeState)
  | 0, _ => none
  | steps + 1, state =>
      match state.tokens with
      | .alias name :: _ =>
          (state.anchor? name).map fun number => (.alias number, state.drop)
      | _ => do
          let (marks, state) ← takeMarks? state
          match state.tokens with
          | .blockEntry :: _ =>
              if indentless then
                let (items, state) ← readIndentlessItems? steps state
                some (.sequence marks.anchor marks.tag items, state)
              else readUnwritten? marks state
          | .scalar text style :: _ =>
              some (.scalar marks.anchor ⟨text, style, marks.tag⟩, state.drop)
          | .flowSequenceStart :: _ =>
              let (items, state) ← readFlowItems? true steps state.drop
              some (.sequence marks.anchor marks.tag items, state)
          | .flowMappingStart :: _ =>
              let (entries, state) ← readFlowEntries? true steps state.drop
              some (.mapping marks.anchor marks.tag entries, state)
          | .blockSequenceStart :: _ =>
              if inBlock then
                let (items, state) ← readBlockItems? steps state.drop
                some (.sequence marks.anchor marks.tag items, state)
              else readUnwritten? marks state
          | .blockMappingStart :: _ =>
              if inBlock then
                let (entries, state) ← readBlockEntries? steps state.drop
                some (.mapping marks.anchor marks.tag entries, state)
              else readUnwritten? marks state
          | _ => readUnwritten? marks state

/-- Read a node unless one of some tokens follows, which leaves the place empty. -/
def readUnless? (followers : List Token) (inBlock indentless : Bool) :
    Nat → NodeState → Option (Node × NodeState)
  | 0, _ => none
  | steps + 1, state =>
      if state.nextIsIn followers then some (.empty, state)
      else readNode? inBlock indentless steps state

/-- Read the items of a block up to its end. -/
def readBlockItems? : Nat → NodeState → Option (List Node × NodeState)
  | 0, _ => none
  | steps + 1, state =>
      match state.tokens with
      | .blockEntry :: _ => do
          let (item, state) ←
            readUnless? [.blockEntry, .blockEnd] true false steps state.drop
          let (items, state) ← readBlockItems? steps state
          some (item :: items, state)
      | .blockEnd :: _ => some ([], state.drop)
      | _ => none

/-- Read items that are not indented against the key they belong to. -/
def readIndentlessItems? : Nat → NodeState → Option (List Node × NodeState)
  | 0, _ => none
  | steps + 1, state =>
      match state.tokens with
      | .blockEntry :: _ => do
          let (item, state) ←
            readUnless? [.blockEntry, .key, .value, .blockEnd] true false steps state.drop
          let (items, state) ← readIndentlessItems? steps state
          some (item :: items, state)
      | _ => some ([], state)

/-- Read the entries of a block up to its end. -/
def readBlockEntries? : Nat → NodeState → Option (List (Node × Node) × NodeState)
  | 0, _ => none
  | steps + 1, state =>
      match state.tokens with
      | .key :: _ => do
          let (key, state) ←
            readUnless? [.key, .value, .blockEnd] true true steps state.drop
          let (value, state) ← readBlockValue? steps state
          let (entries, state) ← readBlockEntries? steps state
          some ((key, value) :: entries, state)
      | .blockEnd :: _ => some ([], state.drop)
      | _ => none

/-- Read the value of an entry of a block, which may be left out. -/
def readBlockValue? : Nat → NodeState → Option (Node × NodeState)
  | 0, _ => none
  | steps + 1, state =>
      match state.tokens with
      | .value :: _ => readUnless? [.key, .value, .blockEnd] true true steps state.drop
      | _ => some (.empty, state)

/-- Read the items between brackets up to the closing one. -/
def readFlowItems? (first : Bool) : Nat → NodeState → Option (List Node × NodeState)
  | 0, _ => none
  | steps + 1, state =>
      match state.tokens with
      | .flowSequenceEnd :: _ => some ([], state.drop)
      | _ => do
          let state ← afterComma? first state
          match state.tokens with
          | .flowSequenceEnd :: _ => some ([], state.drop)
          | .key :: _ =>
              let (item, state) ← readSinglePair? steps state.drop
              let (items, state) ← readFlowItems? false steps state
              some (item :: items, state)
          | _ =>
              let (item, state) ← readNode? false false steps state
              let (items, state) ← readFlowItems? false steps state
              some (item :: items, state)

/-- Read an item that is a mapping of one entry; a token that cannot start its key is dropped. -/
def readSinglePair? : Nat → NodeState → Option (Node × NodeState)
  | 0, _ => none
  | steps + 1, state => do
      let (key, state) ←
        if state.nextIsIn [.value, .flowEntry, .flowSequenceEnd] then
          some (Node.empty, state.drop)
        else readNode? false false steps state
      let (value, state) ←
        match state.tokens with
        | .value :: _ =>
            readUnless? [.flowEntry, .flowSequenceEnd] false false steps state.drop
        | _ => some (.empty, state)
      some (.mapping none none [(key, value)], state)

/-- Read the entries between braces up to the closing one. -/
def readFlowEntries? (first : Bool) :
    Nat → NodeState → Option (List (Node × Node) × NodeState)
  | 0, _ => none
  | steps + 1, state =>
      match state.tokens with
      | .flowMappingEnd :: _ => some ([], state.drop)
      | _ => do
          let state ← afterComma? first state
          match state.tokens with
          | .flowMappingEnd :: _ => some ([], state.drop)
          | .key :: _ =>
              let (key, state) ←
                readUnless? [.value, .flowEntry, .flowMappingEnd] false false steps state.drop
              let (value, state) ←
                match state.tokens with
                | .value :: _ =>
                    readUnless? [.flowEntry, .flowMappingEnd] false false steps state.drop
                | _ => some (.empty, state)
              let (entries, state) ← readFlowEntries? false steps state
              some ((key, value) :: entries, state)
          | _ =>
              let (key, state) ← readNode? false false steps state
              let (entries, state) ← readFlowEntries? false steps state
              some ((key, .empty) :: entries, state)

end

/-- The handles that every document knows. -/
def knownHandles : TagHandles :=
  [("!", "!".toUTF8.toList), ("!!", "tag:yaml.org,2002:".toUTF8.toList)]

/-- Take the directives in front of a document; each may be given once, and the version must be known. -/
def takeDirectives? (hasVersion : Bool) (handles : TagHandles) :
    List Token → Option (TagHandles × List Token)
  | .versionDirective major minor :: rest =>
      if hasVersion || major ≠ 1 || (minor ≠ 1 && minor ≠ 2) then none
      else takeDirectives? true handles rest
  | .tagDirective handle start :: rest =>
      if handles.any fun entry => entry.1 = handle then none
      else takeDirectives? hasVersion ((handle, start) :: handles) rest
  | tokens => some (handles, tokens)

/-- Take the start of a document: directives and a mark, or neither. -/
def takeDocumentStart? (tokens : List Token) :
    Option (TagHandles × List Token × Bool) := do
  let (handles, rest) ← takeDirectives? false [] tokens
  let isMarked := rest.head? = some .documentStart
  if rest.length < tokens.length && !isMarked then none
  else some (handles ++ knownHandles, if isMarked then rest.drop 1 else rest, isMarked)

/-- Whether nothing but marks of the end of a document is left. -/
def isEnd (tokens : List Token) : Bool :=
  tokens.all fun token => token = .documentEnd

/-- Read the node of a document from its tokens. -/
def readDocument? (tokens : List Token) : Option (Node × List Token) := do
  let (handles, rest, isMarked) ← takeDocumentStart? tokens
  let state : NodeState := { tokens := rest, handles := handles }
  let steps := 4 * rest.length + 4
  let (node, state) ←
    if isMarked then
      match rest with
      | [] | .versionDirective .. :: _ | .tagDirective .. :: _ | .documentStart :: _
      | .documentEnd :: _ => some (Node.empty, state)
      | _ => readNode? true false steps state
    else readNode? true false steps state
  some (node, state.tokens)

/-- The node of a text that holds one document or none. -/
def node? (text : String) : Option Node := do
  let tokens ← tokens? text
  if tokens.isEmpty then some .empty
  else
    let (node, rest) ← readDocument? tokens
    if isEnd rest then some node else none

end FormWidgets.Yaml
