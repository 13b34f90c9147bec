import MessageTemplate.Yaml.Tokenize

/-! # YAML nodes

A document is a tree of scalars, sequences and mappings, where an alias stands for a node that an
anchor names. Aliases refer to anchors by number. The number of an anchor is the number of different
names before it, so an anchor that names a name again can give its number to the next one; and all
aliases with a number, wherever they are, stand for the last node with that number. -/

namespace MessageTemplate.Yaml

/-- A node of a document. -/
inductive Node where
  | scalar (text : String) (style : ScalarStyle) (tag : Option Tag)
  | sequence (tag : Option Tag) (items : List Node)
  | mapping (tag : Option Tag) (entries : List (Node × Node))
  /-- An alias of the anchor with a number. -/
  | alias (number : Nat)
deriving Inhabited

namespace Node

/-- The node of a missing value. -/
def missing : Node := scalar "" .plain none

mutual

/-- The extent of a node as it is written: a scalar or an alias counts once, a collection once for
its start and once for its end. -/
def extent : Node → Nat
  | scalar .. => 1
  | sequence _ items => itemsExtent items + 2
  | mapping _ entries => entriesExtent entries + 2
  | .alias _ => 1

/-- The extent of the items of a sequence. -/
def itemsExtent : List Node → Nat
  | [] => 0
  | item :: rest => item.extent + itemsExtent rest

/-- The extent of the entries of a mapping. -/
def entriesExtent : List (Node × Node) → Nat
  | [] => 0
  | (key, value) :: rest => key.extent + value.extent + entriesExtent rest

end

end Node

/-- A document. -/
structure Document where
  root : Node
  /-- The nodes with a number, where the first of several counts. -/
  numbered : List (Nat × Node)

/-- A named node, which is there once it is read to its end. -/
structure Anchor where
  name : String
  number : Nat
  /-- How many anchors there are before it. -/
  place : Nat
  node : Option Node := none

/-- A reader of nodes between two tokens. -/
structure Composer where
  tokens : List Token
  /-- The anchors of the document, the latest first. -/
  anchors : List Anchor := []
  /-- How many different names the anchors have. -/
  nameCount : Nat := 0
  /-- The tags that tag handles stand for the start of. -/
  handles : List (String × Tag) := [("!", .ofText "!"), ("!!", .ofText "tag:yaml.org,2002:")]

namespace Composer

/-- The next token. -/
def next (state : Composer) : Token :=
  state.tokens.headD .streamEnd

/-- Moves over a token. -/
def skip (state : Composer) : Composer :=
  { state with tokens := state.tokens.tail }

/-- Names the node to come. -/
def openAnchor (state : Composer) (name : String) : Composer :=
  let known := state.anchors.any fun anchor => anchor.name == name
  { state with
    anchors := ⟨name, state.nameCount, state.anchors.length, none⟩ :: state.anchors
    nameCount := if known then state.nameCount else state.nameCount + 1 }

/-- Completes the anchor in a place. -/
def closeAnchor (state : Composer) (place : Nat) (node : Node) : Composer :=
  { state with
    anchors := state.anchors.map fun anchor =>
      if anchor.place = place then { anchor with node := some node } else anchor }

/-- The document with a root. -/
def document (state : Composer) (root : Node) : Document :=
  ⟨root, state.anchors.filterMap fun anchor => anchor.node.map fun node => (anchor.number, node)⟩

/-- The properties in front of a node: an anchor and a tag, in either order. -/
def readProperties (state : Composer) :
    Option String × Option (String × Tag) × Composer :=
  match state.tokens with
  | .anchor name :: .tag handle suffix :: rest =>
      (some name, some (handle, suffix), { state with tokens := rest })
  | .tag handle suffix :: .anchor name :: rest =>
      (some name, some (handle, suffix), { state with tokens := rest })
  | .anchor name :: rest => (some name, none, { state with tokens := rest })
  | .tag handle suffix :: rest => (none, some (handle, suffix), { state with tokens := rest })
  | _ => (none, none, state)

/-- The tag that a handle and a suffix make up. -/
def resolveTag? (state : Composer) (tag : Option (String × Tag)) : Option (Option Tag) :=
  match tag with
  | none => some none
  | some ("", suffix) => some (some suffix)
  | some (handle, suffix) => (state.handles.lookup handle).map fun start => some (start.append suffix)

mutual

/-- Reads a node. In a block, block collections may start; where `indentless`, a sequence may start
without more indentation. -/
def readNode? : (fuel : Nat) → (block indentless : Bool) → Composer → Option (Node × Composer)
  | 0, _, _, _ => none
  | fuel + 1, block, indentless, state =>
      match state.next with
      | .alias name => do
          let anchor ← state.anchors.find? (·.name == name)
          return (.alias anchor.number, state.skip)
      | _ => do
          let (anchor, tag, state) := state.readProperties
          let tag ← state.resolveTag? tag
          let place := state.anchors.length
          let state := anchor.elim state state.openAnchor
          let (node, state) ←
            match state.next with
            | .blockEntry =>
                if indentless then do
                  let (items, state) ← readIndentlessItems? fuel [] state
                  some (Node.sequence tag items, state)
                else if anchor.isSome || tag.isSome then
                  some (.scalar "" .plain tag, state)
                else none
            | .scalar text style => some (.scalar text style tag, state.skip)
            | .flowSequenceStart => do
                let (items, state) ← readFlowItems? fuel true [] state.skip
                some (.sequence tag items, state)
            | .flowMappingStart => do
                let (entries, state) ← readFlowEntries? fuel true [] state.skip
                some (.mapping tag entries, state)
            | .blockSequenceStart =>
                if block then do
                  let (items, state) ← readBlockItems? fuel [] state.skip
                  some (.sequence tag items, state)
                else if anchor.isSome || tag.isSome then
                  some (.scalar "" .plain tag, state)
                else none
            | .blockMappingStart =>
                if block then do
                  let (entries, state) ← readBlockEntries? fuel [] state.skip
                  some (.mapping tag entries, state)
                else if anchor.isSome || tag.isSome then
                  some (.scalar "" .plain tag, state)
                else none
            | _ =>
                if anchor.isSome || tag.isSome then
                  some (.scalar "" .plain tag, state)
                else none
          return (node, if anchor.isSome then state.closeAnchor place node else state)

/-- Reads the items of a block sequence after the items `read`, which are in reverse. -/
def readBlockItems? : (fuel : Nat) → (read : List Node) → Composer →
    Option (List Node × Composer)
  | 0, _, _ => none
  | fuel + 1, read, state =>
      match state.next with
      | .blockEntry =>
          let state := state.skip
          match state.next with
          | .blockEntry | .blockEnd => readBlockItems? fuel (.missing :: read) state
          | _ => do
              let (item, state) ← readNode? fuel true false state
              readBlockItems? fuel (item :: read) state
      | .blockEnd => some (read.reverse, state.skip)
      | _ => none

/-- Reads the items of a sequence without more indentation after the items `read`, which are in
reverse. -/
def readIndentlessItems? : (fuel : Nat) → (read : List Node) → Composer →
    Option (List Node × Composer)
  | 0, _, _ => none
  | fuel + 1, read, state =>
      match state.next with
      | .blockEntry =>
          let state := state.skip
          match state.next with
          | .blockEntry | .key | .value | .blockEnd =>
              readIndentlessItems? fuel (.missing :: read) state
          | _ => do
              let (item, state) ← readNode? fuel true false state
              readIndentlessItems? fuel (item :: read) state
      | _ => some (read.reverse, state)

/-- Reads the entries of a block mapping after the entries `read`, which are in reverse. -/
def readBlockEntries? : (fuel : Nat) → (read : List (Node × Node)) → Composer →
    Option (List (Node × Node) × Composer)
  | 0, _, _ => none
  | fuel + 1, read, state =>
      match state.next with
      | .key => do
          let state := state.skip
          let (key, state) ←
            match state.next with
            | .key | .value | .blockEnd => some (Node.missing, state)
            | _ => readNode? fuel true true state
          let (value, state) ←
            match state.next with
            | .value =>
                let state := state.skip
                match state.next with
                | .key | .value | .blockEnd => some (Node.missing, state)
                | _ => readNode? fuel true true state
            | _ => some (Node.missing, state)
          readBlockEntries? fuel ((key, value) :: read) state
      | .blockEnd => some (read.reverse, state.skip)
      | _ => none

/-- Reads the items of a flow sequence after the items `read`, which are in reverse. -/
def readFlowItems? : (fuel : Nat) → (first : Bool) → (read : List Node) → Composer →
    Option (List Node × Composer)
  | 0, _, _, _ => none
  | fuel + 1, first, read, state =>
      match state.next, first with
      | .flowSequenceEnd, _ => some (read.reverse, state.skip)
      | .flowEntry, false => readFlowItem? fuel read state.skip
      | _, true => readFlowItem? fuel read state
      | _, false => none

/-- Reads one item of a flow sequence, which may be a single entry of a mapping, and the items
after it. -/
def readFlowItem? : (fuel : Nat) → (read : List Node) → Composer → Option (List Node × Composer)
  | 0, _, _ => none
  | fuel + 1, read, state =>
      match state.next with
      | .flowSequenceEnd => some (read.reverse, state.skip)
      | .key => do
          let state := state.skip
          let (key, state) ←
            match state.next with
            | .value | .flowEntry | .flowSequenceEnd => some (Node.missing, state.skip)
            | _ => readNode? fuel false false state
          let (value, state) ←
            match state.next with
            | .value =>
                let state := state.skip
                match state.next with
                | .flowEntry | .flowSequenceEnd => some (Node.missing, state)
                | _ => readNode? fuel false false state
            | _ => some (Node.missing, state)
          readFlowItems? fuel false (.mapping none [(key, value)] :: read) state
      | _ => do
          let (item, state) ← readNode? fuel false false state
          readFlowItems? fuel false (item :: read) state

/-- Reads the entries of a flow mapping after the entries `read`, which are in reverse. -/
def readFlowEntries? : (fuel : Nat) → (first : Bool) → (read : List (Node × Node)) →
    Composer → Option (List (Node × Node) × Composer)
  | 0, _, _, _ => none
  | fuel + 1, first, read, state =>
      match state.next, first with
      | .flowMappingEnd, _ => some (read.reverse, state.skip)
      | .flowEntry, false => readFlowEntry? fuel read state.skip
      | _, true => readFlowEntry? fuel read state
      | _, false => none

/-- Reads one entry of a flow mapping and the entries after it. -/
def readFlowEntry? : (fuel : Nat) → (read : List (Node × Node)) → Composer →
    Option (List (Node × Node) × Composer)
  | 0, _, _ => none
  | fuel + 1, read, state =>
      match state.next with
      | .flowMappingEnd => some (read.reverse, state.skip)
      | .key => do
          let state := state.skip
          let (key, state) ←
            match state.next with
            | .value | .flowEntry | .flowMappingEnd => some (Node.missing, state)
            | _ => readNode? fuel false false state
          let (value, state) ←
            match state.next with
            | .value =>
                let state := state.skip
                match state.next with
                | .flowEntry | .flowMappingEnd => some (Node.missing, state)
                | _ => readNode? fuel false false state
            | _ => some (Node.missing, state)
          readFlowEntries? fuel false ((key, value) :: read) state
      | _ => do
          let (key, state) ← readNode? fuel false false state
          readFlowEntries? fuel false ((key, .missing) :: read) state

end

/-- Reads the directives in front of a document. -/
def readDirectives? : (tokens : List Token) → (versions : Nat) → Composer → Option Composer
  | .versionDirective major minor :: rest, versions, state =>
      if versions = 0 && major == 1 && (minor == 1 || minor == 2) then
        readDirectives? rest 1 { state with tokens := rest }
      else none
  | .tagDirective handle start :: rest, versions, state =>
      if (state.handles.drop 2).any (·.1 == handle) then none
      else
        readDirectives? rest versions
          { state with tokens := rest, handles := state.handles ++ [(handle, start)] }
  | _, _, state => some state

/-- The handles of a document, where its own directives come before the usual ones. -/
def directivesFirst (state : Composer) : Composer :=
  { state with handles := state.handles.drop 2 ++ state.handles.take 2 }

/-- Reads the content of a document behind `---`. -/
def readContent? (fuel : Nat) (state : Composer) : Option (Node × Composer) :=
  match state.next with
  | .versionDirective .. | .tagDirective .. | .documentStart | .documentEnd | .streamEnd =>
      some (.missing, state)
  | _ => readNode? fuel true false state

/-- Reads the only document of a stream, if there is one. -/
def readStream? (fuel : Nat) (state : Composer) : Option (Option Document) :=
  match state.next with
  | .streamEnd => some none
  | first => do
      let (node, state) ←
        match first with
        | .versionDirective .. | .tagDirective .. | .documentStart => do
            let state ← readDirectives? state.tokens 0 state
            if state.next != .documentStart then none
            readContent? fuel state.directivesFirst.skip
        | _ => readNode? fuel true false state
      let rest := state.tokens.dropWhile (· == .documentEnd)
      if rest.headD .streamEnd == .streamEnd then return some (state.document node) else none

end Composer

/-- Reads a stream with at most one document. -/
def read? (text : String) : Option (Option Document) := do
  let tokens ← tokenize? text
  Composer.readStream? (4 * tokens.length + 4) { tokens }

end MessageTemplate.Yaml
