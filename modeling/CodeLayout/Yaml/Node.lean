import CodeLayout.Yaml.Scanner
import CodeLayout.Yaml.Tag

/-!
# Nodes

A document is a tree of nodes: scalars, sequences and mappings, each with a tag.
This module reads the tokens of a text as one node. An alias stands for the node
that was marked by the anchor of this name before. Inside of this node itself an
alias stays: it says that the node is met again.

A sequence or a mapping also has its place, the number of tokens that follow its
beginning. No two of them have the same place.

Each call of a reading function either takes a token or goes to a function
further down, so three times the number of tokens bounds the depth of calls.
-/

set_option autoImplicit false

namespace CodeLayout

namespace Yaml

/-- A part of a document. -/
inductive Node where
  /-- A scalar with its text. -/
  | scalar (tag : Tag) (text : String)
  /-- A sequence with its place and its items. -/
  | sequence (tag : Tag) (place : Nat) (items : List Node)
  /-- A mapping with its place and its entries. -/
  | mapping (tag : Tag) (place : Nat) (entries : List (Node × Node))
  /-- The node with this anchor, inside of itself. -/
  | again (anchor : String)
deriving Inhabited

/-- The nodes of a document: the one that contains all others, and those with
anchors. -/
structure Graph where
  /-- The node that contains all others. -/
  root : Node
  /-- The nodes with anchors. -/
  anchors : List (String × Option Node)

/-- The tokens still to be read, with what is known so far. -/
structure Reader where
  /-- The tokens from here on. -/
  tokens : List Token
  /-- The failure at the end of the tokens. -/
  ending : Option Failure
  /-- The replacements of tag handles. -/
  handles : List (String × String)
  /-- The nodes with anchors. A node that is still being read has no tree yet. -/
  anchors : List (String × Option Node)

namespace Reader

/-- The handles that need no directive. -/
def standardHandles : List (String × String) := [("!", "!"), ("!!", Tag.corePrefix)]

/-- The next token, or nothing at the end of the text. -/
def peek (reader : Reader) : Except Failure (Option Token) :=
  match reader.tokens, reader.ending with
  | token :: _, _ => .ok (some token)
  | [], none => .ok none
  | [], some failure => .error failure

/-- The tokens after the next one. -/
def advance (reader : Reader) : Reader := { reader with tokens := reader.tokens.drop 1 }

/-- Whether the next token is one of some tokens. -/
def atOneOf (reader : Reader) (tokens : List Token) : Except Failure Bool :=
  reader.peek.map fun next => next.any tokens.contains

/-- Takes a certain token. -/
def expect (reader : Reader) (token : Token) : Except Failure Reader := do
  if (← reader.peek) == some token then .ok reader.advance else .error .malformed

/-- Marks a node that begins here by its anchor. -/
def openAnchor (reader : Reader) : Option String → Except Failure Reader
  | none => .ok reader
  | some name =>
    if reader.anchors.any fun anchor => anchor.1 == name then
      .error .malformed
    else
      .ok { reader with anchors := (name, none) :: reader.anchors }

/-- Gives the anchor of a node its tree. -/
def closeAnchor (reader : Reader) (node : Node) : Option String → Reader
  | none => reader
  | some name =>
    { reader with
      anchors := reader.anchors.map fun anchor =>
        if anchor.1 == name then (name, some node) else anchor }

/-- The node an alias stands for. -/
def resolveAlias (reader : Reader) (name : String) : Except Failure Node :=
  match reader.anchors.lookup name with
  | none => .error .malformed
  | some none => .ok (.again name)
  | some (some node) => .ok node

end Reader

/-- What stands before the content of a node. -/
structure Properties where
  /-- The name of the node. -/
  anchor : Option String
  /-- The tag in full. -/
  tag : Option String
deriving DecidableEq

namespace Properties

/-- The tag that leaves the choice to the form of the node. -/
def openTag : String := "!"

/-- The properties without anything. -/
def none : Properties where
  anchor := Option.none
  tag := Option.none

/-- The tag of a scalar with this text. -/
def scalarTag (properties : Properties) (text : String) (plain : Bool) : Tag :=
  match properties.tag with
  | Option.none => if plain then Tag.ofPlain text else .text
  | some full => if full == openTag then Tag.ofPlain text else Tag.ofFull full

/-- The tag of a collection. -/
def collectionTag (properties : Properties) (standard : Tag) : Tag :=
  match properties.tag with
  | Option.none => standard
  | some full => if full == openTag then standard else Tag.ofFull full

end Properties

namespace Reader

/-- The node for missing content. -/
def emptyNode : Node := .scalar (Tag.ofPlain "") ""

/-- A tag in full. -/
def resolveTag (reader : Reader) (handle : Option String) (suffix : String) :
    Except Failure String :=
  match handle with
  | none => .ok suffix
  | some handle =>
    match reader.handles.lookup handle with
    | some replacement => .ok (replacement ++ suffix)
    | none => .error .malformed

/-- Takes an anchor, if one is next. -/
def takeAnchor (reader : Reader) : Except Failure (Option String × Reader) := do
  match ← reader.peek with
  | some (.anchor name) => .ok (some name, reader.advance)
  | _ => .ok (none, reader)

/-- Takes a tag, if one is next. -/
def takeTag (reader : Reader) : Except Failure (Option (Option String × String) × Reader) := do
  match ← reader.peek with
  | some (.tag handle suffix) => .ok (some (handle, suffix), reader.advance)
  | _ => .ok (none, reader)

/-- Takes an anchor and a tag, in either order. -/
def takeProperties (reader : Reader) : Except Failure (Properties × Reader) := do
  let (first, reader) ← reader.takeAnchor
  let (tag, reader) ← reader.takeTag
  let (anchor, reader) ←
    match first, tag with
    | none, some _ => reader.takeAnchor
    | _, _ => .ok (first, reader)
  match tag with
  | none => .ok ({ anchor, tag := none }, reader)
  | some (handle, suffix) => do
    let full ← reader.resolveTag handle suffix
    .ok ({ anchor, tag := some full }, reader)

mutual

/-- Reads a node. Block collections are allowed or not, and so is a block
sequence that is not indented. -/
def node (limit : Nat) (block indentless : Bool) (reader : Reader) :
    Except Failure (Node × Reader) :=
  match limit with
  | 0 => .error .malformed
  | limit + 1 => do
    match ← reader.peek with
    | some (.alias name) => do
      let node ← reader.resolveAlias name
      .ok (node, reader.advance)
    | _ => do
      let (properties, reader) ← reader.takeProperties
      let reader ← reader.openAnchor properties.anchor
      let (node, reader) ← content limit block indentless properties reader
      .ok (node, reader.closeAnchor node properties.anchor)

/-- Reads the content of a node. -/
def content (limit : Nat) (block indentless : Bool) (properties : Properties) (reader : Reader) :
    Except Failure (Node × Reader) :=
  match limit with
  | 0 => .error .malformed
  | limit + 1 => do
    let place := reader.tokens.length
    match ← reader.peek with
    | some .blockEntry =>
      if indentless then do
        let (items, reader) ← indentlessItems limit reader
        .ok (.sequence (properties.collectionTag .sequence) place items, reader)
      else
        emptyContent properties reader
    | some (.scalar text plain) =>
      .ok (.scalar (properties.scalarTag text plain) text, reader.advance)
    | some .flowSequenceStart => do
      let (items, reader) ← flowItems limit true reader.advance
      .ok (.sequence (properties.collectionTag .sequence) place items, reader)
    | some .flowMappingStart => do
      let (entries, reader) ← flowEntries limit true reader.advance
      .ok (.mapping (properties.collectionTag .mapping) place entries, reader)
    | some .blockSequenceStart =>
      if block then do
        let (items, reader) ← blockItems limit reader.advance
        .ok (.sequence (properties.collectionTag .sequence) place items, reader)
      else
        emptyContent properties reader
    | some .blockMappingStart =>
      if block then do
        let (entries, reader) ← blockEntries limit reader.advance
        .ok (.mapping (properties.collectionTag .mapping) place entries, reader)
      else
        emptyContent properties reader
    | _ => emptyContent properties reader

/-- The node without content that an anchor or a tag can have. -/
def emptyContent (properties : Properties) (reader : Reader) : Except Failure (Node × Reader) :=
  if properties == Properties.none then
    .error .malformed
  else
    .ok (.scalar (properties.scalarTag "" true) "", reader)

/-- Reads a node, or an empty one if one of some tokens is next. -/
def nodeOrEmpty (limit : Nat) (block indentless : Bool) (stops : List Token) (reader : Reader) :
    Except Failure (Node × Reader) :=
  match limit with
  | 0 => .error .malformed
  | limit + 1 => do
    if ← reader.atOneOf stops then .ok (emptyNode, reader)
    else node limit block indentless reader

/-- Reads the items of a block sequence and its end. -/
def blockItems (limit : Nat) (reader : Reader) : Except Failure (List Node × Reader) :=
  match limit with
  | 0 => .error .malformed
  | limit + 1 => do
    match ← reader.peek with
    | some .blockEntry => do
      let (item, reader) ←
        nodeOrEmpty limit true false [.blockEntry, .blockEnd] reader.advance
      let (items, reader) ← blockItems limit reader
      .ok (item :: items, reader)
    | _ => do
      let reader ← reader.expect .blockEnd
      .ok ([], reader)

/-- Reads the items of a block sequence that is not indented. -/
def indentlessItems (limit : Nat) (reader : Reader) : Except Failure (List Node × Reader) :=
  match limit with
  | 0 => .error .malformed
  | limit + 1 => do
    match ← reader.peek with
    | some .blockEntry => do
      let (item, reader) ←
        nodeOrEmpty limit true false [.blockEntry, .key, .value, .blockEnd] reader.advance
      let (items, reader) ← indentlessItems limit reader
      .ok (item :: items, reader)
    | _ => .ok ([], reader)

/-- Reads the entries of a block mapping and its end. -/
def blockEntries (limit : Nat) (reader : Reader) :
    Except Failure (List (Node × Node) × Reader) :=
  match limit with
  | 0 => .error .malformed
  | limit + 1 => do
    match ← reader.peek with
    | some .key => do
      let (key, reader) ← nodeOrEmpty limit true true [.key, .value, .blockEnd] reader.advance
      let (value, reader) ←
        match ← reader.peek with
        | some .value => nodeOrEmpty limit true true [.key, .value, .blockEnd] reader.advance
        | _ => .ok (emptyNode, reader)
      let (entries, reader) ← blockEntries limit reader
      .ok ((key, value) :: entries, reader)
    | _ => do
      let reader ← reader.expect .blockEnd
      .ok ([], reader)

/-- Reads the items of a flow sequence and its end. A key makes a mapping of one
entry. -/
def flowItems (limit : Nat) (first : Bool) (reader : Reader) :
    Except Failure (List Node × Reader) :=
  match limit with
  | 0 => .error .malformed
  | limit + 1 => do
    if (← reader.peek) == some .flowSequenceEnd then
      .ok ([], reader.advance)
    else do
      let reader ← if first then .ok reader else reader.expect .flowEntry
      match ← reader.peek with
      | some .flowSequenceEnd => .ok ([], reader.advance)
      | some .key => do
        let place := reader.tokens.length
        let (key, reader) ←
          nodeOrEmpty limit false false [.value, .flowEntry, .flowSequenceEnd] reader.advance
        let (value, reader) ←
          match ← reader.peek with
          | some .value =>
            nodeOrEmpty limit false false [.flowEntry, .flowSequenceEnd] reader.advance
          | _ => .ok (emptyNode, reader)
        let (items, reader) ← flowItems limit false reader
        .ok (.mapping .mapping place [(key, value)] :: items, reader)
      | _ => do
        let (item, reader) ← node limit false false reader
        let (items, reader) ← flowItems limit false reader
        .ok (item :: items, reader)

/-- Reads the entries of a flow mapping and its end. -/
def flowEntries (limit : Nat) (first : Bool) (reader : Reader) :
    Except Failure (List (Node × Node) × Reader) :=
  match limit with
  | 0 => .error .malformed
  | limit + 1 => do
    if (← reader.peek) == some .flowMappingEnd then
      .ok ([], reader.advance)
    else do
      let reader ← if first then .ok reader else reader.expect .flowEntry
      match ← reader.peek with
      | some .flowMappingEnd => .ok ([], reader.advance)
      | some .key => do
        let (key, reader) ←
          nodeOrEmpty limit false false [.value, .flowEntry, .flowMappingEnd] reader.advance
        let (value, reader) ←
          match ← reader.peek with
          | some .value =>
            nodeOrEmpty limit false false [.flowEntry, .flowMappingEnd] reader.advance
          | _ => .ok (emptyNode, reader)
        let (entries, reader) ← flowEntries limit false reader
        .ok ((key, value) :: entries, reader)
      | _ => do
        let (key, reader) ← node limit false false reader
        let (entries, reader) ← flowEntries limit false reader
        .ok ((key, emptyNode) :: entries, reader)

end

/-! ## Documents -/

/-- Takes the directives before a document. The version is given at most once and
has to be one of the first, and no handle is given twice. -/
def directives : Nat → Bool → Reader → Except Failure Reader
  | 0, _, _ => .error .malformed
  | limit + 1, versioned, reader => do
    match ← reader.peek with
    | some (.directive (.version major _)) =>
      if versioned || major != 1 then .error .malformed
      else directives limit true reader.advance
    | some (.directive (.tagHandle handle replacement)) =>
      if reader.handles.any fun entry => entry.1 == handle then
        .error .malformed
      else
        let reader := reader.advance
        directives limit versioned
          { reader with handles := (handle, replacement) :: reader.handles }
    | some (.directive .other) => directives limit versioned reader.advance
    | _ => .ok { reader with handles := reader.handles ++ standardHandles }

/-- Takes the marks at the end of a document. -/
def documentEnds : List Token → List Token
  | .documentEnd :: rest => documentEnds rest
  | rest => rest

/-- Goes over the marks at the end of a document. -/
def skipDocumentEnds (reader : Reader) : Reader :=
  { reader with tokens := documentEnds reader.tokens }

/-- Takes the end of the text. -/
def expectEnd (reader : Reader) : Except Failure Unit := do
  match ← reader.peek with
  | none => .ok ()
  | some _ => .error .malformed

/-- Reads the only document of a text. A text without a document has no node. -/
def document (reader : Reader) : Except Failure (Option Graph) :=
  let limit := 3 * reader.tokens.length + 8
  do
    match ← reader.peek with
    | none => .ok none
    | some first => do
      let (root, reader) ←
        match first with
        | .directive _ | .documentStart => do
          let reader ← directives limit false reader
          let reader ← reader.expect .documentStart
          match ← reader.peek with
          | none | some (.directive _) | some .documentStart | some .documentEnd =>
            .ok (emptyNode, reader)
          | some _ => node limit true false reader
        | _ => node limit true false { reader with handles := standardHandles }
      reader.skipDocumentEnds.expectEnd
      .ok (some { root, anchors := reader.anchors })

end Reader

/-- Reads a text as its only document. -/
def Graph.ofText? (text : String) : Except Failure (Option Graph) :=
  let read := tokens text
  Reader.document { tokens := read.1, ending := read.2, handles := [], anchors := [] }

end Yaml

end CodeLayout
