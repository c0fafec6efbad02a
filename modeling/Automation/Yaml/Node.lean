import Automation.Yaml.Token

/-!
# Nodes of YAML

The tokens of a text make up one document: a scalar, or a collection of nodes. A name for a node
may be used after it, and stands for the same node again. Mappings that are merged into another one
are merged here.
-/

namespace Automation.Yaml

/-- A node. -/
inductive Node where
  | scalar (tag : Tag) (text : String)
  | sequence (tag : Tag) (items : List Node)
  /-- A mapping with its entries as they are written, and with those that it has when others are merged
  in. There are none of these if something is merged in that is no mapping. -/
  | mapping (tag : Tag) (entries : List (Node × Node)) (merged : Option (List (Node × Node)))

namespace Node

/-- The node where nothing is written. -/
def empty : Node := .scalar .null ""

/-- The tag of a node. -/
def tag : Node → Tag
  | .scalar tag _ => tag
  | .sequence tag _ => tag
  | .mapping tag _ _ => tag

mutual

/-- The text of a scalar. That of a mapping is under the mark of a default in it. -/
def text? : Node → Option String
  | .scalar _ text => some text
  | .sequence _ _ => none
  | .mapping _ entries _ => defaultText? entries

/-- The text under the first mark of a default. -/
def defaultText? : List (Node × Node) → Option String
  | [] => none
  | (key, value) :: entries => if key.tag = .default then value.text? else defaultText? entries

end

/-! ## Merging -/

/-- The entries of a mapping into which others are merged. -/
def entries? : Node → Option (List (Node × Node))
  | .mapping _ _ merged => merged
  | _ => none

/-- The entries that a merged value brings: those of a mapping, or of a list of mappings, the last
one first. -/
def mergedEntries? : Node → Option (List (Node × Node))
  | .sequence _ items => (items.mapM entries?).map fun lists => lists.reverse.flatten
  | node => node.entries?

/-- A key that marks a default is a text. -/
def plainKey : Node → Node
  | .scalar .default text => .scalar .text text
  | .mapping .default entries merged => .mapping .text entries merged
  | node => node

/-- A mapping, with what is merged in put in front. -/
def ofEntries (tag : Tag) (entries : List (Node × Node)) : Node :=
  let (merges, own) := entries.partition fun (key, _) => key.tag = .merge
  let merged := merges.mapM fun (_, value) => mergedEntries? value
  .mapping tag entries (merged.map fun merged =>
    merged.flatten ++ own.map fun (key, value) => (plainKey key, value))

/-! ## The state of a reading -/

/-- Where a reading of nodes stands. -/
structure State where
  tokens : List Token
  /-- The named nodes; a node that is still being read is not there yet. -/
  anchors : Entries (Option Node) := []
  /-- What the handles of tags stand for. -/
  handles : Entries String

/-- A reading of nodes. -/
abbrev Reading (α : Type) := StateT State (Except Fault) α

namespace Reading

/-- Give up. -/
def fail {α : Type} : Reading α := throw .malformed

/-- The next token. A scan that is broken off there shows only now. -/
def peek? : Reading (Option Token) := do
  match (← get).tokens.head? with
  | some (.broken fault) => throw fault
  | token => return token

/-- Go behind the next token. -/
def skip : Reading Unit := modify fun s => { s with tokens := s.tokens.tail }

/-- Go behind a given token if it comes next, and say whether it did. -/
def take (token : Token) : Reading Bool := do
  if (← peek?) = some token then
    skip
    return true
  else return false

/-- Whether the next token is one of some. -/
def isAt (tokens : List Token) : Reading Bool := do
  return match ← peek? with
    | some token => tokens.contains token
    | none => tokens.isEmpty

/-- Go behind a token that must come next. -/
def require (token : Token) : Reading Unit := do
  if !(← take token) then fail

/-- An anchor, if one comes next. -/
def anchor? : Reading (Option String) := do
  match ← peek? with
  | some (.anchor name) => do
    skip
    return some name
  | _ => return none

/-- A tag, if one comes next: its handle, if it has one, and its name. -/
def tag? : Reading (Option (Option String × String)) := do
  match ← peek? with
  | some (.tag handle name) => do
    skip
    return some (handle, name)
  | _ => return none

/-- A tag with its handle resolved. -/
def resolved : Option (Option String × String) → Reading (Option String)
  | none => return none
  | some (none, name) => return some name
  | some (some handle, name) => do
    match (← get).handles.get? handle with
    | some names => return some (names ++ name)
    | none => fail

/-- An anchor and a tag, in either order. -/
def properties : Reading (Option String × Option String) := do
  match ← anchor? with
  | some name => return (some name, ← resolved (← tag?))
  | none =>
    match ← tag? with
    | none => return (none, none)
    | tag =>
      let name ← anchor?
      return (name, ← resolved tag)

/-- Start a node with a name, which must be new. -/
def openAnchor (name : Option String) : Reading Unit := do
  if let some name := name then
    if (← get).anchors.has name then fail
    modify fun s => { s with anchors := s.anchors.set name none }

/-- End a node with a name. -/
def closeAnchor (name : Option String) (node : Node) : Reading Node := do
  if let some name := name then
    modify fun s => { s with anchors := s.anchors.set name (some node) }
  return node

/-- The node of a name. -/
def aliased (name : String) : Reading Node := do
  match (← get).anchors.get? name with
  | some (some node) => return node
  | _ => fail

end Reading

open Reading

/-- The tag of a node that has none, or that asks for the usual one. -/
def tagOr (written : Option String) (usual : Tag) : Tag :=
  match written with
  | none | some "!" => usual
  | some uri => Tag.ofUri uri

/-- The tag of a scalar. Without a tag a plain one is what it looks like, and others are text. -/
def scalarTag (written : Option String) (plain : Bool) (text : String) : Tag :=
  match written with
  | none => if plain then Tag.ofPlain text else .text
  | some "!" =>
    -- A line break at the end is not seen, but it is no scalar without a text.
    if text = "\n" then .text else Tag.ofPlain (String.ofList (Text.dropLineBreak text.toList))
  | some uri => Tag.ofUri uri

/-! ## Collections -/

mutual

/-- A node. Blocks are only looked for outside of flow; a sequence without an indentation of its own
only where a mapping has a value. -/
def read : Nat → Bool → Bool → Reading Node
  | 0, _, _ => fail
  | fuel + 1, block, unindented => do
    if let some (.alias name) ← peek? then
      skip
      return ← aliased name
    let (name, tag) ← properties
    let next ← peek?
    openAnchor name
    let node ← match next with
      | some .blockEntry =>
        if unindented then
          let items ← readUnindented fuel
          pure (Node.sequence (tagOr tag .sequence) items)
        else emptyAt name tag
      | some (.scalar plain text) => do
        skip
        pure (Node.scalar (scalarTag tag plain text) text)
      | some .flowSequenceStart => do
        skip
        pure (Node.sequence (tagOr tag .sequence) (← readFlowItems fuel true))
      | some .flowMappingStart => do
        skip
        pure (ofEntries (tagOr tag .mapping) (← readFlowEntries fuel true))
      | some .blockSequenceStart =>
        if block then do
          skip
          pure (Node.sequence (tagOr tag .sequence) (← readBlockItems fuel))
        else emptyAt name tag
      | some .blockMappingStart =>
        if block then do
          skip
          pure (ofEntries (tagOr tag .mapping) (← readBlockEntries fuel))
        else emptyAt name tag
      | _ => emptyAt name tag
    closeAnchor name node

/-- The node where only a name or a tag is written. -/
def emptyAt (name tag : Option String) : Reading Node :=
  if name.isNone && tag.isNone then fail
  else return .scalar (scalarTag tag true "") ""

/-- A node, unless one of some tokens comes next. -/
def readUnless : Nat → List Token → Bool → Bool → Reading Node
  | 0, _, _, _ => fail
  | fuel + 1, ends, block, unindented => do
    if ← isAt ends then return .empty else read fuel block unindented

/-- The items of a block up to its end. -/
def readBlockItems : Nat → Reading (List Node)
  | 0 => fail
  | fuel + 1 => do
    if ← take .blockEntry then
      let item ← readUnless fuel [.blockEntry, .blockEnd] true false
      return item :: (← readBlockItems fuel)
    else
      require .blockEnd
      return []

/-- The items of a sequence without an indentation of its own. -/
def readUnindented : Nat → Reading (List Node)
  | 0 => fail
  | fuel + 1 => do
    if ← take .blockEntry then
      let item ← readUnless fuel [.blockEntry, .key, .value, .blockEnd] true false
      return item :: (← readUnindented fuel)
    else return []

/-- The entries of a block up to its end. -/
def readBlockEntries : Nat → Reading (List (Node × Node))
  | 0 => fail
  | fuel + 1 => do
    if ← take .key then
      let key ← readUnless fuel [.key, .value, .blockEnd] true true
      let value ←
        if ← take .value then readUnless fuel [.key, .value, .blockEnd] true true
        else pure .empty
      return (key, value) :: (← readBlockEntries fuel)
    else
      require .blockEnd
      return []

/-- The items of a flow sequence up to its end. A pair is a mapping of its own. -/
def readFlowItems : Nat → Bool → Reading (List Node)
  | 0, _ => fail
  | fuel + 1, first => do
    if ← take .flowSequenceEnd then return []
    if !first then
      require .flowEntry
    if ← take .key then
      let key ← readUnless fuel [.value, .flowEntry, .flowSequenceEnd] false false
      let value ←
        if ← take .value then readUnless fuel [.flowEntry, .flowSequenceEnd] false false
        else pure .empty
      return ofEntries .mapping [(key, value)] :: (← readFlowItems fuel false)
    else if ← take .flowSequenceEnd then return []
    else
      let item ← read fuel false false
      return item :: (← readFlowItems fuel false)

/-- The entries of a flow mapping up to its end. -/
def readFlowEntries : Nat → Bool → Reading (List (Node × Node))
  | 0, _ => fail
  | fuel + 1, first => do
    if ← take .flowMappingEnd then return []
    if !first then
      require .flowEntry
    if ← take .key then
      let key ← readUnless fuel [.value, .flowEntry, .flowMappingEnd] false false
      let value ←
        if ← take .value then readUnless fuel [.flowEntry, .flowMappingEnd] false false
        else pure .empty
      return (key, value) :: (← readFlowEntries fuel false)
    else if ← take .flowMappingEnd then return []
    else
      let key ← read fuel false false
      return (key, .empty) :: (← readFlowEntries fuel false)

end

/-! ## Documents -/

/-- What handles stand for unless a directive says otherwise. -/
def usualHandles : Entries String := [("!", "!"), ("!!", Tag.root)]

/-- The directives in front of a document. -/
def readDirectives : List Token → Bool → Entries String →
    Except Fault (Entries String × List Token)
  | .directive "YAML" arguments :: rest, versioned, handles =>
    match arguments with
    | [major, _] =>
      if versioned || Text.natOfDigits? major.toList != some 1 then .error .malformed
      else readDirectives rest true handles
    | _ => .error .malformed
  | .directive "TAG" arguments :: rest, versioned, handles =>
    match arguments with
    | [handle, names] =>
      if handles.has handle then .error .malformed
      else readDirectives rest versioned (handles ++ [(handle, names)])
    | _ => .error .malformed
  | .directive _ _ :: rest, versioned, handles => readDirectives rest versioned handles
  | tokens, _, handles =>
    .ok (handles ++ usualHandles.filter (fun (handle, _) => !handles.has handle), tokens)

/-- The one node of some tokens, behind which only ends of documents may follow. -/
def readRoot (tokens : List Token) (handles : Entries String) (node : Reading Node) :
    Except Fault Node := do
  let (root, s) ← node.run { tokens, handles }
  match s.tokens.dropWhile (· = .documentEnd) with
  | [] => return root
  | .broken fault :: _ => .error fault
  | _ => .error .malformed

/-- The document of some tokens, if there is one. -/
def ofTokens (tokens : List Token) : Except Fault (Option Node) :=
  let fuel := 8 * tokens.length + 8
  match tokens with
  | [] => .ok none
  | .directive .. :: _ | .documentStart :: _ => do
    match ← readDirectives tokens false [] with
    | (handles, .documentStart :: rest) =>
      let node : Reading Node :=
        match rest with
        | [] | .documentEnd :: _ => pure .empty
        | .directive .. :: _ | .documentStart :: _ => fail
        | _ => read fuel true false
      some <$> readRoot rest handles node
    | (_, .broken fault :: _) => .error fault
    | _ => .error .malformed
  | _ => some <$> readRoot tokens usualHandles (read fuel true false)

end Node

end Automation.Yaml
