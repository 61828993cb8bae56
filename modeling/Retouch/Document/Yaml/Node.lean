import Retouch.Document.Yaml.Token

/-! The nodes of a YAML document.
Only the first document of a text is read. A token is read only when two more can be seen behind
it, so what cannot be read right behind the document spoils it too. -/
namespace Retouch.Document.Yaml

/-- Nodes. An empty tag is one that is not given. -/
inductive Node where
  | scalar (tag : Bytes) (plain : Bool) (value : Bytes)
  | sequence (items : List Node)
  | mapping (entries : List (Node × Node))
  /-- Another name of a node. -/
  | alias (name : Bytes) (target : Node)
  /-- A node inside itself. -/
  | cycle (name : Bytes)
  deriving Repr, Inhabited

namespace Node

def empty : Node := .scalar [] true []

structure Reading where
  tokens : List Token
  /-- What tags stand for, by handle. -/
  handles : List (Bytes × Bytes)
  /-- The nodes with anchors, the last one first. -/
  anchors : List (Bytes × Node)
  /-- What is wrong behind the tokens. -/
  problem : Option Error

abbrev Reader := StateT Reading (Except Error)

def peek : Reader Token := do
  let s ← get
  match s.tokens with
  | .unsettled :: _ => throw (s.problem.getD .unreadable)
  | t :: _ :: _ :: _ => return t
  | _ => throw (s.problem.getD .unreadable)

def skip : Reader Unit := modify fun s => { s with tokens := s.tokens.drop 1 }

def accept (t : Token) : Reader Bool := do
  if (← peek) == t then
    skip
    return true
  else return false

def resolveTag (t : WrittenTag) : Reader Bytes := do
  if t.handle.isEmpty then return t.suffix
  match (← get).handles.find? (·.1 == t.handle) with
  | some (_, lead) => return lead ++ t.suffix
  | none => throw (.undefinedHandle t.handle)

/-- The properties of a node: an anchor and a tag, in either order. -/
def properties : Reader (Option Bytes × Bytes) := do
  match ← peek with
  | .anchor name =>
    skip
    match ← peek with
    | .tag t =>
      skip
      return (some name, ← resolveTag t)
    | _ => return (some name, [])
  | .tag t =>
    skip
    match ← peek with
    | .anchor name =>
      skip
      return (some name, ← resolveTag t)
    | _ => return (none, ← resolveTag t)
  | _ => return (none, [])

/-- Reads a node under an anchor, which can be used inside the node but not followed. -/
def anchored (name : Option Bytes) (body : Reader Node) : Reader Node :=
  match name with
  | none => body
  | some name => do
    let before := (← get).anchors
    modify fun s => { s with anchors := (name, .cycle name) :: before }
    let node ← body
    modify fun s =>
      { s with
        anchors := s.anchors.take (s.anchors.length - before.length - 1) ++ (name, node) :: before }
    return node

def followAlias (name : Bytes) : Reader Node := do
  match (← get).anchors.find? (·.1 == name) with
  | some (_, node) => return .alias name node
  | none => throw (.unknownAnchor name)

/-- Where a node stands: what may start there besides texts and brackets. -/
inductive Position where
  | flow
  /-- In a block. -/
  | block
  /-- In a block mapping, where the dashes of a list need no further indentation. -/
  | member
  deriving DecidableEq, Repr

def nextIn (ts : List Token) : Reader Bool := return ts.contains (← peek)

mutual

/-- A node, at most so many steps. -/
def node : Nat → Position → Reader Node
  | 0, _ => throw (.structural "less nesting")
  | fuel + 1, position => do
    match ← peek with
    | .alias name =>
      skip
      followAlias name
    | _ =>
      let (name, tag) ← properties
      anchored name do
        match ← peek, position with
        | .blockEntry, .member => return .sequence (← plainItems fuel)
        | .scalar plain value, _ =>
          skip
          return .scalar (if tag == [0x21] then [] else tag) plain value
        | .flowSequenceStart, _ =>
          skip
          return .sequence (← flowItems fuel true)
        | .flowMappingStart, _ =>
          skip
          return .mapping (← flowMembers fuel true)
        | .blockSequenceStart, .block | .blockSequenceStart, .member =>
          skip
          return .sequence (← blockItems fuel)
        | .blockMappingStart, .block | .blockMappingStart, .member =>
          skip
          return .mapping (← blockMembers fuel)
        | _, _ =>
          if name.isSome || !tag.isEmpty then
            return .scalar (if tag == [0x21] then [] else tag) true []
          else throw (.structural "content of a node")

/-- A node, or the empty one before any of the given tokens. -/
def nodeUnless : Nat → Position → List Token → Reader Node
  | 0, _, _ => throw (.structural "less nesting")
  | fuel + 1, position, stops => do
    if ← nextIn stops then return .empty else node fuel position

/-- Items of a list whose dashes are not indented. -/
def plainItems : Nat → Reader (List Node)
  | 0 => throw (.structural "less nesting")
  | fuel + 1 => do
    if ← accept .blockEntry then
      let item ← nodeUnless fuel .block [.blockEntry, .key, .value, .blockEnd]
      return item :: (← plainItems fuel)
    else return []

def blockItems : Nat → Reader (List Node)
  | 0 => throw (.structural "less nesting")
  | fuel + 1 => do
    if ← accept .blockEntry then
      let item ← nodeUnless fuel .block [.blockEntry, .blockEnd]
      return item :: (← blockItems fuel)
    else if ← accept .blockEnd then return []
    else throw (.structural "an item")

def blockMembers : Nat → Reader (List (Node × Node))
  | 0 => throw (.structural "less nesting")
  | fuel + 1 => do
    if ← accept .key then
      let key ← nodeUnless fuel .member [.key, .value, .blockEnd]
      let value ←
        if ← accept .value then nodeUnless fuel .member [.key, .value, .blockEnd]
        else pure .empty
      return (key, value) :: (← blockMembers fuel)
    else if ← accept .blockEnd then return []
    else throw (.structural "a key")

/-- Items in brackets; the first one has no comma before it. -/
def flowItems : Nat → Bool → Reader (List Node)
  | 0, _ => throw (.structural "less nesting")
  | fuel + 1, first => do
    if ← accept .flowSequenceEnd then return []
    else
      if !first then
        if !(← accept .flowEntry) then throw (.structural "a comma or a closing bracket")
      if ← accept .flowSequenceEnd then return []
      else if ← accept .key then
        let item ← flowPair fuel
        return item :: (← flowItems fuel false)
      else
        let item ← node fuel .flow
        return item :: (← flowItems fuel false)

/-- A single key with its value as an item in brackets. An empty key takes the token behind it
along. -/
def flowPair : Nat → Reader Node
  | 0 => throw (.structural "less nesting")
  | fuel + 1 => do
    let key ←
      if ← nextIn [.value, .flowEntry, .flowSequenceEnd] then do
        skip
        pure Node.empty
      else node fuel .flow
    let value ←
      if ← accept .value then nodeUnless fuel .flow [.flowEntry, .flowSequenceEnd]
      else pure .empty
    return .mapping [(key, value)]

/-- Keys and values in braces; the first key has no comma before it. -/
def flowMembers : Nat → Bool → Reader (List (Node × Node))
  | 0, _ => throw (.structural "less nesting")
  | fuel + 1, first => do
    if ← accept .flowMappingEnd then return []
    else
      if !first then
        if !(← accept .flowEntry) then throw (.structural "a comma or a closing brace")
      if ← accept .flowMappingEnd then return []
      else if ← accept .key then
        let key ← nodeUnless fuel .flow [.value, .flowEntry, .flowMappingEnd]
        let value ←
          if ← accept .value then nodeUnless fuel .flow [.flowEntry, .flowMappingEnd]
          else pure .empty
        return (key, value) :: (← flowMembers fuel false)
      else
        let key ← node fuel .flow
        return (key, .empty) :: (← flowMembers fuel false)

end

def directives : Nat → Bool → List (Bytes × Bytes) → Reader (List (Bytes × Bytes))
  | 0, _, handles => return handles
  | fuel + 1, versioned, handles => do
    match ← peek with
    | .directive (.version major minor) =>
      if versioned then throw .repeatedDirective
      if major != 1 || minor != 1 then throw .version
      skip
      directives fuel true handles
    | .directive (.tag handle lead) =>
      if handles.any (·.1 == handle) then throw .repeatedDirective
      skip
      directives fuel versioned (handles ++ [(handle, lead)])
    | _ => return handles

def knownHandles : List (Bytes × Bytes) :=
  [("!", "!"), ("!!", "tag:yaml.org,2002:")]

def document : Reader Node := do
  let size := (← get).tokens.length
  let fuel := 4 * size + 4
  let t ← peek
  if t == .streamEnd then throw .noDocument
  let explicit := match t with
    | .directive _ | .documentStart => true
    | _ => false
  let handles ← directives size false []
  modify fun s => { s with handles := handles ++ knownHandles }
  let root ←
    if explicit then
      if !(← accept .documentStart) then throw (.structural "the start of a document")
      match ← peek with
      | .directive _ | .documentStart | .documentEnd | .streamEnd => pure .empty
      | _ => node fuel .block
    else node fuel .block
  let _ ← peek
  return root

def ofSource (source : Source) : Except Error Node :=
  let found := tokens source
  (document.run ⟨found.tokens, [], [], found.problem⟩).map (·.1)

end Node

end Retouch.Document.Yaml
