import SqlDesk.Yaml.Lexer
import SqlDesk.Yaml.Node

/-!
# From tokens to the nodes of a document

Tokens that do not fit together are an error of layout; a name that refers to nothing, a name given
twice and a second document are errors of reference.
-/

namespace SqlDesk.Yaml

/-- What is left of a document, and the names given so far. -/
structure Source where
  tokens : List Token
  /-- The error behind the last token. -/
  failure : Option Error := none
  /-- The nodes by name; a node that is still being read has none yet. -/
  anchors : Assoc String (Option Node) := []
  /-- What the handles of tags stand for. -/
  handles : Assoc String String := []

/-- A reader of tokens. -/
abbrev Parse (α : Type) := StateT Source (Except Error) α

namespace Parse

/-- Tokens that do not fit together. -/
def misplaced {α : Type} : Parse α := throw (.document .layout)

def peek : Parse Token := do
  let s ← get
  match s.tokens, s.failure with
  | t :: _, _ => return t
  | [], some e => throw e
  | [], none => misplaced

def advance : Parse Unit := modify fun s => { s with tokens := s.tokens.drop 1 }

/-- Whether the next token is one of some. -/
def nextIn (ts : List Token) : Parse Bool := return ts.contains (← peek)

/-- The tag that a handle and the rest of a tag make. -/
def fullTag (handle : Option String) (suffix : String) : Parse String := do
  match handle with
  | none => return suffix
  | some h =>
    match Assoc.get? (← get).handles h with
    | some start => return start ++ suffix
    | none => misplaced

/-- The name and the tag before a node, in either order. -/
def properties : Parse (Option String × Option String) := do
  match ← peek with
  | .anchor name =>
    advance
    match ← peek with
    | .tag handle suffix =>
      advance
      return (some name, some (← fullTag handle suffix))
    | _ => return (some name, none)
  | .tag handle suffix =>
    advance
    match ← peek with
    | .anchor name =>
      advance
      return (some name, some (← fullTag handle suffix))
    | _ => return (none, some (← fullTag handle suffix))
  | _ => return (none, none)

/-- The node of a name. Inside itself a node is not finished yet, so a node that would hold itself is
refused, although some loaders make recursive values of such nodes. -/
def resolve (name : String) : Parse Node := do
  match Assoc.get? (← get).anchors name with
  | some (some n) => return n
  | some none => throw (.document .construction)
  | none => throw (.document .reference)

/-- Take a name for a node that is about to be read. -/
def claim (anchor : Option String) : Parse Unit := do
  match anchor with
  | none => return
  | some a =>
    if Assoc.has (← get).anchors a then throw (.document .reference)
    modify fun s => { s with anchors := Assoc.put s.anchors a none }

/-- Give a node its name. -/
def settle (anchor : Option String) (n : Node) : Parse Node := do
  match anchor with
  | none => return n
  | some a =>
    modify fun s => { s with anchors := Assoc.put s.anchors a (some n) }
    return n

def collectionTag (tag : Option String) (name : String) : String :=
  match tag with
  | none | some "!" => standard name
  | some t => t

/-- The tag of a scalar. An exclamation mark alone makes it plain. -/
def scalarTag (tag : Option String) (plain : Bool) (text : String) : String :=
  match tag with
  | none => if plain then plainTag text else standard "str"
  | some "!" => plainTag text
  | some t => t

mutual

/-- A node. In the block style there may be block collections, and behind a key also a sequence that
is not indented. -/
def node (block unindented : Bool) : Nat → Parse Node
  | 0 => misplaced
  | fuel + 1 => do
    if let .alias name ← peek then
      advance
      return ← resolve name
    let (anchor, tag) ← properties
    let sequence (items : Parse (List Node)) : Parse Node := do
      claim anchor
      settle anchor (.sequence (collectionTag tag "seq") (← items))
    let mapping (entries : Parse (List (Node × Node))) : Parse Node := do
      claim anchor
      settle anchor (.mapping (collectionTag tag "map") (← entries))
    match ← peek with
    | .scalar text plain =>
      advance
      claim anchor
      settle anchor (.scalar (scalarTag tag plain text) text)
    | .flowSequenceStart => sequence do advance; flowItems true fuel
    | .flowMappingStart => mapping do advance; flowEntries true fuel
    | .blockSequenceStart =>
      if block then sequence do advance; blockItems fuel else noContent anchor tag
    | .blockMappingStart =>
      if block then mapping do advance; blockEntries fuel else noContent anchor tag
    | .blockEntry => if unindented then sequence (bareItems fuel) else noContent anchor tag
    | _ => noContent anchor tag

/-- A node of which there is only a name or a tag. -/
def noContent (anchor tag : Option String) : Parse Node := do
  if anchor.isNone && tag.isNone then misplaced
  claim anchor
  settle anchor (.scalar (scalarTag tag true "") "")

def blockItems : Nat → Parse (List Node)
  | 0 => misplaced
  | fuel + 1 => do
    match ← peek with
    | .blockEntry =>
      advance
      let item ← if ← nextIn [.blockEntry, .blockEnd] then pure Node.empty else node true false fuel
      return item :: (← blockItems fuel)
    | .blockEnd =>
      advance
      return []
    | _ => misplaced

/-- The items of a sequence that is not indented. -/
def bareItems : Nat → Parse (List Node)
  | 0 => misplaced
  | fuel + 1 => do
    match ← peek with
    | .blockEntry =>
      advance
      let item ← if ← nextIn [.blockEntry, .key, .value, .blockEnd] then pure Node.empty
        else node true false fuel
      return item :: (← bareItems fuel)
    | _ => return []

def blockEntries : Nat → Parse (List (Node × Node))
  | 0 => misplaced
  | fuel + 1 => do
    match ← peek with
    | .key =>
      advance
      let key ← blockPart fuel
      let value ← if (← peek) = .value then do
          advance
          blockPart fuel
        else pure Node.empty
      return (key, value) :: (← blockEntries fuel)
    | .blockEnd =>
      advance
      return []
    | _ => misplaced

/-- The key or the value of an entry of a block mapping. -/
def blockPart : Nat → Parse Node
  | 0 => misplaced
  | fuel + 1 => do
    if ← nextIn [.key, .value, .blockEnd] then return Node.empty else node true true fuel

/-- The items of a flow sequence, one of which may be a mapping of one entry. -/
def flowItems (first : Bool) : Nat → Parse (List Node)
  | 0 => misplaced
  | fuel + 1 => do
    if (← peek) = .flowSequenceEnd then
      advance
      return []
    flowComma first
    match ← peek with
    | .flowSequenceEnd =>
      advance
      return []
    | .key =>
      advance
      let key ← flowPart [.value, .flowEntry, .flowSequenceEnd] fuel
      let value ← flowValue .flowSequenceEnd fuel
      return .mapping (standard "map") [(key, value)] :: (← flowItems false fuel)
    | _ =>
      let item ← node false false fuel
      return item :: (← flowItems false fuel)

def flowEntries (first : Bool) : Nat → Parse (List (Node × Node))
  | 0 => misplaced
  | fuel + 1 => do
    if (← peek) = .flowMappingEnd then
      advance
      return []
    flowComma first
    match ← peek with
    | .flowMappingEnd =>
      advance
      return []
    | .key =>
      advance
      let key ← flowPart [.value, .flowEntry, .flowMappingEnd] fuel
      let value ← flowValue .flowMappingEnd fuel
      return (key, value) :: (← flowEntries false fuel)
    | _ =>
      let key ← node false false fuel
      return (key, Node.empty) :: (← flowEntries false fuel)

/-- The comma before an entry that is not the first. -/
def flowComma (first : Bool) : Parse Unit := do
  if first then return
  if (← peek) = .flowEntry then advance else misplaced

/-- A part of an entry, which may be left out before some tokens. -/
def flowPart (ends : List Token) : Nat → Parse Node
  | 0 => misplaced
  | fuel + 1 => do
    if ← nextIn ends then return Node.empty else node false false fuel

/-- The value of an entry of a flow collection. -/
def flowValue (last : Token) : Nat → Parse Node
  | 0 => misplaced
  | fuel + 1 => do
    if (← peek) = .value then
      advance
      flowPart [.flowEntry, last] fuel
    else return Node.empty

end

/-- What the handles of tags stand for by default. -/
def defaultHandles : Assoc String String := [("!", "!"), ("!!", standard "")]

/-- The directives before a document; the flag tells that a version was given. -/
def directives : Nat → Bool → Assoc String String → Parse (Assoc String String)
  | 0, _, _ => misplaced
  | fuel + 1, versioned, handles => do
    match ← peek with
    | .directive (.version major) =>
      advance
      if versioned || major != 1 then misplaced
      directives fuel true handles
    | .directive (.tag handle start) =>
      advance
      if Assoc.has handles handle then misplaced
      directives fuel versioned (Assoc.put handles handle start)
    | .directive .other =>
      advance
      directives fuel versioned handles
    | _ => return handles

def skipEnds : Nat → Parse Unit
  | 0 => return
  | fuel + 1 => do
    if (← peek) = .documentEnd then
      advance
      skipEnds fuel

/-- Go on to a document that has a start; there is none at the end of the stream. -/
def explicitStart (fuel : Nat) : Parse Bool := do
  skipEnds fuel
  if (← peek) = .streamEnd then return false
  let handles ← directives fuel false []
  if (← peek) != .documentStart then misplaced
  advance
  let missing := defaultHandles.filter fun h => !Assoc.has handles h.1
  modify fun s => { s with handles := handles ++ missing }
  return true

/-- The node of a document behind its start. -/
def content (fuel : Nat) : Parse Node := do
  match ← peek with
  | .directive _ | .documentStart | .documentEnd | .streamEnd => return Node.empty
  | _ => node true false fuel

/-- The node of the only document, if there is one. -/
def document (fuel : Nat) : Parse (Option Node) := do
  let root ← match ← peek with
    | .directive _ | .documentStart | .streamEnd => do
      if ← explicitStart fuel then some <$> content fuel else return none
    | _ => do
      modify fun s => { s with handles := defaultHandles }
      some <$> node true false fuel
  if (← peek) = .documentEnd then advance
  if ← explicitStart fuel then throw (.document .reference)
  return root

end Parse

/-- The node of a text, if there is a document in it. -/
def nodeOf (text : String) : Except Error (Option Node) :=
  let cs := unifyBreaks text.toList
  if !cs.all isAllowed then .error (.document .character)
  else
    let (tokens, failure) := tokensOf cs
    (Parse.document (4 * tokens.length + 8)).run' { tokens, failure }

end SqlDesk.Yaml
