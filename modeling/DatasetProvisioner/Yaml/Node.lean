import DatasetProvisioner.Yaml.Token

/-!
# YAML documents

The tree that the tokens of a text spell. An alias stays in the tree as the number of an anchor,
since it may name a node that encloses it; `Document.resolved` follows it by one step, after which
there is no further alias. Of the nodes with one number the last in the whole document counts, even
for an alias in front of it.
-/
namespace DatasetProvisioner.Yaml

inductive Node where
  | scalar (tag : Option String) (style : ScalarStyle) (text : String)
  | sequence (items : List Node)
  | mapping (entries : List (Node × Node))
  | alias (anchor : Nat)
  deriving Repr, Inhabited

/-- A missing node. -/
def Node.empty : Node :=
  .scalar none .plain ""

mutual

/-- How many events tell a node: one for a scalar or an alias, and two for the ends of anything
that has parts. -/
def Node.events : Node → Nat
  | .scalar _ _ _ | .alias _ => 1
  | .sequence items => 2 + Node.eventsOfItems items
  | .mapping entries => 2 + Node.eventsOfEntries entries

def Node.eventsOfItems : List Node → Nat
  | [] => 0
  | item :: items => item.events + Node.eventsOfItems items

def Node.eventsOfEntries : List (Node × Node) → Nat
  | [] => 0
  | (key, value) :: entries => key.events + value.events + Node.eventsOfEntries entries

end

/-- A document with the nodes that carry an anchor, by number, the latest first. -/
structure Document where
  root : Node
  anchored : List (Nat × Node) := []

/-- The node that stands for an alias, and any other node itself. -/
def Document.resolved (document : Document) : Node → Node
  | .alias anchor => ((document.anchored.find? (·.1 == anchor)).map (·.2)).getD .empty
  | node => node

/-- What reading a document goes through: the tokens left, the number of every name of an anchor,
and a place for every anchored node, which is empty until the node was read to its end. -/
structure Reading where
  tokens : List Token
  tagHandles : List (String × String)
  anchors : List (String × Nat) := []
  anchored : Array (Nat × Node) := #[]

/-- A step of reading, which fails where the tokens spell no tree. -/
abbrev Reader := StateT Reading Option

namespace Reader

/-- The next token, none at the end. -/
def peek : Reader (Option Token) :=
  return (← get).tokens.head?

/-- Go over the next token. -/
def skip : Reader Unit :=
  modify fun r => { r with tokens := r.tokens.tail }

/-- Go over the next token if it is a certain one. -/
def accept (token : Token) : Reader Bool := do
  if (← peek) == some token then
    skip
    return true
  else return false

/-- Go over the next token, which must be a certain one. -/
def expect (token : Token) : Reader Unit := do
  if !(← accept token) then failure

/-- Whether the next token is one of a list. -/
def nextIn (tokens : List Token) : Reader Bool :=
  return (← peek).any (tokens.contains ·)

/-- What comes in front of a node. -/
structure Properties where
  anchor : Option String := none
  tag : Option String := none

def Properties.isEmpty (properties : Properties) : Bool :=
  properties.anchor.isNone && properties.tag.isNone

/-- Read an anchor, if there is one. -/
def anchor? : Reader (Option String) := do
  match ← peek with
  | some (.anchor name) =>
    skip
    return some name
  | _ => return none

/-- Read a tag, if there is one. Its handle must be known. -/
def tag? : Reader (Option String) := do
  match ← peek with
  | some (.tag handle suffix) =>
    skip
    if handle = "" then return some suffix
    else
      match (← get).tagHandles.lookup handle with
      | some start => return some (start ++ suffix)
      | none => failure
  | _ => return none

/-- Read an anchor and a tag in either order, each optional. -/
def properties : Reader Properties := do
  match ← anchor? with
  | some anchor => return { anchor := some anchor, tag := ← tag? }
  | none =>
    let tag ← tag?
    return { anchor := ← anchor?, tag }

/-- Give a number to an anchor, and a place to its node. The number is how many names are known. A
name that comes again gets a new number, which the next new name gets as well. -/
def register (name : Option String) : Reader (Option Nat) := do
  match name with
  | none => return none
  | some name =>
    let r ← get
    let number := r.anchors.length
    set { r with
      anchors := (name, number) :: r.anchors.filter (·.1 != name)
      anchored := r.anchored.push (number, .empty) }
    return some r.anchored.size

/-- Keep a node that carries an anchor at its place. -/
def keep (place : Option Nat) (node : Node) : Reader Node := do
  if let some place := place then
    modify fun r => { r with anchored := r.anchored.modify place fun a => (a.1, node) }
  return node

mutual

/-- Read a node. In a block it may be a block itself, and the value of a key may be a sequence that
is not indented. Every call of these readers takes a token or hands on to one that does, after at
most two more; this bounds the fuel by three times the number of tokens. -/
def node (fuel : Nat) (inBlock maybeIndentless : Bool) : Reader Node :=
  match fuel with
  | 0 => failure
  | fuel + 1 => do
    if let some (.alias name) ← peek then
      skip
      match (← get).anchors.lookup name with
      | some number => return .alias number
      | none => failure
    let properties ← properties
    let place ← register properties.anchor
    match ← peek with
    | some (.scalar text style) =>
      skip
      keep place (.scalar properties.tag style text)
    | some .flowSequenceStart =>
      skip
      keep place (.sequence (← flowItems fuel true))
    | some .flowMappingStart =>
      skip
      keep place (.mapping (← flowEntries fuel true))
    | token =>
      if maybeIndentless && token == some .blockEntry then
        keep place (.sequence (← indentlessItems fuel))
      else if inBlock && token == some .blockSequenceStart then
        skip
        keep place (.sequence (← blockItems fuel))
      else if inBlock && token == some .blockMappingStart then
        skip
        keep place (.mapping (← blockEntries fuel))
      else if properties.isEmpty then failure
      else keep place (.scalar properties.tag .plain "")

/-- Read a node in a block, or take it as missing where one of the given tokens stands. -/
def blockNodeUnless (fuel : Nat) (maybeIndentless : Bool) (ends : List Token) : Reader Node :=
  match fuel with
  | 0 => failure
  | fuel + 1 => do
    if ← nextIn ends then return .empty else node fuel true maybeIndentless

/-- Read a node inside brackets, or take it as missing where one of the given tokens stands. -/
def flowNodeUnless (fuel : Nat) (ends : List Token) : Reader Node :=
  match fuel with
  | 0 => failure
  | fuel + 1 => do
    if ← nextIn ends then return .empty else node fuel false false

/-- Read the items of a block up to its end. -/
def blockItems (fuel : Nat) : Reader (List Node) :=
  match fuel with
  | 0 => failure
  | fuel + 1 => do
    if ← accept .blockEntry then
      let item ← blockNodeUnless fuel false [.blockEntry, .blockEnd]
      return item :: (← blockItems fuel)
    else
      expect .blockEnd
      return []

/-- Read items that are not indented further than the key before them. -/
def indentlessItems (fuel : Nat) : Reader (List Node) :=
  match fuel with
  | 0 => failure
  | fuel + 1 => do
    if ← accept .blockEntry then
      let item ← blockNodeUnless fuel false [.blockEntry, .key, .value, .blockEnd]
      return item :: (← indentlessItems fuel)
    else return []

/-- Read the keys and values of a block up to its end. A key may come without a value. -/
def blockEntries (fuel : Nat) : Reader (List (Node × Node)) :=
  match fuel with
  | 0 => failure
  | fuel + 1 => do
    if ← accept .blockEnd then return []
    expect .key
    let key ← blockNodeUnless fuel true [.key, .value, .blockEnd]
    let value ←
      if ← accept .value then blockNodeUnless fuel true [.key, .value, .blockEnd]
      else pure .empty
    return (key, value) :: (← blockEntries fuel)

/-- Read what a key inside brackets has for its value, a colon included. -/
def flowValue (fuel : Nat) (ends : List Token) : Reader Node :=
  match fuel with
  | 0 => failure
  | fuel + 1 => do
    if ← accept .value then flowNodeUnless fuel ends else return .empty

/-- Read the items inside brackets up to the closing one. An item with a colon is a mapping of one
entry. -/
def flowItems (fuel : Nat) (isFirst : Bool) : Reader (List Node) :=
  match fuel with
  | 0 => failure
  | fuel + 1 => do
    if ← accept .flowSequenceEnd then return []
    if !isFirst then expect .flowEntry
    if ← accept .flowSequenceEnd then return []
    let ends := [Token.flowEntry, .flowSequenceEnd]
    if ← accept .key then
      if ← nextIn (.value :: ends) then
        -- A key that is missing takes the token after it along.
        skip
        return .mapping [(.empty, ← flowValue fuel ends)] :: (← flowItems fuel false)
      else
        let key ← node fuel false false
        return .mapping [(key, ← flowValue fuel ends)] :: (← flowItems fuel false)
    else
      let item ← node fuel false false
      return item :: (← flowItems fuel false)

/-- Read the entries inside braces up to the closing one. -/
def flowEntries (fuel : Nat) (isFirst : Bool) : Reader (List (Node × Node)) :=
  match fuel with
  | 0 => failure
  | fuel + 1 => do
    if ← accept .flowMappingEnd then return []
    if !isFirst then expect .flowEntry
    if ← accept .flowMappingEnd then return []
    let ends := [Token.flowEntry, .flowMappingEnd]
    if ← accept .key then
      let key ← flowNodeUnless fuel (.value :: ends)
      return (key, ← flowValue fuel ends) :: (← flowEntries fuel false)
    else
      let key ← node fuel false false
      return (key, .empty) :: (← flowEntries fuel false)

end

/-- The tag handles that need no directive. -/
def standardHandles : List (String × String) :=
  [("!", "!"), ("!!", "tag:yaml.org,2002:")]

/-- Read the directives in front of a document: one version, which must be 1.1 or 1.2, and tag
handles, each once. Every round takes a token. -/
def directives (hasVersion : Bool) (own : List (String × String)) :
    List Token → Option (List (String × String) × List Token)
  | .versionDirective major minor :: tokens =>
    if hasVersion || major != 1 || !(minor == 1 || minor == 2) then none
    else directives true own tokens
  | .tagDirective handle start :: tokens =>
    if (own.lookup handle).isSome then none
    else directives hasVersion ((handle, start) :: own) tokens
  | tokens => some (own, tokens)

/-- Read the root of a document. After its opening marker it may be missing. -/
def root (isExplicit : Bool) : Reader Node := do
  let fuel := 3 * (← get).tokens.length + 3
  if isExplicit then
    match ← peek with
    | none | some .documentEnd | some .documentStart => return .empty
    | some (.versionDirective _ _) | some (.tagDirective _ _) => return .empty
    | _ => node fuel true false
  else node fuel true false

/-- Read a document from tokens up to the end of all of them. -/
def document (isExplicit : Bool) : Reader Document := do
  let root ← root isExplicit
  let rest := (← get).tokens.dropWhile (· == .documentEnd)
  if !rest.isEmpty then failure
  return { root, anchored := (← get).anchored.toList.reverse }

end Reader

/-- The document that a text holds. A text without any holds a missing node; with more than one it
is refused. -/
def Document.ofText? (text : String) : Option Document := do
  let tokens ← Token.ofText? text
  if tokens.isEmpty then return { root := .empty }
  let (own, rest) ← Reader.directives false [] tokens
  let handles := own ++ Reader.standardHandles
  match rest with
  | .documentStart :: rest =>
    return (← (Reader.document true).run { tokens := rest, tagHandles := handles }).1
  | _ =>
    -- Directives need the marker of a document after them.
    guard (rest.length = tokens.length)
    return (← (Reader.document false).run { tokens, tagHandles := handles }).1

end DatasetProvisioner.Yaml
