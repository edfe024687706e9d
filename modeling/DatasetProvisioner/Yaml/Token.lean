import DatasetProvisioner.Text.Bytes
import DatasetProvisioner.Yaml.Scalar

/-!
# Tokens of a YAML text

A YAML text as a list of tokens, in which indentation has become explicit: a block opens where a
line stands further to the right than the block around it, and closes where one stands further to
the left. A colon makes a key of what stands before it on the same line; `Scanner` keeps the place
of that candidate, so that the tokens that open a key can be put in front of it.
-/
namespace DatasetProvisioner.Yaml

inductive Token where
  | versionDirective (major minor : Nat)
  | tagDirective (handle start : String)
  | documentStart
  | documentEnd
  | blockSequenceStart
  | blockMappingStart
  | blockEnd
  | flowSequenceStart
  | flowSequenceEnd
  | flowMappingStart
  | flowMappingEnd
  | blockEntry
  | flowEntry
  | key
  | value
  | alias (name : String)
  | anchor (name : String)
  | tag (handle suffix : String)
  | scalar (text : String) (style : ScalarStyle)
  deriving Repr, DecidableEq

/-- Something that becomes a key if a colon follows it. -/
structure KeyCandidate where
  /-- Whether nothing but a key may stand there. -/
  required : Bool
  /-- How many tokens come before it. -/
  position : Nat
  /-- How many bytes of the text come before it. -/
  bytes : Nat
  line : Nat
  column : Nat

/-- The tokens read so far, and what decides about the next ones. -/
structure Scanner where
  cursor : Cursor
  tokens : Array Token := #[]
  /-- The columns of the open blocks, the innermost first. -/
  indents : List Nat := []
  /-- A possible key outside all brackets and in every open bracket, the innermost first. -/
  candidates : List (Option KeyCandidate) := [none]
  /-- Whether a key may begin here. -/
  keyAllowed : Bool := true

namespace Scanner

/-- Whether an open bracket or brace surrounds the cursor. -/
def inFlow (s : Scanner) : Bool :=
  1 < s.candidates.length

/-- The least column of anything inside the innermost block. -/
def margin (s : Scanner) : Nat :=
  match s.indents with
  | [] => 0
  | column :: _ => column + 1

def push (s : Scanner) (token : Token) : Scanner :=
  { s with tokens := s.tokens.push token }

def moveTo (s : Scanner) (c : Cursor) : Scanner :=
  { s with cursor := c }

def allowKey (s : Scanner) (allowed : Bool) : Scanner :=
  { s with keyAllowed := allowed }

/-- Forget the innermost candidate, unless it had to become a key. -/
def dropCandidate (s : Scanner) : Option Scanner :=
  match s.candidates with
  | some candidate :: outer =>
    if candidate.required then none else some { s with candidates := none :: outer }
  | _ => some s

/-- Remember that what comes next may be a key. -/
def saveCandidate (s : Scanner) : Option Scanner :=
  if s.keyAllowed then do
    let s ← s.dropCandidate
    let candidate : KeyCandidate :=
      { required := !s.inFlow && s.indents.head? == some s.cursor.column
        position := s.tokens.size
        bytes := s.cursor.bytes
        line := s.cursor.line
        column := s.cursor.column }
    return { s with candidates := some candidate :: s.candidates.tail }
  else some s

/-- How many bytes a key may have. -/
def keyLimit : Nat := 1024

/-- Forget the candidates that are too far back: a key is short and on one line. -/
def dropStale (s : Scanner) : Option Scanner := do
  let isStale (candidate : KeyCandidate) : Bool :=
    candidate.line < s.cursor.line || candidate.bytes + keyLimit < s.cursor.bytes
  let candidates ← s.candidates.mapM fun candidate =>
    match candidate with
    | some k => if isStale k then if k.required then none else some none else some (some k)
    | none => some none
  return { s with candidates }

/-- Open a block at a column, with its first token at a place among the tokens, unless the
innermost block stands there already. -/
def openBlock (s : Scanner) (column position : Nat) (token : Token) : Scanner :=
  if !s.inFlow && s.indents.head?.all (· < column) then
    { s with
      indents := column :: s.indents
      tokens := s.tokens.insertIdxIfInBounds position token }
  else s

/-- Close the blocks that do not satisfy a condition on their column, from the inside. -/
def closeBlocks (s : Scanner) (keeps : Nat → Bool) : Scanner :=
  if s.inFlow then s
  else
    let closed := s.indents.takeWhile fun column => !keeps column
    { s with
      indents := s.indents.drop closed.length
      tokens := s.tokens ++ (closed.map fun _ => Token.blockEnd).toArray }

/-- Close all blocks at the end of a document. -/
def closeAll (s : Scanner) : Option Scanner := do
  let s ← (s.closeBlocks fun _ => false).dropCandidate
  return s.allowKey false

/-- Go over blanks, comments and empty lines. At the start of a line, where a key may begin, a tab
is none of the blanks; a byte order mark may stand in front of a line. Every round but the last
goes over a line break. -/
def skipBlanks : Nat → Scanner → Scanner
  | 0, s => s
  | fuel + 1, s =>
    let c := if s.cursor.column = 0 ∧ s.cursor.looksAt 0 '\ufeff' then s.cursor.advance 1
      else s.cursor
    let c := c.dropWhile fun x => x == ' ' || ((s.inFlow || !s.keyAllowed) && x == '\t')
    let c := if c.looksAt 0 '#' then c.dropLine else c
    if c.sees 0 isBreak then
      skipBlanks fuel { s with cursor := c.dropBreak, keyAllowed := s.keyAllowed || !s.inFlow }
    else s.moveTo c

/-- Letters, digits, hyphen and underscore, of which names are made. -/
def isWordChar (x : Char) : Bool :=
  x.isAlphanum || x == '_' || x == '-'

/-- The further characters of a tag; brackets and commas only where it is delimited. -/
def isTagChar (delimited : Bool) (x : Char) : Bool :=
  isWordChar x || ";/?:@&=+$.%!~*'()".toList.contains x ||
    (delimited && (x == ',' || x == '[' || x == ']'))

/-- How many bytes a character has that begins with a certain byte. -/
def encodedLength? (byte : Nat) : Option Nat :=
  if byte < 0x80 then some 1
  else if 0xC0 ≤ byte ∧ byte < 0xE0 then some 2
  else if 0xE0 ≤ byte ∧ byte < 0xF0 then some 3
  else if 0xF0 ≤ byte ∧ byte < 0xF8 then some 4
  else none

/-- The bytes that the characters of a tag stand for. A percent sign and two hexadecimal digits are
one byte, and all bytes of a character are written so once its first one is; `due` of them are
still to come. -/
def tagBytes (due : Nat) : List Char → Option (List Nat)
  | '%' :: a :: b :: cs => do
    let byte ← hexNumber? 2 [a, b]
    let due ←
      if due = 0 then (encodedLength? byte).map (· - 1)
      else if 0x80 ≤ byte ∧ byte < 0xC0 then some (due - 1)
      else none
    return byte :: (← tagBytes due cs)
  | x :: cs =>
    if due = 0 ∧ x ≠ '%' then (tagBytes 0 cs).map (x.toNat :: ·) else none
  | [] => if due = 0 then some [] else none

/-- The text of a tag, which a zero byte ends. -/
def tagText (bytes : List Nat) : String :=
  Text.ofBytes (bytes.takeWhile (· != 0))

/-- Read the characters of a tag, as bytes. -/
def readTagChars (delimited : Bool) (c : Cursor) : Option (List Nat × Cursor) := do
  let (cs, c) := c.takeWhile (isTagChar delimited)
  return (← tagBytes 0 cs, c)

/-- Read the handle of a tag: an exclamation mark, and a name with another one after it. -/
def readTagHandle (c : Cursor) : Option (List Char × Cursor) :=
  if c.looksAt 0 '!' then
    let (name, after) := (c.advance 1).takeWhile isWordChar
    if after.looksAt 0 '!' then some ('!' :: name ++ ['!'], after.advance 1)
    else some ('!' :: name, after)
  else none

/-- Read a tag. -/
def readTag (c : Cursor) : Option (Token × Cursor) :=
  if c.looksAt 1 '<' then do
    let (bytes, c) ← readTagChars true (c.advance 2)
    guard (!bytes.isEmpty && c.looksAt 0 '>')
    return (.tag "" (tagText bytes), c.advance 1)
  else do
    let (handle, c) ← readTagHandle c
    let (bytes, c) ← readTagChars false c
    if 1 < handle.length ∧ handle.getLast? = some '!' then
      guard (!bytes.isEmpty)
      return (.tag (String.ofList handle) (tagText bytes), c)
    else
      let suffix := String.ofList (handle.drop 1) ++ tagText bytes
      -- An exclamation mark alone is a tag of its own.
      if suffix = "" then return (.tag "" "!", c) else return (.tag "!" suffix, c)

/-- Read the name of an anchor or an alias, after its indicator. -/
def readAnchorName (c : Cursor) : Option (String × Cursor) :=
  let (name, c) := (c.advance 1).takeWhile isWordChar
  if !name.isEmpty && (c.endsWordAt 0 || c.sees 0 ("?:,]\x7d%@\x60".toList.contains ·)) then
    some (String.ofList name, c)
  else none

/-- The number of digits a version may have on either side of its point. -/
def versionDigits : Nat := 9

def readVersionNumber (c : Cursor) : Option (Nat × Cursor) :=
  let (digits, c) := c.takeWhile Char.isDigit
  if digits.isEmpty || versionDigits < digits.length then none
  else some (digits.foldl (fun n d => n * 10 + (d.toNat - '0'.toNat)) 0, c)

/-- Read a directive, up to the end of its line. -/
def readDirective (c : Cursor) : Option (Token × Cursor) := do
  let (name, c) := (c.advance 1).takeWhile isWordChar
  guard (c.endsWordAt 0)
  let c := c.dropWhile isSpaceOrTab
  let (token, c) ← match String.ofList name with
    | "YAML" => do
      let (major, c) ← readVersionNumber c
      guard (c.looksAt 0 '.')
      let (minor, c) ← readVersionNumber (c.advance 1)
      pure (Token.versionDirective major minor, c)
    | "TAG" => do
      let (handle, c) ← readTagHandle c
      guard (handle = ['!'] ∨ (1 < handle.length ∧ handle.getLast? = some '!'))
      guard (c.sees 0 isSpaceOrTab)
      let (start, c) ← readTagChars true (c.dropWhile isSpaceOrTab)
      guard (!start.isEmpty && c.endsWordAt 0)
      pure (Token.tagDirective (String.ofList handle) (tagText start), c)
    | _ => none
  let c := c.dropWhile isSpaceOrTab
  let c := if c.looksAt 0 '#' then c.dropLine else c
  guard c.endsLine
  return (token, c.dropBreak)

/-- An opening bracket or brace. -/
def openFlow (s : Scanner) (token : Token) : Option Scanner := do
  let s ← s.saveCandidate
  return { s.push token with
    candidates := none :: s.candidates
    keyAllowed := true
    cursor := s.cursor.advance 1 }

/-- A closing bracket or brace. -/
def closeFlow (s : Scanner) (token : Token) : Option Scanner := do
  let s ← s.dropCandidate
  return { s.push token with
    candidates := if s.inFlow then s.candidates.tail else s.candidates
    keyAllowed := false
    cursor := s.cursor.advance 1 }

/-- A comma inside brackets. -/
def flowEntry (s : Scanner) : Option Scanner := do
  let s ← s.dropCandidate
  return ((s.push .flowEntry).allowKey true).moveTo (s.cursor.advance 1)

/-- A hyphen in front of an item. -/
def blockEntry (s : Scanner) : Option Scanner := do
  guard (s.inFlow || s.keyAllowed)
  let s ← (s.openBlock s.cursor.column s.tokens.size .blockSequenceStart).dropCandidate
  return ((s.push .blockEntry).allowKey true).moveTo (s.cursor.advance 1)

/-- A question mark in front of a key. -/
def explicitKey (s : Scanner) : Option Scanner := do
  guard (s.inFlow || s.keyAllowed)
  let s ← (s.openBlock s.cursor.column s.tokens.size .blockMappingStart).dropCandidate
  return ((s.push .key).allowKey !s.inFlow).moveTo (s.cursor.advance 1)

/-- A colon in front of a value. -/
def mappingValue (s : Scanner) : Option Scanner :=
  match s.candidates with
  | some candidate :: outer =>
    let s := { s with
      tokens := s.tokens.insertIdxIfInBounds candidate.position .key
      candidates := none :: outer
      keyAllowed := false }
    let s := s.openBlock candidate.column candidate.position .blockMappingStart
    some ((s.push .value).moveTo (s.cursor.advance 1))
  | _ => do
    guard (s.inFlow || s.keyAllowed)
    let s := s.openBlock s.cursor.column s.tokens.size .blockMappingStart
    return ((s.push .value).allowKey !s.inFlow).moveTo (s.cursor.advance 1)

/-- A scalar that may be a key. -/
def flowScalar (s : Scanner) (style : ScalarStyle)
    (reader : Cursor → Option ScalarReading) : Option Scanner := do
  let s ← s.saveCandidate
  let reading ← reader s.cursor
  return ((s.push (.scalar (String.ofList reading.text) style)).allowKey
    reading.onNewLine).moveTo reading.cursor

/-- A scalar that is a block of lines. -/
def blockScalar (s : Scanner) (style : ScalarStyle) : Option Scanner := do
  let s ← s.dropCandidate
  let reading ← readBlock (style == .literal) s.margin s.cursor
  return ((s.push (.scalar (String.ofList reading.text) style)).allowKey true).moveTo
    reading.cursor

/-- An anchor, an alias or a tag. -/
def property (s : Scanner) (reader : Cursor → Option (Token × Cursor)) : Option Scanner := do
  let s ← s.saveCandidate
  let (token, c) ← reader s.cursor
  return ((s.push token).allowKey false).moveTo c

/-- Whether a plain scalar may begin with a character, given the cursor at it. -/
def startsPlain (s : Scanner) (x : Char) : Bool :=
  !("-?:,[]\x7b\x7d#&*!|>'\"%@`".toList.contains x || isSpaceOrTab x) ||
    (x == '-' && !s.cursor.sees 1 isSpaceOrTab) ||
    (!s.inFlow && (x == '?' || x == ':') && !s.cursor.endsWordAt 1)

/-- Read the token that begins with the character `x` at the cursor, and those that come with
it. -/
def token (s : Scanner) (x : Char) : Option Scanner :=
  let c := s.cursor
  if c.column = 0 ∧ x = '%' then do
    let s ← s.closeAll
    let (token, c) ← readDirective s.cursor
    return (s.push token).moveTo c
  else if c.atMarker '-' then do
    let s ← s.closeAll
    return (s.push .documentStart).moveTo (c.advance 3)
  else if c.atMarker '.' then do
    let s ← s.closeAll
    return (s.push .documentEnd).moveTo (c.advance 3)
  else
    match x with
    | '[' => s.openFlow .flowSequenceStart
    | '{' => s.openFlow .flowMappingStart
    | ']' => s.closeFlow .flowSequenceEnd
    | '}' => s.closeFlow .flowMappingEnd
    | ',' => s.flowEntry
    | '*' => s.property fun c => (readAnchorName c).map fun r => (.alias r.1, r.2)
    | '&' => s.property fun c => (readAnchorName c).map fun r => (.anchor r.1, r.2)
    | '!' => s.property fun c => do
      let (token, c) ← readTag c
      guard (c.endsWordAt 0 || (s.inFlow && c.looksAt 0 ','))
      return (token, c)
    | '\'' | '"' => s.flowScalar .quoted (readQuoted x)
    | _ =>
      if x = '-' ∧ c.endsWordAt 1 then s.blockEntry
      else if x = '?' ∧ (s.inFlow ∨ c.endsWordAt 1) then s.explicitKey
      else if x = ':' ∧ (s.inFlow ∨ c.endsWordAt 1) then s.mappingValue
      else if x = '|' ∧ !s.inFlow then s.blockScalar .literal
      else if x = '>' ∧ !s.inFlow then s.blockScalar .folded
      else if s.startsPlain x then s.flowScalar .plain (readPlain s.inFlow s.margin)
      else none

/-- Read all tokens. Every round takes at least one character, which bounds the fuel. -/
def run : Nat → Scanner → Option (List Token)
  | 0, _ => none
  | fuel + 1, s => do
    let s ← (s.skipBlanks (s.cursor.rest.length + 1)).dropStale
    match s.cursor.peek 0 with
    | none => return (← s.closeAll).tokens.toList
    | some x =>
      let s ← (s.closeBlocks (· ≤ s.cursor.column)).token x
      run fuel s

end Scanner

/-- The tokens of a text. -/
def Token.ofText? (text : String) : Option (List Token) :=
  let cs := text.toList
  if cs.all isPermitted then Scanner.run (cs.length + 1) { cursor := ⟨cs, 0, 0, 0⟩ } else none

end DatasetProvisioner.Yaml
