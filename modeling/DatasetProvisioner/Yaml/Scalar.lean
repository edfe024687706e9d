import DatasetProvisioner.Yaml.Cursor

/-!
# Scalars in a YAML text

The five ways to write a text: plain, in single or double quotes, and as a literal or folded
block. Every reading step gives what it read and the cursor after it, or nothing where the text is
not well formed.
-/
namespace DatasetProvisioner.Yaml

/-- How a scalar is written. A quoted one never stands for anything but its text. -/
inductive ScalarStyle where
  | plain
  | quoted
  | literal
  | folded
  deriving Repr, DecidableEq

/-- Blanks between two runs of characters of a scalar that is folded. -/
structure Gap where
  /-- Spaces and tabs before the first line break. -/
  blanks : List Char := []
  /-- The first line break. One that is escaped counts for nothing. -/
  firstBreak : Option (List Char) := none
  furtherBreaks : List Char := []

namespace Gap

/-- Whether the gap goes over the end of a line. -/
def isBroken (gap : Gap) : Bool :=
  gap.firstBreak.isSome

/-- What stands for the gap: its blanks within a line, one space for a single line break, and the
further line breaks after a first one. -/
def folded (gap : Gap) : List Char :=
  match gap.firstBreak with
  | none => gap.blanks
  | some first =>
    if first == ['\n'] then
      if gap.furtherBreaks.isEmpty then [' '] else gap.furtherBreaks
    else first ++ gap.furtherBreaks

/-- Read on through blanks and line breaks. A tab left of the column `margin` on a later line is an
error. Every step takes at least one character, which bounds the fuel. -/
def extend (margin : Nat) : Nat → Gap → Cursor → Option (Gap × Cursor)
  | 0, gap, c => some (gap, c)
  | fuel + 1, gap, c =>
    match c.peek 0 with
    | none => some (gap, c)
    | some x =>
      if isSpaceOrTab x then
        if gap.isBroken then
          if x == '\t' && c.column < margin then none
          else extend margin fuel gap (c.advance 1)
        else extend margin fuel { gap with blanks := gap.blanks ++ [x] } (c.advance 1)
      else if isBreak x then
        let (lineBreak, c) := c.takeBreak
        if gap.isBroken then
          extend margin fuel { gap with furtherBreaks := gap.furtherBreaks ++ lineBreak } c
        else extend margin fuel { gap with blanks := [], firstBreak := some lineBreak } c
      else some (gap, c)

/-- Read all blanks and line breaks that follow. -/
def read (margin : Nat) (gap : Gap) (c : Cursor) : Option (Gap × Cursor) :=
  gap.extend margin c.rest.length c

end Gap

/-- The characters that are structure inside brackets and braces. -/
def isFlowIndicator (x : Char) : Bool :=
  x == ',' || x == '[' || x == ']' || x == '{' || x == '}'

/-- The run of characters of a plain scalar: up to a blank, up to a colon with a blank after it
and, inside brackets, up to any of their indicators. There a colon in front of an indicator is an
error. -/
def plainRun (inFlow : Bool) : List Char → Option (List Char)
  | [] => some []
  | x :: cs =>
    if isSpaceOrTab x || isBreak x then some []
    else if inFlow && x == ':' && cs.head?.any fun y => isFlowIndicator y || y == '?' then none
    else if x == ':' && cs.head?.all fun y => isSpaceOrTab y || isBreak y then some []
    else if inFlow && isFlowIndicator x then some []
    else (plainRun inFlow cs).map (x :: ·)

/-- A scalar that was read. -/
structure ScalarReading where
  text : List Char
  /-- Whether the cursor went on to a new line behind the scalar. -/
  onNewLine : Bool
  cursor : Cursor

/-- Read a plain scalar on; `text` was read, then `gap`. The lines after the first must stand at
`margin` or to the right of it, save inside brackets. -/
def plainFrom (inFlow : Bool) (margin : Nat) :
    Nat → List Char → Gap → Cursor → Option ScalarReading
  | 0, text, gap, c => some ⟨text, gap.isBroken, c⟩
  | fuel + 1, text, gap, c =>
    if c.atDocumentMarker || c.looksAt 0 '#' then some ⟨text, gap.isBroken, c⟩
    else do
      let run ← plainRun inFlow c.rest
      if run.isEmpty then return ⟨text, gap.isBroken, c⟩
      let text := text ++ gap.folded ++ run
      let c := c.advance run.length
      let (gap, c) ← Gap.read margin {} c
      if gap.blanks.isEmpty && !gap.isBroken then return ⟨text, false, c⟩
      if !inFlow && c.column < margin then return ⟨text, gap.isBroken, c⟩
      plainFrom inFlow margin fuel text gap c

/-- Read a plain scalar. -/
def readPlain (inFlow : Bool) (margin : Nat) (c : Cursor) : Option ScalarReading :=
  plainFrom inFlow margin (c.rest.length + 1) [] {} c

/-- The character that an escape of one letter stands for. -/
def escape? : Char → Option Char
  | '0' => some '\x00'
  | 'a' => some '\x07'
  | 'b' => some '\x08'
  | 't' | '\t' => some '\t'
  | 'n' => some '\n'
  | 'v' => some '\x0b'
  | 'f' => some '\x0c'
  | 'r' => some '\r'
  | 'e' => some '\x1b'
  | ' ' => some ' '
  | '"' => some '"'
  | '/' => some '/'
  | '\\' => some '\\'
  | 'N' => some '\x85'
  | '_' => some '\xa0'
  | 'L' => some '\u2028'
  | 'P' => some '\u2029'
  | _ => none

/-- How many hexadecimal digits an escape has. -/
def escapeDigits? : Char → Option Nat
  | 'x' => some 2
  | 'u' => some 4
  | 'U' => some 8
  | _ => none

def hexDigit? (x : Char) : Option Nat :=
  if '0' ≤ x ∧ x ≤ '9' then some (x.toNat - '0'.toNat)
  else if 'a' ≤ x ∧ x ≤ 'f' then some (x.toNat - 'a'.toNat + 10)
  else if 'A' ≤ x ∧ x ≤ 'F' then some (x.toNat - 'A'.toNat + 10)
  else none

/-- The number that exactly `n` hexadecimal digits denote. -/
def hexNumber? (n : Nat) (cs : List Char) : Option Nat := do
  let digits ← (cs.take n).mapM hexDigit?
  guard (digits.length = n)
  return digits.foldl (fun value d => value * 16 + d) 0

/-- The character of a code point, which must not be a surrogate. -/
def codePoint? (n : Nat) : Option Char :=
  if n.isValidChar then some (Char.ofNat n) else none

/-- What follows a backslash within double quotes: a character, and how many were read. -/
def escaped? : List Char → Option (Char × Nat)
  | [] => none
  | x :: cs =>
    match escapeDigits? x with
    | some n => do
      let code ← hexNumber? n cs
      let character ← codePoint? code
      return (character, n + 1)
    | none => (escape? x).map fun character => (character, 1)

/-- The run of characters of a quoted scalar, up to a blank or the closing quote, and whether it
ended at an escaped line break. Every step takes at least one character. -/
def quotedRun (quote : Char) :
    Nat → List Char → Cursor → Option (List Char × Bool × Cursor)
  | 0, text, c => some (text, false, c)
  | fuel + 1, text, c =>
    match c.peek 0 with
    | none => some (text, false, c)
    | some x =>
      if isSpaceOrTab x || isBreak x then some (text, false, c)
      else if quote == '\'' && x == '\'' && c.looksAt 1 '\'' then
        quotedRun quote fuel (text ++ ['\'']) (c.advance 2)
      else if x == quote then some (text, false, c)
      else if quote == '"' && x == '\\' then
        if c.sees 1 isBreak then some (text, true, (c.advance 1).dropBreak)
        else do
          let (character, n) ← escaped? (c.rest.drop 1)
          quotedRun quote fuel (text ++ [character]) (c.advance (n + 1))
      else quotedRun quote fuel (text ++ [x]) (c.advance 1)

/-- Read a quoted scalar on, up to and over its closing quote. -/
def quotedFrom (quote : Char) : Nat → List Char → Cursor → Option ScalarReading
  | 0, _, _ => none
  | fuel + 1, text, c =>
    if c.atDocumentMarker || c.rest.isEmpty then none
    else do
      let (run, escapedBreak, c) ← quotedRun quote c.rest.length [] c
      let text := text ++ run
      if c.looksAt 0 quote then return ⟨text, false, c.advance 1⟩
      let (gap, c) ← Gap.read 0 { firstBreak := if escapedBreak then some [] else none } c
      quotedFrom quote fuel (text ++ gap.folded) c

/-- Read a scalar in quotes, the opening one included. -/
def readQuoted (quote : Char) (c : Cursor) : Option ScalarReading :=
  quotedFrom quote (c.rest.length + 1) [] (c.advance 1)

/-- What becomes of the line breaks at the end of a block. -/
inductive Chomping where
  | strip
  | clip
  | keep
  deriving Repr, DecidableEq

/-- The header of a block. -/
structure BlockHeader where
  chomping : Chomping
  /-- How far the block is indented, zero where its first line decides. -/
  increment : Nat

def chomping? : Char → Option Chomping
  | '+' => some .keep
  | '-' => some .strip
  | _ => none

/-- A digit of an indentation; zero is none. -/
def increment? (x : Char) : Option Nat :=
  if x.isDigit then some (x.toNat - '0'.toNat) else none

/-- Read the header of a block: a sign and a digit in either order, both optional, then nothing
but a comment up to the end of the line. -/
def readBlockHeader (c : Cursor) : Option (BlockHeader × Cursor) := do
  let first := (c.peek 0).bind chomping?
  let c := if first.isSome then c.advance 1 else c
  let digit := (c.peek 0).bind increment?
  if digit = some 0 then none
  let c := if digit.isSome then c.advance 1 else c
  let second := if first.isNone && digit.isSome then (c.peek 0).bind chomping? else none
  let c := if second.isSome then c.advance 1 else c
  let c := c.dropWhile isSpaceOrTab
  let c := if c.looksAt 0 '#' then c.dropLine else c
  if !c.endsLine then none
  return (⟨(first <|> second).getD .clip, digit.getD 0⟩, c.dropBreak)

/-- Go over the indentation and the empty lines of a block. While the indentation is not known,
all spaces belong to it; `widest` is the widest so far. Gives the line breaks and the widest
indentation. -/
def blockBreaks (indent : Option Nat) :
    Nat → Nat → List Char → Cursor → Option (List Char × Nat × Cursor)
  | 0, widest, breaks, c => some (breaks, widest, c)
  | fuel + 1, widest, breaks, c =>
    let isIndented (column : Nat) := indent.all (column < ·)
    let spaces := (c.rest.takeWhile (· == ' ')).length
    let width := match indent with
      | some n => min spaces (n - c.column)
      | none => spaces
    let c := c.advance width
    let widest := max widest c.column
    if isIndented c.column && c.looksAt 0 '\t' then none
    else if c.sees 0 isBreak then
      let (lineBreak, c) := c.takeBreak
      blockBreaks indent fuel widest (breaks ++ lineBreak) c
    else some (breaks, widest, c)

/-- The lines of a block that were read. -/
structure BlockText where
  text : List Char := []
  /-- The line break after the last line. -/
  lastBreak : List Char := []
  /-- The line breaks of the empty lines after it. -/
  furtherBreaks : List Char := []
  /-- Whether the last line began with a blank. -/
  indentedMore : Bool := false

/-- What was read, with a further line. In a folded block the break between two lines that do not
begin with a blank becomes a space, or vanishes before empty lines. -/
def BlockText.push (block : BlockText) (literal : Bool) (line lineBreak : List Char) :
    BlockText :=
  let startsBlank := line.head?.any isSpaceOrTab
  let joint :=
    if !literal && block.lastBreak == ['\n'] && !block.indentedMore && !startsBlank then
      if block.furtherBreaks.isEmpty then [' '] else []
    else block.lastBreak
  { text := block.text ++ joint ++ block.furtherBreaks ++ line
    lastBreak := lineBreak
    furtherBreaks := []
    indentedMore := startsBlank }

/-- Read the lines of a block, each of which takes at least one character. -/
def blockLines (literal : Bool) (indent : Nat) :
    Nat → BlockText → Cursor → Option (BlockText × Cursor)
  | 0, block, c => some (block, c)
  | fuel + 1, block, c =>
    if c.column = indent ∧ !c.rest.isEmpty then do
      let (line, c) := c.takeWhile fun x => !isBreak x
      let (lineBreak, c) := c.takeBreak
      let (breaks, _, c) ← blockBreaks (some indent) (c.rest.length + 1) 0 [] c
      blockLines literal indent fuel
        { block.push literal line lineBreak with furtherBreaks := breaks } c
    else some (block, c)

/-- Read a block, its indicator included, inside a structure whose children stand at `margin` or
to the right of it. -/
def readBlock (literal : Bool) (margin : Nat) (c : Cursor) : Option ScalarReading := do
  let (header, c) ← readBlockHeader (c.advance 1)
  let given :=
    if header.increment = 0 then none
    else some (if margin = 0 then header.increment else margin - 1 + header.increment)
  let (breaks, widest, c) ← blockBreaks given (c.rest.length + 1) 0 [] c
  let indent := given.getD (max widest (max margin 1))
  let (block, c) ← blockLines literal indent (c.rest.length + 1) { furtherBreaks := breaks } c
  let tail := match header.chomping with
    | .strip => []
    | .clip => block.lastBreak
    | .keep => block.lastBreak ++ block.furtherBreaks
  return ⟨block.text ++ tail, false, c⟩

end DatasetProvisioner.Yaml
