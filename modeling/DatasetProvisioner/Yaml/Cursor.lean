/-!
# Places in a YAML text

A cursor is the rest of a text and where it stands in lines and columns. Lines end at a line feed,
a carriage return, both together, a next-line character or one of the two Unicode separators.
-/
namespace DatasetProvisioner.Yaml

def isBreak (c : Char) : Bool :=
  c == '\n' || c == '\r' || c == '\x85' || c == '\u2028' || c == '\u2029'

def isSpaceOrTab (c : Char) : Bool :=
  c == ' ' || c == '\t'

/-- The characters that a text may hold. -/
def isPermitted (c : Char) : Bool :=
  let n := c.toNat
  n == 9 || n == 0xA || n == 0xD || (0x20 ≤ n && n ≤ 0x7E) || n == 0x85 ||
    (0xA0 ≤ n && n ≤ 0xD7FF) || (0xE000 ≤ n && n ≤ 0xFFFD) || 0x10000 ≤ n

/-- The rest of a text, with the number of bytes, of lines, and of characters on the line before
it. -/
structure Cursor where
  rest : List Char
  bytes : Nat := 0
  line : Nat := 0
  column : Nat := 0

namespace Cursor

/-- The character after `k` others. -/
def peek (c : Cursor) (k : Nat) : Option Char :=
  c.rest[k]?

/-- Whether a certain character comes after `k` others. -/
def looksAt (c : Cursor) (k : Nat) (x : Char) : Bool :=
  c.peek k == some x

/-- Whether a character of a kind comes after `k` others. -/
def sees (c : Cursor) (k : Nat) (p : Char → Bool) : Bool :=
  (c.peek k).any p

/-- Whether `k` characters are followed by a space, a tab, a line break or the end. -/
def endsWordAt (c : Cursor) (k : Nat) : Bool :=
  (c.peek k).all fun x => isSpaceOrTab x || isBreak x

/-- Whether the line ends here. -/
def endsLine (c : Cursor) : Bool :=
  (c.peek 0).all isBreak

/-- The number of bytes of characters. -/
def bytesOf (cs : List Char) : Nat :=
  cs.foldl (fun n x => n + x.utf8Size) 0

/-- Go over `n` characters, none of them a line break. -/
def advance (c : Cursor) (n : Nat) : Cursor where
  rest := c.rest.drop n
  bytes := c.bytes + bytesOf (c.rest.take n)
  line := c.line
  column := c.column + n

/-- Go over the characters of a kind, none of which is a line break, and give them. -/
def takeWhile (c : Cursor) (p : Char → Bool) : List Char × Cursor :=
  let taken := c.rest.takeWhile p
  (taken, c.advance taken.length)

/-- Go over the characters of a kind, none of which is a line break. -/
def dropWhile (c : Cursor) (p : Char → Bool) : Cursor :=
  (c.takeWhile p).2

/-- Go to the end of the line. -/
def dropLine (c : Cursor) : Cursor :=
  c.dropWhile fun x => !isBreak x

/-- Go over one line break, if there is one, and give it: every break of a single line is a line
feed, the Unicode separators stay. -/
def takeBreak (c : Cursor) : List Char × Cursor :=
  match c.rest with
  | '\r' :: '\n' :: cs => (['\n'], ⟨cs, c.bytes + 2, c.line + 1, 0⟩)
  | x :: cs =>
    if isBreak x then
      ([if x == '\u2028' || x == '\u2029' then x else '\n'],
        ⟨cs, c.bytes + x.utf8Size, c.line + 1, 0⟩)
    else ([], c)
  | [] => ([], c)

/-- Go over one line break, if there is one. -/
def dropBreak (c : Cursor) : Cursor :=
  c.takeBreak.2

/-- Whether a line consists of three given characters, with or without anything after a blank. -/
def atMarker (c : Cursor) (x : Char) : Bool :=
  c.column == 0 && c.looksAt 0 x && c.looksAt 1 x && c.looksAt 2 x && c.endsWordAt 3

/-- Whether a document begins or ends here. -/
def atDocumentMarker (c : Cursor) : Bool :=
  c.atMarker '-' || c.atMarker '.'

end Cursor

end DatasetProvisioner.Yaml
