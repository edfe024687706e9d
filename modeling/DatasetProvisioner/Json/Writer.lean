import DatasetProvisioner.Json.Value
import DatasetProvisioner.Text.Numeral

/-!
# Writing structured values

The text of a value without any space between its parts. Quotes, backslashes and control
characters are escaped, every other character stands for itself.
-/
namespace DatasetProvisioner.Json

/-- A character inside a quoted text. -/
def escaped (c : Char) : List Char :=
  match c with
  | '"' => ['\\', '"']
  | '\\' => ['\\', '\\']
  | '\n' => ['\\', 'n']
  | '\r' => ['\\', 'r']
  | '\t' => ['\\', 't']
  | '\x08' => ['\\', 'b']
  | '\x0c' => ['\\', 'f']
  | c =>
    if c.toNat < 0x20 then
      '\\' :: 'u' :: (Text.padded 16 4 c.toNat).toList
    else [c]

def quoted (s : String) : String :=
  String.ofList ('"' :: s.toList.flatMap escaped ++ ['"'])

def integerText (n : Int) : String :=
  if n < 0 then "-" ++ Text.decimal n.natAbs else Text.decimal n.natAbs

mutual

/-- The text of a value. -/
def write : Json → String
  | .null => "null"
  | .bool true => "true"
  | .bool false => "false"
  | .integer n => integerText n
  | .decimal text => text
  | .string s => quoted s
  | .array items => "[" ++ ",".intercalate (writeAll items) ++ "]"
  | .object members => "\x7b" ++ ",".intercalate (writeMembers members) ++ "\x7d"

def writeAll : List Json → List String
  | [] => []
  | item :: items => write item :: writeAll items

def writeMembers : List (String × Json) → List String
  | [] => []
  | (key, item) :: members => (quoted key ++ ":" ++ write item) :: writeMembers members

end

end DatasetProvisioner.Json
