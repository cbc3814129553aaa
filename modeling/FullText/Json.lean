import FullText.Text.Join
import FullText.Text.Quoted

/-!
# JSON

A `Json` value keeps the order of an object's members.  `Json.pretty` writes one over several lines, two blanks deeper
on each level, in ASCII alone: other characters are escaped by their UTF-16 units.
-/

namespace FullText

open Text

/-- A JSON value with whole numbers only. -/
inductive Json where
  | null
  | bool (b : Bool)
  | int (n : Int)
  | text (s : String)
  | array (items : List Json)
  | object (members : List (String × Json))
  deriving Inhabited

namespace Json

/-- The escape of one UTF-16 unit. -/
def escapedUnit (n : Nat) : List Char := '\\' :: 'u' :: hexDigits 4 n

/-- A character inside the quotes of a JSON text. -/
def escapedChar (c : Char) : List Char :=
  if c = '"' || c = '\\' then ['\\', c]
  else if c = '\n' then ['\\', 'n']
  else if c = '\r' then ['\\', 'r']
  else if c = '\t' then ['\\', 't']
  else if c.toNat = 8 then ['\\', 'b']
  else if c.toNat = 12 then ['\\', 'f']
  else if 0x20 ≤ c.toNat && c.toNat < 0x7F then [c]
  else if c.toNat < 0x10000 then escapedUnit c.toNat
  else escapedUnit (0xD800 + (c.toNat - 0x10000) / 0x400) ++ escapedUnit (0xDC00 + (c.toNat - 0x10000) % 0x400)

/-- A text between quotes. -/
def string (s : String) : String := String.ofList ('"' :: s.toList.flatMap escapedChar ++ ['"'])

/-- A line break and the blanks of a level. -/
def newline (level : Nat) : String := "\n" ++ String.ofList (List.replicate (2 * level) ' ')

/-- Members between brackets, each on a line of its own. -/
def enclosed (left right : String) (level : Nat) (members : List String) : String :=
  if members.isEmpty then left ++ right
  else left ++ newline (level + 1) ++ joined ("," ++ newline (level + 1)) members ++ newline level ++ right

mutual

/-- A value at a level of the text. -/
def prettyAt (level : Nat) : Json → String
  | .null => "null"
  | .bool b => if b then "true" else "false"
  | .int n => toString n
  | .text s => string s
  | .array items => enclosed "[" "]" level (prettyItems (level + 1) items)
  | .object members => enclosed "\x7b" "\x7d" level (prettyMembers (level + 1) members)

def prettyItems (level : Nat) : List Json → List String
  | [] => []
  | item :: rest => prettyAt level item :: prettyItems level rest

def prettyMembers (level : Nat) : List (String × Json) → List String
  | [] => []
  | (key, value) :: rest => (string key ++ ": " ++ prettyAt level value) :: prettyMembers level rest

end

/-- The text of a value over several lines. -/
def pretty (j : Json) : String := prettyAt 0 j

/-- A text, or null for none. -/
def ofText? : Option String → Json
  | none => .null
  | some s => .text s

end Json

end FullText
