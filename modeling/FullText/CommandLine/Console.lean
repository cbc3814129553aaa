/-!
# Messages on the console

`shown` is a message as the console shows it.  A backslash before a bracket is taken for an escape and is dropped,
unless the bracket begins something like a tag (`[name…]`); control characters that move the cursor are dropped, and
tabs go to the next multiple of eight columns.
-/

namespace FullText.CommandLine

/-- The characters that a tag may begin with. -/
def isTagStart (c : Char) : Bool := c.isLower || c = '#' || c = '/' || c = '@'

/-- Whether a bracket is closed before another one opens. -/
def isClosed (cs : List Char) : Bool := cs.find? (fun c => c = '[' || c = ']') == some ']'

/-- Whether the characters after a bracket make it the beginning of a tag. -/
def beginsTag : List Char → Bool
  | [] => false
  | c :: rest => isTagStart c && isClosed rest

/-- Drops the backslash before each bracket that begins no tag. -/
def withoutEscapes : List Char → List Char
  | [] => []
  | '\\' :: '[' :: rest => if beginsTag rest then '\\' :: '[' :: withoutEscapes rest else '[' :: withoutEscapes rest
  | c :: rest => c :: withoutEscapes rest

/-- Bell, backspace, vertical tab, form feed and carriage return. -/
def movesCursor (c : Char) : Bool := [7, 8, 11, 12, 13].contains c.toNat

/-- Widens tabs to the next multiple of eight; `column` counts the characters of the line so far. -/
def withoutTabs : Nat → List Char → List Char
  | _, [] => []
  | column, c :: rest =>
    if c = '\t' then List.replicate (8 - column % 8) ' ' ++ withoutTabs (column + (8 - column % 8)) rest
    else if c = '\n' then c :: withoutTabs 0 rest
    else c :: withoutTabs (column + 1) rest

/-- A message as the console shows it. -/
def shown (message : String) : String :=
  String.ofList (withoutTabs 0 ((withoutEscapes message.toList).filter fun c => !movesCursor c))

/-- The line that reports a failure. -/
def errorLine (message : String) : String := shown ("Error: " ++ message) ++ "\n"

end FullText.CommandLine
