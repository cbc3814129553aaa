import FullText.Json

/-!
# Reading JSON

A reader for the texts that `Json.pretty` writes.  `read?` reads a text by the grammar of JSON, as far as a `Json` value
goes: blanks around every sign, texts whose escapes stand for UTF-16 units, and whole numbers, where zeros in front are
let pass.  It has no part in writing; that it reads what is written is shown apart.
-/

namespace FullText.Json

/-! ## Blanks -/

/-- The characters that may stand around a sign. -/
def isSpace (c : Char) : Bool := c == ' ' || c == '\n' || c == '\r' || c == '\t'

def skipSpaces (cs : List Char) : List Char := cs.dropWhile isSpace

/-! ## Texts -/

/-- The value of a hexadecimal digit. -/
def hexValue? (c : Char) : Option Nat :=
  if c.isDigit then some (c.toNat - '0'.toNat)
  else if 'a' ≤ c && c ≤ 'f' then some (c.toNat - 'a'.toNat + 10)
  else if 'A' ≤ c && c ≤ 'F' then some (c.toNat - 'A'.toNat + 10)
  else none

def hexNumber? (cs : List Char) : Option Nat := cs.foldlM (fun n c => (hexValue? c).map (16 * n + ·)) 0

/-- The character that a letter stands for behind a backslash. -/
def escaped? : Char → Option Char
  | '"' => some '"'
  | '\\' => some '\\'
  | '/' => some '/'
  | 'b' => some '\x08'
  | 'f' => some '\x0c'
  | 'n' => some '\n'
  | 'r' => some '\r'
  | 't' => some '\t'
  | _ => none

/-- The UTF-16 units of a character. -/
def unitsOf (c : Char) : List Nat :=
  if c.toNat < 0x10000 then [c.toNat]
  else [0xD800 + (c.toNat - 0x10000) / 0x400, 0xDC00 + (c.toNat - 0x10000) % 0x400]

/-- The UTF-16 units up to the quote that ends a text, and what follows. -/
def readUnits : List Char → Option (List Nat × List Char)
  | [] => none
  | '"' :: rest => some ([], rest)
  | '\\' :: 'u' :: a :: b :: c :: d :: rest => do
    let unit ← hexNumber? [a, b, c, d]
    let (units, after) ← readUnits rest
    return (unit :: units, after)
  | '\\' :: c :: rest => do
    let c ← escaped? c
    let (units, after) ← readUnits rest
    return (unitsOf c ++ units, after)
  | c :: rest =>
    if c.toNat < 0x20 then none
    else do
      let (units, after) ← readUnits rest
      return (unitsOf c ++ units, after)

/-- Whether a UTF-16 unit is the first of a pair. -/
def isHigh (unit : Nat) : Bool := 0xD800 ≤ unit && unit < 0xDC00

/-- Whether a UTF-16 unit is the second of a pair. -/
def isLow (unit : Nat) : Bool := 0xDC00 ≤ unit && unit < 0xE000

/-- The characters that UTF-16 units stand for; half a pair stands for none. -/
def ofUnits? : List Nat → Option (List Char)
  | [] => some []
  | unit :: rest =>
    if isHigh unit then
      match rest with
      | [] => none
      | low :: rest =>
        if isLow low then
          (ofUnits? rest).map (Char.ofNat (0x10000 + (unit - 0xD800) * 0x400 + (low - 0xDC00)) :: ·)
        else none
    else if isLow unit then none
    else (ofUnits? rest).map (Char.ofNat unit :: ·)

/-- A text behind its first quote, and what follows. -/
def readString (cs : List Char) : Option (String × List Char) := do
  let (units, after) ← readUnits cs
  let text ← ofUnits? units
  return (String.ofList text, after)

/-! ## Numbers -/

/-- The number that a text begins with, and what follows its digits. -/
def readNat (cs : List Char) : Option (Nat × List Char) :=
  let digits := cs.takeWhile Char.isDigit
  if digits.isEmpty then none else some (Nat.ofDigitChars 10 digits 0, cs.dropWhile Char.isDigit)

def readInt : List Char → Option (Int × List Char)
  | '-' :: rest => (readNat rest).map fun (n, after) => (-n, after)
  | cs => (readNat cs).map fun (n, after) => (n, after)

/-! ## Values -/

section
variable {α : Type}

/-- Values with commas between them, up to the bracket that closes, and what follows it. -/
def readSeparated (readOne : List Char → Option (α × List Char)) (close : Char) :
    Nat → List Char → Option (List α × List Char)
  | 0, _ => none
  | n + 1, cs => do
    let (value, rest) ← readOne (skipSpaces cs)
    match skipSpaces rest with
    | [] => none
    | c :: rest =>
      if c = close then return ([value], rest)
      else if c = ',' then
        let (values, after) ← readSeparated readOne close n rest
        return (value :: values, after)
      else none

/-- Values behind a bracket that opens, or none. -/
def readEnclosed (readOne : List Char → Option (α × List Char)) (close : Char) (n : Nat) (cs : List Char) :
    Option (List α × List Char) :=
  match skipSpaces cs with
  | [] => none
  | c :: rest => if c = close then some ([], rest) else readSeparated readOne close n (c :: rest)

end

/-- A member of an object: its name, a colon and its value. -/
def readMember (readOne : List Char → Option (Json × List Char)) :
    List Char → Option ((String × Json) × List Char)
  | '"' :: rest => do
    let (key, rest) ← readString rest
    match skipSpaces rest with
    | ':' :: rest =>
      let (value, after) ← readOne (skipSpaces rest)
      return ((key, value), after)
    | _ => none
  | _ => none

/-- The value that a text begins with, and what follows it.  Brackets are read no deeper than `n` levels, and with no
more than `n` values between two of them. -/
def readValue : Nat → List Char → Option (Json × List Char)
  | 0, _ => none
  | n + 1, cs =>
    match cs with
    | '"' :: rest => (readString rest).map fun (s, after) => (.text s, after)
    | '[' :: rest => (readEnclosed (readValue n) ']' n rest).map fun (items, after) => (.array items, after)
    | '\x7b' :: rest =>
      (readEnclosed (readMember (readValue n)) '\x7d' n rest).map fun (members, after) => (.object members, after)
    | 'n' :: 'u' :: 'l' :: 'l' :: rest => some (.null, rest)
    | 't' :: 'r' :: 'u' :: 'e' :: rest => some (.bool true, rest)
    | 'f' :: 'a' :: 'l' :: 's' :: 'e' :: rest => some (.bool false, rest)
    | cs => (readInt cs).map fun (n, after) => (.int n, after)

/-- The value that a whole text stands for; its characters are more than its levels and its values. -/
def read? (s : String) : Option Json :=
  match readValue s.length (skipSpaces s.toList) with
  | none => none
  | some (j, rest) => if (skipSpaces rest).isEmpty then some j else none

end FullText.Json
