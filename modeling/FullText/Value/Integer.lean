import FullText.Column
import FullText.Fault
import FullText.Text.Blank

/-!
# Whole numbers and truth values from loose values

A whole number may be given as such, as a floating-point number without a fraction, or in decimal digits.  Digits are
plain when they begin with no needless zero and only a minus stands before them; other texts are tidied once
(`tidied?`) and then have to be plain.  A truth value may be given as such, as 0 or 1, or by one of a few words.
-/

namespace FullText

open Text

/-! ## Plain digits -/

/-- The number that digits stand for. -/
def digitsValue (ds : List Char) : Nat := ds.foldl (fun n c => n * 10 + (c.toNat - '0'.toNat)) 0

/-- Numbers whose sign and digits are more characters than this are not read. -/
def maxDigits : Nat := 4300

/-- Splits a minus off. -/
def readMinus : List Char → Bool × List Char
  | '-' :: rest => (true, rest)
  | cs => (false, cs)

/-- The whole number in plain digits.  A number is too large whatever follows its digits. -/
def readPlain (cs : List Char) : Except FaultKind Int :=
  let (negative, unsigned) := readMinus cs
  let digits := unsigned.takeWhile Char.isDigit
  let n : Int := digitsValue digits
  if unsigned = ['0'] then .ok 0
  else if digits = [] || digits.head? = some '0' then .error .unreadableInteger
  else if maxDigits < digits.length + (if negative then 1 else 0) then .error .tooLarge
  else if digits ≠ unsigned then .error .unreadableInteger
  else .ok (if negative then -n else n)

/-! ## Tidying -/

/-- Splits a sign off; a minus may not follow a plus. -/
def readSign? : List Char → Option (Bool × List Char)
  | '+' :: '-' :: _ => none
  | '+' :: rest => some (false, rest)
  | cs => some (readMinus cs)

/-- The rest of a number after a first zero: further zeros and underscores are skipped, up to a digit or a minus.  The
last of them, `last`, stays before a period and at the end. -/
def skipZeros (last : Char) : List Char → Option (List Char)
  | [] => some [last]
  | c :: rest =>
    if c = '0' || c = '_' then skipZeros c rest
    else if c.isDigit || c = '-' then some (c :: rest)
    else if c = '.' then some (last :: c :: rest)
    else none

/-- A number without needless zeros at its beginning. -/
def withoutZeros? : List Char → Option (List Char)
  | [] => none
  | c :: rest =>
    if c = '0' then skipZeros c rest
    else if c.isDigit || c = '-' then some (c :: rest)
    else none

/-- The digits before an ending of a period and zeros. -/
def withoutZeroFraction (cs : List Char) : List Char :=
  match cutAtLast '.' cs with
  | some (whole, zeros) => if zeros ≠ [] && zeros.all (· == '0') then whole else cs
  | none => cs

/-- The characters other than underscores, if each underscore stands between two of them.  `pending` says that such a
character must follow, as at the start and after an underscore. -/
def withoutUnderscores? : Bool → List Char → Option (List Char)
  | pending, [] => if pending then none else some []
  | pending, c :: rest =>
    if c = '_' then if pending then none else withoutUnderscores? true rest
    else (withoutUnderscores? false rest).map (c :: ·)

/-- A number without the white space around it, a plus, needless zeros, a fraction of zeros and underscores. -/
def tidied? (cs : List Char) : Option (List Char) := do
  let (negative, unsigned) ← readSign? (trim isWhiteSpace cs)
  let whole ← withoutZeros? unsigned
  let digits ← withoutUnderscores? true (withoutZeroFraction whole)
  return if negative then '-' :: digits else digits

/-- The whole number that a text stands for.  Only a text in plain digits can be too large; one that has to be tidied
first is then unreadable. -/
def readInteger (s : String) : Except FaultKind Int :=
  match readPlain s.toList with
  | .ok n => .ok n
  | .error .tooLarge => .error .tooLarge
  | .error _ =>
    match (tidied? s.toList).map readPlain with
    | some (.ok n) => .ok n
    | _ => .error .unreadableInteger

/-! ## Loose values -/

/-- Whether a number lies strictly inside the signed 64-bit range. -/
def inWordRange (n : Int) : Bool := -Int.pow 2 63 < n && n < Int.pow 2 63

/-- The whole number that a floating-point number is. -/
def integerOfFloat (x : Decimal.Binary64) : Except FaultKind Int :=
  if !x.isFinite then .error .notFinite
  else
    match x.toInt? with
    | none => .error .fractional
    | some n => if inWordRange n then .ok n else .error .tooLarge

/-- The whole number that a value is; a truth value is none here. -/
def Value.toInteger (v : Value) : Except FaultKind Int :=
  match v with
  | .int n => .ok n
  | .float x => integerOfFloat x
  | _ =>
    match v.text? with
    | some s => readInteger s
    | none => .error .notInteger

/-- The truth value that a small number stands for. -/
def booleanOfInteger (n : Int) : Except FaultKind Bool :=
  if n = 0 then .ok false
  else if n = 1 then .ok true
  else if inWordRange n || n = -Int.pow 2 63 then .error .unreadableBoolean
  else .error .notBoolean

/-- The words for true and for false, in lower case. -/
def trueWords : List String := ["1", "on", "t", "true", "y", "yes"]

def falseWords : List String := ["0", "off", "f", "false", "n", "no"]

/-- A text with its ASCII letters in lower case. -/
def asciiLowercase (s : String) : String := String.ofList (s.toList.map Char.toLower)

/-- The truth value that a word stands for, without regard to the case of its letters. -/
def readBoolean (s : String) : Except FaultKind Bool :=
  let word := asciiLowercase s
  if trueWords.contains word then .ok true
  else if falseWords.contains word then .ok false
  else .error .unreadableBoolean

/-- The truth value that a value stands for. -/
def Value.toBoolean (v : Value) : Except FaultKind Bool :=
  match v with
  | .bool b => .ok b
  | .int n => booleanOfInteger n
  | .float x =>
    match integerOfFloat x with
    | .ok n => booleanOfInteger n
    | .error _ => .error .notBoolean
  | _ =>
    match v.text? with
    | some s => readBoolean s
    | none => .error .notBoolean

end FullText
