import FullText.Settings

/-!
# Reports of refused settings

`faultReport` lists the faults of settings that come from the environment, one after the other.  A value that takes
much room is cut in the middle.
-/

namespace FullText.CommandLine

open Text

/-- The longest beginning that takes at most so many bytes. -/
def takeBytes : Nat → List Char → List Char
  | _, [] => []
  | n, c :: rest => if c.utf8Size ≤ n then c :: takeBytes (n - c.utf8Size) rest else []

/-- The most bytes that a value may take. -/
def maxShownBytes : Nat := 50

/-- A value's text, cut in the middle to about the bytes that it may take. -/
def abridged (s : String) : String :=
  if s.utf8ByteSize ≤ maxShownBytes then s
  else
    String.ofList (takeBytes (maxShownBytes / 2) s.toList ++ "...".toList ++
      (takeBytes (maxShownBytes / 2 - 1) s.toList.reverse).reverse)

/-- One fault of a setting: the setting, and below it what is wrong with its value. -/
def faultLines (f : Fault) : String :=
  f.location ++ "\n  " ++ f.kind.message ++ " [type=" ++ f.kind.code ++ ", input_value=" ++
    abridged f.input.display ++ ", input_type=str]"

/-- The faults of settings. -/
def faultReport (faults : List Fault) : String :=
  toString faults.length ++ " validation error" ++ (if faults.length = 1 then "" else "s") ++ " for " ++
    Settings.title ++ "\n" ++ joined "\n" (faults.map faultLines)

end FullText.CommandLine
