import FullText.Sql.Expr
import FullText.Text.Blank

/-!
# Symbols

The parameters and the labels of a printed statement are its symbols.

* A column of a subquery is labelled by its own name.  Every other symbol has a stem, and the symbols of one stem are
  numbered in the order in which they first appear (`Symbol.fullName`).
* A name of more than `maxNameLength` characters is cut there and gets a number of its own, in hexadecimal digits: the
  cut parameters are numbered in the order in which they first appear, and so are the cut labels (`Symbol.name`).
-/

namespace FullText.Sql

open Text

/-! ## Stems -/

/-- The characters that no stem has. -/
def isStemBreak (c : Char) : Bool := ['%', '(', ')', ' ', '$', ':', '.', '[', ']'].contains c

/-- Characters with an underscore for each run of breaks; `inRun` says that a break came just before. -/
def mergeBreaks : Bool → List Char → List Char
  | _, [] => []
  | inRun, c :: rest =>
    if isStemBreak c then if inRun then mergeBreaks true rest else '_' :: mergeBreaks true rest
    else c :: mergeBreaks false rest

/-- The stem of a parameter that is compared with a column; it has no underscores at its ends. -/
def comparisonStem (column : String) : String :=
  String.ofList (trim (· == '_') (mergeBreaks false column.toList))

/-- The stem of the labels that tell a repeated column from its first appearance. -/
def repeatStem (column : String) : String := String.ofList (mergeBreaks false (column.toList ++ ['_']))

/-- The beginning of a parameter's name: after the operand that it goes with, if that has a name. -/
def Role.stem : Role → String
  | .blank _ | .separator 0 => "coalesce"
  | .comparison column => comparisonStem column
  | _ => "param"

/-! ## Symbols and their names -/

/-- The label of a column. -/
inductive Label where
  /-- The label of a subquery's column that has a name. -/
  | column (name : String)
  /-- The label of a subquery's column that has none. -/
  | nameless
  /-- The label of a column that is shown again, for the `index`th time. -/
  | repeated (name : String) (index : Nat)
  deriving DecidableEq, Repr, Inhabited

/-- What is named by the way in which a statement is printed. -/
inductive Symbol where
  | parameter (slot : Slot)
  | label (l : Label)
  deriving DecidableEq, Repr, Inhabited

/-- Where a name comes from. -/
inductive Naming where
  | own (name : String)
  | numbered (stem : String)
  deriving DecidableEq, Repr, Inhabited

namespace Symbol

def isLabel : Symbol → Bool
  | .label _ => true
  | .parameter _ => false

def naming : Symbol → Naming
  | .parameter slot => .numbered slot.role.stem
  | .label (.column name) => .own name
  | .label .nameless => .numbered "anon"
  | .label (.repeated name _) => .numbered (repeatStem name)

/-- The symbols that appear before a symbol, among the symbols of a statement. -/
def earlier (symbols : List Symbol) (s : Symbol) : List Symbol := symbols.takeWhile (· != s)

/-- The name of a symbol before it is cut. -/
def fullName (symbols : List Symbol) (s : Symbol) : String :=
  match s.naming with
  | .own name => name
  | .numbered stem =>
    stem ++ "_" ++ toString (((earlier symbols s).filter (·.naming == .numbered stem)).length + 1)

/-- Names of more characters are cut. -/
def maxNameLength : Nat := 57

/-- Whether the name of a symbol has to be cut. -/
def isCut (symbols : List Symbol) (s : Symbol) : Bool := maxNameLength < (fullName symbols s).length

/-- The name of a symbol among the symbols of a statement, which are listed in the order of their first appearance. -/
def name (symbols : List Symbol) (s : Symbol) : String :=
  let full := fullName symbols s
  if isCut symbols s then
    let cut := (earlier symbols s).filter fun t => t.isLabel == s.isLabel && isCut symbols t
    String.ofList (full.toList.take maxNameLength ++ '_' :: Nat.toDigits 16 (cut.length + 1))
  else full

end Symbol

end FullText.Sql
