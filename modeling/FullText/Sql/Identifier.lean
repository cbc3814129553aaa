/-!
# SQL identifiers

`identifier s` writes a name in SQL.  A name of small letters, digits, `_` and `$` that begins with neither digit nor
`$` and is no reserved word stands for itself; every other name goes between double quotes, with a double quote and a
percent sign doubled.  The small letters are those whose capital is an ASCII letter.
-/

namespace FullText.Sql

/-- The words that name something only between quotes. -/
def reservedWords : List String := [
  "all", "analyse", "analyze", "and", "any", "array", "as", "asc", "asymmetric", "authorization", "between", "binary",
  "both", "case", "cast", "check", "collate", "column", "constraint", "create", "cross", "current_catalog",
  "current_date", "current_role", "current_schema", "current_time", "current_timestamp", "current_user", "default",
  "deferrable", "desc", "distinct", "do", "else", "end", "except", "false", "fetch", "for", "foreign", "freeze", "from",
  "full", "grant", "group", "having", "ilike", "in", "initially", "inner", "intersect", "into", "is", "isnull", "join",
  "leading", "left", "like", "limit", "localtime", "localtimestamp", "natural", "new", "not", "notnull", "null", "of",
  "off", "offset", "old", "on", "only", "or", "order", "outer", "over", "overlaps", "placing", "primary", "references",
  "returning", "right", "select", "session_user", "similar", "some", "symmetric", "table", "then", "to", "trailing",
  "true", "union", "unique", "user", "using", "variadic", "verbose", "when", "where", "window", "with"]

/-- The small letters of ASCII, the dotless i and the long s. -/
def isSmallLetter (c : Char) : Bool := c.isLower || c = 'ı' || c = 'ſ'

/-- Whether a character may begin a name that stands for itself. -/
def isPlainStart (c : Char) : Bool := isSmallLetter c || c = '_'

/-- Whether a character may stand in such a name. -/
def isPlainChar (c : Char) : Bool := isSmallLetter c || c.isDigit || c = '_' || c = '$'

/-- The characters before a line feed at the very end. -/
def beforeFinalLineFeed (cs : List Char) : List Char := if cs.getLast? = some '\n' then cs.dropLast else cs

/-- Whether a name stands for itself.  A line feed at its end does not count. -/
def isPlain (s : String) : Bool :=
  match s.toList with
  | [] => false
  | c :: rest => isPlainStart c && (beforeFinalLineFeed rest).all isPlainChar && !reservedWords.contains s

/-- Writes the characters of some class twice. -/
def doubling (twice : Char → Bool) (cs : List Char) : List Char := cs.flatMap fun c => if twice c then [c, c] else [c]

/-- A name as it is written in SQL. -/
def identifier (s : String) : String :=
  if isPlain s then s
  else String.ofList ('"' :: doubling (fun c => c = '"' || c = '%') s.toList ++ ['"'])

end FullText.Sql
