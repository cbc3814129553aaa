import FullText.Value

/-!
# Faults

A `Fault` is one reason why a set of values was refused: where it lies, what is wrong, and the value as it was looked
at.  `FaultKind.message` is the wording, `FaultKind.code` the short name of the kind.
-/

namespace FullText

open Text

/-- What is wrong with a value. -/
inductive FaultKind where
  | unknownKey
  | notOneOf (words : List String)
  | notText
  | badLanguage
  | notInteger
  | fractional
  | notFinite
  | tooLarge
  | unreadableInteger
  | negative
  | notBoolean
  | unreadableBoolean
  | refused (reason : String)
  deriving DecidableEq, Repr, Inhabited

namespace FaultKind

/-- Quoted words as a list that ends in "or". -/
def alternatives : List String → String
  | [] => ""
  | [w] => quoted w
  | [v, w] => quoted v ++ " or " ++ quoted w
  | w :: rest => quoted w ++ ", " ++ alternatives rest

/-- The pattern of a language's name, as it is quoted to a user. -/
def languagePattern : String := "^[A-Za-z_][A-Za-z0-9_.]*$"

/-- The kind of fault in words. -/
def message : FaultKind → String
  | .unknownKey => "Extra inputs are not permitted"
  | .notOneOf words => "Input should be " ++ alternatives words
  | .notText => "Input should be a valid string"
  | .badLanguage => "String should match pattern '" ++ languagePattern ++ "'"
  | .notInteger => "Input should be a valid integer"
  | .fractional => "Input should be a valid integer, got a number with a fractional part"
  | .notFinite => "Input should be a finite number"
  | .tooLarge => "Unable to parse input string as an integer, exceeded maximum size"
  | .unreadableInteger => "Input should be a valid integer, unable to parse string as an integer"
  | .negative => "Input should be greater than or equal to 0"
  | .notBoolean => "Input should be a valid boolean"
  | .unreadableBoolean => "Input should be a valid boolean, unable to interpret input"
  | .refused reason => "Value error, " ++ reason

/-- The kind's short name. -/
def code : FaultKind → String
  | .unknownKey => "extra_forbidden"
  | .notOneOf _ => "enum"
  | .notText => "string_type"
  | .badLanguage => "string_pattern_mismatch"
  | .notInteger => "int_type"
  | .fractional => "int_from_float"
  | .notFinite => "finite_number"
  | .tooLarge => "int_parsing_size"
  | .unreadableInteger => "int_parsing"
  | .negative => "greater_than_equal"
  | .notBoolean => "bool_type"
  | .unreadableBoolean => "bool_parsing"
  | .refused _ => "value_error"

end FaultKind

/-- Why a value was refused: what is wrong with it, and the value as it was looked at. -/
structure Refusal where
  kind : FaultKind
  input : Value
  deriving Inhabited

/-- A refusal and where it lies. -/
structure Fault where
  location : String
  kind : FaultKind
  input : Value
  deriving Inhabited

/-- The fault of a refusal at a place. -/
def Refusal.at (r : Refusal) (location : String) : Fault := ⟨location, r.kind, r.input⟩

end FullText
