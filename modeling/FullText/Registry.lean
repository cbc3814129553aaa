import FullText.Plan.Compile

/-!
# Scopes and their registry

A `Scope` is a named search: columns and the options it was declared with.  A `Registry` keeps scopes in the order of
their registration, under names that are all different, and lends its own options to each of them.
-/

namespace FullText

open Text

/-- A named search. -/
structure Scope where
  name : String
  columns : List Column
  defaults : Options
  deriving DecidableEq, Repr, Inhabited

namespace Scope

/-- The layer of one use of the scope, which may repeat the scope's name but not change it. -/
def layerFor (s : Scope) (overrides : Overrides) : Except Error Layer := do
  let l ← overrides.toLayer
  match l.scopeName with
  | none => return l
  | some given =>
    if given = some s.name then return l
    else throw (.invalidOption OptionField.shortScopeKey ((given.map Value.text).getD .null)
      (some ("scope name is fixed at registration as " ++ quoted s.name)))

/-- The options of one use of the scope. -/
def optionsFor (s : Scope) (overrides : Overrides) : Except Error Options := do
  let l ← s.layerFor overrides
  s.defaults.resolveLayer l

/-- The plan of one use of the scope. -/
def compile (s : Scope) (text : Option String) (overrides : Overrides) : Except Error Plan := do
  let l ← s.layerFor overrides
  Plan.compile (s.columns.map Value.column) text s.defaults (.layer l)

end Scope

/-- The scopes registered so far, in order, and the options that they start from. -/
structure Registry where
  defaults : Options := Options.default
  scopes : List Scope := []
  deriving Repr, Inhabited

namespace Registry

/-- The registered names in order. -/
def names (r : Registry) : List String := r.scopes.map Scope.name

def size (r : Registry) : Nat := r.scopes.length

def find? (r : Registry) (name : String) : Option Scope := r.scopes.find? (·.name == name)

/-- The scope of a name. -/
def get (r : Registry) (name : String) : Except Error Scope :=
  match r.find? name with
  | some s => .ok s
  | none => .error (.unknownScope name)

/-- The scope that columns and options describe, before it is known whether its name is free. -/
def declare (r : Registry) (columns : List Value) (options : Entries) : Except Error Scope := do
  if columns.isEmpty then throw (.noColumns .scope)
  let columns ← columnsOf columns
  let o ← r.defaults.resolve (.entries options)
  let name := (o.scopeName.filter (· ≠ "")).getD (scopeNameOf columns)
  return { name, columns, defaults := { o with scopeName := some name } }

/-- Registers a scope under a name that is still free. -/
def register (r : Registry) (columns : List Value) (options : Entries) : Except Error (Scope × Registry) := do
  let s ← r.declare columns options
  if (r.find? s.name).isSome then throw (.scopeTaken s.name)
  return (s, { r with scopes := r.scopes ++ [s] })

end Registry

/-! ## Runs -/

/-- One request to a registry. -/
inductive Request where
  | register (columns : List Value) (options : Entries)
  | get (name : String)
  /-- Compiles a search through the scope of a name. -/
  | compile (name : String) (text : Option String) (overrides : Overrides)
  /-- The same with overrides that are first read as a layer of their own. -/
  | compileLayer (name : String) (text : Option String) (options : Entries)
  | contains (name : String)
  /-- Asks for the scopes in order. -/
  | iterate
  deriving Inhabited

/-- What a registry answers. -/
inductive Reply where
  | scope (s : Scope)
  /-- A plan, with the options it was made by. -/
  | plan (p : Plan) (o : Options)
  | bool (b : Bool)
  | scopes (scopes : List Scope)
  deriving Inhabited

namespace Registry

/-- The plan of a use of a registered scope, with the options of that use. -/
def search (r : Registry) (name : String) (text : Option String) (overrides : Overrides) : Except Error Reply := do
  let s ← r.get name
  let p ← s.compile text overrides
  let o ← s.optionsFor overrides
  return .plan p o

/-- Answers a request; only a registration that succeeds changes the registry. -/
def answer (r : Registry) : Request → Except Error Reply × Registry
  | .register columns options =>
    match r.register columns options with
    | .ok (s, r') => (.ok (.scope s), r')
    | .error e => (.error e, r)
  | .get name => ((r.get name).map .scope, r)
  | .compile name text overrides => (r.search name text overrides, r)
  | .compileLayer name text options =>
    (do
      let _ ← r.get name
      match Layer.ofEntries options with
      | .ok l => r.search name text (.layer l)
      | .error faults => throw (.rejected "SearchOptionsOverride" faults), r)
  | .contains name => (.ok (.bool (r.find? name).isSome), r)
  | .iterate => (.ok (.scopes r.scopes), r)

/-- Answers requests in turn: each answer with the registry after it. -/
def run (r : Registry) : List Request → List (Except Error Reply × Registry)
  | [] => []
  | q :: rest => (r.answer q) :: (r.answer q).2.run rest

/-- The registry after some requests. -/
def after (r : Registry) (requests : List Request) : Registry := requests.foldl (fun r q => (r.answer q).2) r

/-! ## Small facts -/

/-- A registration succeeds when the scope is declared under a free name, and then puts it last. -/
theorem register_eq_ok {r r' : Registry} {columns : List Value} {options : Entries} {s : Scope} :
    r.register columns options = .ok (s, r') ↔
      r.declare columns options = .ok s ∧ r.find? s.name = none ∧ r' = { r with scopes := r.scopes ++ [s] } := by
  unfold register
  cases h : r.declare columns options with
  | error e => simp [bind, Except.bind]
  | ok t =>
    simp only [bind, Except.bind]
    cases hf : r.find? t.name with
    | none =>
      simp only [Option.isSome_none, Bool.false_eq_true, if_false, pure, Except.pure, Except.ok.injEq, Prod.mk.injEq]
      constructor
      · rintro ⟨rfl, rfl⟩; exact ⟨rfl, hf, rfl⟩
      · rintro ⟨rfl, -, rfl⟩; exact ⟨rfl, rfl⟩
    | some u =>
      simp only [Option.isSome_some, if_true, throw, throwThe, MonadExceptOf.throw]
      constructor
      · rintro ⟨⟩
      · rintro ⟨h1, h2, -⟩
        rw [Except.ok.injEq] at h1
        rw [h1, h2] at hf
        cases hf

/-- A request that fails leaves the registry as it is. -/
theorem answer_of_error {r : Registry} {q : Request} {e : Error} (h : (r.answer q).1 = .error e) :
    (r.answer q).2 = r := by
  cases q with
  | register columns options =>
    simp only [answer] at h ⊢
    split at h
    · cases h
    · rfl
  | _ => rfl

end Registry

end FullText
