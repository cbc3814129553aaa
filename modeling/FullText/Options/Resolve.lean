import FullText.Options.Layer

/-!
# Resolving overrides

Overrides come as nothing, as entries that are still to be read, or as a layer.  `Options.resolve` lays them over
options, or says which option is at fault.
-/

namespace FullText

/-- What is to be laid over options. -/
inductive Overrides where
  | nothing
  | entries (entries : Entries)
  | layer (layer : Layer)
  deriving Inhabited

/-- The layer that overrides stand for; the first fault of their entries is the error. -/
def Overrides.toLayer : Overrides → Except Error Layer
  | .nothing => .ok {}
  | .layer l => .ok l
  | .entries es =>
    match Layer.ofEntries es with
    | .ok l => .ok l
    | .error faults => .error (Error.ofFaults faults)

namespace Options

/-- Lays a layer over options, unless it makes an option null that may not be. -/
def resolveLayer (defaults : Options) (l : Layer) : Except Error Options :=
  match l.firstNull? with
  | some f => .error (.invalidOption f.name .null (some "option cannot be null"))
  | none => .ok (l.apply defaults)

/-- Lays overrides over options. -/
def resolve (defaults : Options) (overrides : Overrides) : Except Error Options := do
  let l ← overrides.toLayer
  defaults.resolveLayer l

/-- Lays overrides over options one after the other. -/
def resolveAll (defaults : Options) (layers : List Overrides) : Except Error Options := layers.foldlM resolve defaults

end Options

end FullText
