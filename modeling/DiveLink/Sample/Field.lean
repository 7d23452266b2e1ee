import DiveLink.Sample.Gas

/-!
# Facts about a whole dive

## Main definitions

* `Water`, `Salinity`, `DiveMode`, `DecoModelKind`, `DecoModel` — the circumstances of a dive.
* `Field`, `FieldKind`, `Field.kind` — a fact about a dive, and which fact it is.
-/

namespace DiveLink

/-- Fresh or salt water. -/
inductive Water
  | fresh | salt
  deriving DecidableEq, Repr, Inhabited

instance : Coded Water where
  variants := [.fresh, .salt]
  name
    | .fresh => "Fresh"
    | .salt => "Salt"

/-- The water of a dive and its density. -/
structure Salinity where
  water : Water
  density : Float
  deriving Repr, Inhabited

/-- How a dive was breathed. -/
inductive DiveMode
  | freedive | gauge | openCircuit | closedCircuit | semiClosedCircuit
  deriving DecidableEq, Repr, Inhabited

instance : Coded DiveMode where
  variants := [.freedive, .gauge, .openCircuit, .closedCircuit, .semiClosedCircuit]
  name
    | .freedive => "Freedive"
    | .gauge => "Gauge"
    | .openCircuit => "OpenCircuit"
    | .closedCircuit => "ClosedCircuit"
    | .semiClosedCircuit => "SemiClosedCircuit"

/-- The theory behind a decompression plan. -/
inductive DecoModelKind
  | none | buhlmann | vpm | rgbm | dciem
  deriving DecidableEq, Repr, Inhabited

instance : Coded DecoModelKind where
  variants := [.none, .buhlmann, .vpm, .rgbm, .dciem]
  name
    | .none => "None"
    | .buhlmann => "Buhlmann"
    | .vpm => "Vpm"
    | .rgbm => "Rgbm"
    | .dciem => "Dciem"

/-- Gradient factors, in percent. -/
structure GradientFactors where
  low : Nat
  high : Nat
  deriving DecidableEq, Repr, Inhabited

/-- A decompression model; a conservatism of zero is neutral, and a positive one more careful. -/
structure DecoModel where
  kind : DecoModelKind
  conservatism : Int
  factors : Option GradientFactors
  deriving DecidableEq, Repr, Inhabited

/-- Which fact about a dive. -/
inductive FieldKind
  | diveTime | maxDepth | avgDepth | gasMixCount | gasMix | salinity | atmospheric
  | temperatureSurface | temperatureMinimum | temperatureMaximum | tankCount | tank | diveMode
  | decoModel | string
  deriving DecidableEq, Repr, Inhabited

instance : Coded FieldKind where
  variants := [.diveTime, .maxDepth, .avgDepth, .gasMixCount, .gasMix, .salinity, .atmospheric,
    .temperatureSurface, .temperatureMinimum, .temperatureMaximum, .tankCount, .tank, .diveMode,
    .decoModel, .string]
  name
    | .diveTime => "DiveTime"
    | .maxDepth => "MaxDepth"
    | .avgDepth => "AvgDepth"
    | .gasMixCount => "GasMixCount"
    | .gasMix => "GasMix"
    | .salinity => "Salinity"
    | .atmospheric => "Atmospheric"
    | .temperatureSurface => "TemperatureSurface"
    | .temperatureMinimum => "TemperatureMinimum"
    | .temperatureMaximum => "TemperatureMaximum"
    | .tankCount => "TankCount"
    | .tank => "Tank"
    | .diveMode => "DiveMode"
    | .decoModel => "DecoModel"
    | .string => "String"

/-- A fact about a dive. -/
inductive Field
  /-- Seconds. -/
  | diveTime (seconds : Nat)
  | maxDepth (metres : Float)
  | avgDepth (metres : Float)
  | gasMixCount (count : Nat)
  | gasMix (mix : GasMix)
  | salinity (s : Salinity)
  | atmospheric (pressure : Float)
  | temperatureSurface (celsius : Float)
  | temperatureMinimum (celsius : Float)
  | temperatureMaximum (celsius : Float)
  | tankCount (count : Nat)
  | tank (t : Tank)
  | diveMode (m : DiveMode)
  | decoModel (m : DecoModel)
  | string (description value : String)
  deriving Repr, Inhabited

/-- Which fact a fact is. -/
def Field.kind : Field → FieldKind
  | diveTime _ => .diveTime
  | maxDepth _ => .maxDepth
  | avgDepth _ => .avgDepth
  | gasMixCount _ => .gasMixCount
  | gasMix _ => .gasMix
  | salinity _ => .salinity
  | atmospheric _ => .atmospheric
  | temperatureSurface _ => .temperatureSurface
  | temperatureMinimum _ => .temperatureMinimum
  | temperatureMaximum _ => .temperatureMaximum
  | tankCount _ => .tankCount
  | tank _ => .tank
  | diveMode _ => .diveMode
  | decoModel _ => .decoModel
  | string _ _ => .string

end DiveLink
