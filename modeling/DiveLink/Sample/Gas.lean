import DiveLink.Sample.Coded

/-!
# Gases and tanks

## Main definitions

* `Usage`, `GasMix`, `GasMix.ofOxygenHelium` — breathing gases and what they are for.
* `TankInfo`, `TankInfo.contains` — unit system and role of a tank, as a set of bits.
* `Tank`, `Tank.rawGas`, `Tank.setRawGas` — a tank, and its gas as a plain number.
-/

namespace DiveLink

/-- What a gas or a tank is used for. -/
inductive Usage
  | none | oxygen | diluent | sidemount
  deriving DecidableEq, Repr, Inhabited

instance : Coded Usage where
  variants := [.none, .oxygen, .diluent, .sidemount]
  name
    | .none => "None"
    | .oxygen => "Oxygen"
    | .diluent => "Diluent"
    | .sidemount => "Sidemount"

/-- A breathing gas, as fractions of one. -/
structure GasMix where
  helium : Float
  oxygen : Float
  nitrogen : Float
  usage : Usage
  deriving Repr, Inhabited

/-- The gas with so much oxygen and helium; nitrogen makes up what they leave. -/
def GasMix.ofOxygenHelium (oxygen helium : Float) : GasMix :=
  { helium, oxygen, nitrogen := 1.0 - oxygen - helium, usage := .none }

/-- Unit system and closed-circuit role of a tank, a bit each. -/
structure TankInfo where
  bits : UInt32
  deriving DecidableEq, Repr, Inhabited

namespace TankInfo

/-- No bit at all. -/
def none : TankInfo := ⟨0⟩

/-- Filled in metric units. -/
def metric : TankInfo := ⟨1⟩

/-- Filled in imperial units. -/
def imperial : TankInfo := ⟨2⟩

/-- The diluent of a closed circuit. -/
def diluent : TankInfo := ⟨4⟩

/-- The oxygen of a closed circuit. -/
def oxygen : TankInfo := ⟨8⟩

/-- Every bit of either. -/
def union (a b : TankInfo) : TankInfo := ⟨a.bits ||| b.bits⟩

/-- Whether every bit of `b` is one of `a`. -/
def contains (a b : TankInfo) : Bool := a.bits &&& b.bits == b.bits

end TankInfo

/-- A tank.  Volumes are water capacity in litres, whatever the units of its filling. -/
structure Tank where
  gas : Option UInt32
  kind : TankInfo
  volume : Float
  workPressure : Float
  beginPressure : Float
  endPressure : Float
  usage : Usage
  deriving Repr, Inhabited

namespace Tank

/-- A tank of which nothing is known. -/
def unknown : Tank := ⟨none, .none, 0, 0, 0, 0, .none⟩

/-- The number that stands for a gas that is not known. -/
def unknownGas : UInt32 := 0xFFFFFFFF

/-- The place of the tank's gas among the gases, as a plain number. -/
def rawGas (t : Tank) : UInt32 := t.gas.getD unknownGas

/-- The tank with its gas given as a plain number. -/
def setRawGas (t : Tank) (n : UInt32) : Tank :=
  { t with gas := if n = unknownGas then none else some n }

@[simp] theorem rawGas_setRawGas (t : Tank) (n : UInt32) : (t.setRawGas n).rawGas = n := by
  unfold setRawGas rawGas
  split <;> simp_all

end Tank

end DiveLink
