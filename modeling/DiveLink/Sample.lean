import DiveLink.Bytes
import DiveLink.Sample.EventFlags
import DiveLink.Sample.Field

/-!
# Samples

A dive is a stream of samples; a time opens a group of values that belong to that moment.

## Main definitions

* `DecoKind`, `Deco` — what the computer asks the diver to do.
* `Sample` — one value along a dive.
* `Sample.rawSensor` — the oxygen sensor behind a sample, as a plain number.
-/

namespace DiveLink

/-- What kind of stop is due. -/
inductive DecoKind
  | ndl | safetyStop | decoStop | deepStop
  deriving DecidableEq, Repr, Inhabited

instance : Coded DecoKind where
  variants := [.ndl, .safetyStop, .decoStop, .deepStop]
  name
    | .ndl => "Ndl"
    | .safetyStop => "SafetyStop"
    | .decoStop => "DecoStop"
    | .deepStop => "DeepStop"

/-- The stop that is due: its time or the time left without one, its depth, and the time to the
surface, in seconds. -/
structure Deco where
  kind : DecoKind
  time : Nat
  depth : Float
  surfaceTime : Nat
  deriving Repr, Inhabited

/-- One value along a dive. -/
inductive Sample
  /-- Milliseconds since the start of the dive. -/
  | time (ms : Nat)
  | depth (metres : Float)
  | pressure (tank : Nat) (value : Float)
  | temperature (celsius : Float)
  | event (e : SampleEvent)
  | rbt (minutes : Nat)
  | heartbeat (rate : Nat)
  | bearing (degrees : Nat)
  | vendor (kind : Nat) (data : Bytes)
  | setpoint (value : Float)
  | ppo2 (sensor : Option UInt32) (value : Float)
  | cns (fraction : Float)
  | deco (d : Deco)
  | gasMix (index : Nat)
  /-- Seconds to the surface. -/
  | tts (seconds : Nat)
  deriving Repr, Inhabited

/-- The number that stands for no sensor in particular. -/
def Sample.noSensor : UInt32 := 0xFFFFFFFF

/-- The sensor that a sample of oxygen pressure comes from, as a plain number; other samples have
none. -/
def Sample.rawSensor : Sample → Option UInt32
  | ppo2 sensor _ => some (sensor.getD noSensor)
  | _ => none

end DiveLink
