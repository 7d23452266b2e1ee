import DiveLink.Error
import DiveLink.Sample.Coded

/-!
# Events inside a dive

A dive computer notes events along a dive: a missed stop, a change of gas, a bookmark.  Each has a
kind, a value and a word of flags that holds whether the event begins or ends, how severe it is,
and what kind of remark it carries.

## Main definitions

* `EventKind`, `Severity`, `Remark` — the numbered properties of an event.
* `EventFlags`, `EventFlags.bits`, `EventFlags.ofBits` — the flags, and their word.
* `SampleEvent`, `SampleEvent.ofRaw` — an event, and its reading from plain numbers.
-/

namespace DiveLink

/-! ### Numbered properties -/

/-- What an event is about. -/
inductive EventKind
  | none | decoStop | rbt | ascent | ceiling | workload | transmitter | violation | bookmark
  | surface | safetyStop | gasChange | safetyStopVoluntary | safetyStopMandatory | deepStop
  | ceilingSafetyStop | floor | diveTime | maxDepth | olf | po2 | airTime | rgbm | heading
  | tissueLevel | gasChange2 | string
  deriving DecidableEq, Repr, Inhabited

instance : Coded EventKind where
  variants := [.none, .decoStop, .rbt, .ascent, .ceiling, .workload, .transmitter, .violation,
    .bookmark, .surface, .safetyStop, .gasChange, .safetyStopVoluntary, .safetyStopMandatory,
    .deepStop, .ceilingSafetyStop, .floor, .diveTime, .maxDepth, .olf, .po2, .airTime, .rgbm,
    .heading, .tissueLevel, .gasChange2, .string]
  name
    | .none => "None"
    | .decoStop => "DecoStop"
    | .rbt => "Rbt"
    | .ascent => "Ascent"
    | .ceiling => "Ceiling"
    | .workload => "Workload"
    | .transmitter => "Transmitter"
    | .violation => "Violation"
    | .bookmark => "Bookmark"
    | .surface => "Surface"
    | .safetyStop => "SafetyStop"
    | .gasChange => "GasChange"
    | .safetyStopVoluntary => "SafetyStopVoluntary"
    | .safetyStopMandatory => "SafetyStopMandatory"
    | .deepStop => "DeepStop"
    | .ceilingSafetyStop => "CeilingSafetyStop"
    | .floor => "Floor"
    | .diveTime => "DiveTime"
    | .maxDepth => "MaxDepth"
    | .olf => "Olf"
    | .po2 => "Po2"
    | .airTime => "AirTime"
    | .rgbm => "Rgbm"
    | .heading => "Heading"
    | .tissueLevel => "TissueLevel"
    | .gasChange2 => "GasChange2"
    | .string => "String"

/-- How serious an event is. -/
inductive Severity
  | missing | state | info | warn | alarm
  deriving DecidableEq, Repr, Inhabited

instance : Coded Severity where
  variants := [.missing, .state, .info, .warn, .alarm]
  name
    | .missing => "Missing"
    | .state => "State"
    | .info => "Info"
    | .warn => "Warn"
    | .alarm => "Alarm"

/-- What kind of remark an event carries. -/
inductive Remark
  | none | interest | navpoint | danger | animal | issue | injury
  deriving DecidableEq, Repr, Inhabited

instance : Coded Remark where
  variants := [.none, .interest, .navpoint, .danger, .animal, .issue, .injury]
  name
    | .none => "None"
    | .interest => "Interest"
    | .navpoint => "Navpoint"
    | .danger => "Danger"
    | .animal => "Animal"
    | .issue => "Issue"
    | .injury => "Injury"

/-! ### Flags -/

/-- The flags of an event. -/
structure EventFlags where
  starts : Bool
  ends : Bool
  severity : Severity
  remark : Remark
  deriving DecidableEq, Repr, Inhabited

namespace EventFlags

/-- The flags as one word: bit 0 begins, bit 1 ends, then three bits each of severity and
remark. -/
def bits (f : EventFlags) : Nat :=
  f.starts.toNat + 2 * f.ends.toNat + 4 * Coded.code f.severity + 32 * Coded.code f.remark

/-- The flags of a word.  Bits above the eighth are refused first, then a number that is no
severity, then one that is no remark. -/
def ofBits (w : Nat) : Except InvalidArgument EventFlags :=
  let unknown := 256 * (w / 256)
  let severity := w / 4 % 8
  let remark := w / 32 % 8
  if unknown ≠ 0 then .error (.flagBits unknown)
  else
    match Coded.ofCode? severity, Coded.ofCode? remark with
    | none, _ => .error (.severity severity)
    | some _, none => .error (.remark remark)
    | some s, some a =>
      .ok { starts := w % 2 == 1, ends := w / 2 % 2 == 1, severity := s, remark := a }

end EventFlags

/-! ### Events -/

/-- An event inside a dive. -/
structure SampleEvent where
  kind : EventKind
  time : Nat
  flags : EventFlags
  value : Nat
  name : Option String
  deriving DecidableEq, Repr, Inhabited

/-- The event given by plain numbers; the kind is checked before the flags. -/
def SampleEvent.ofRaw (kind time flags value : Nat) : Except InvalidArgument SampleEvent :=
  match Coded.ofCode? kind with
  | none => .error (.eventKind kind)
  | some k => (EventFlags.ofBits flags).map fun f => ⟨k, time, f, value, none⟩

end DiveLink
