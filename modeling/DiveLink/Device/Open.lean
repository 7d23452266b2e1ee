import DiveLink.Device
import DiveLink.Port.SerialLine

/-!
# Opening devices on serial ports

## Main definitions

* `Device.openPort` — sets up a device on a port of the host.
-/

namespace DiveLink.Device

variable {η : Type} [SerialHost η]

/-- What the user is told when a device is open. -/
def openedNote (family : Family) (port : String) : String :=
  "opened " ++ family.description ++ " on " ++ port

/-- Sets up a device of a family on the port that a name stands for. -/
def openPort (family : Family) (port : String) (force : Bool) (token : CancelToken)
    (p : Ports η) : Opening (SerialLine η) (Ports η) :=
  match SerialLine.openNamed port force p with
  | (.error e, p) => .refused (.io e) p []
  | (.ok line, _) =>
    match openLink family line token with
    | .opened device => .opened (device.note (openedNote family port))
    | .refused e line past => .refused e line.ports past

end DiveLink.Device
