import DiveLink.Port.Host
import DiveLink.Text.Quoted

/-!
# Choosing a port

A port is chosen by name, or as the first that looks like the interface of a dive computer and is
not in use.  A port in use is opened only by force.

## Main definitions

* `PortInfo.isCompatible` — whether a port looks like the interface of a dive computer.
* `OpenRefusal` — why no port is opened.
* `Ports.resolve` — the port that a name stands for.
* `Ports.openNamed` — opens a port.
-/

namespace DiveLink

/-- Vendor and product of the cables that dive computers come with. -/
def compatibleIds : List (Nat × Nat) :=
  [(0x0403, 0x6001), (0x0403, 0x6015), (0x067B, 0x2303), (0x10C4, 0xEA60)]

/-- Whether a port looks like the interface of a dive computer. -/
def PortInfo.isCompatible (p : PortInfo) : Bool :=
  match p.kind with
  | .usb vendor product => compatibleIds.contains (vendor, product)
  | _ => false

/-- Why no port is opened. -/
inductive OpenRefusal
  | noCompatiblePort
  | busy (name : String)
  deriving DecidableEq, Repr, Inhabited

/-- The text of a refusal. -/
def OpenRefusal.message : OpenRefusal → String
  | noCompatiblePort => "no dive computer compatible ports found"
  | busy name => quoted name ++ " busy"

/-- A refusal as a failed input or output operation. -/
def OpenRefusal.toIoError (r : OpenRefusal) : IoError :=
  match r with
  | noCompatiblePort => ⟨.notFound, r.message⟩
  | busy _ => ⟨.addrInUse, r.message⟩

/-- The name that stands for whichever port is compatible. -/
def anyPort : String := "auto"

/-- The rate at which a port is opened. -/
def initialBaud : Nat := 9600

namespace Ports

variable {η : Type} [SerialHost η]

/-- The port that a name stands for. -/
def resolve (name : String) (p : Ports η) : Except IoError String × Ports η :=
  if name = anyPort then
    match p.list with
    | (.error e, p) => (.error e.toIoError, p)
    | (.ok infos, p) =>
      match infos.find? fun i => i.isCompatible && !SerialHost.held i.name p.host with
      | some i => (.ok i.name, p)
      | none => (.error (OpenRefusal.toIoError .noCompatiblePort), p)
  else (.ok name, p)

/-- Opens the port that a name stands for and gives its own name.  Without `force` a port in use is
not opened. -/
def openNamed (name : String) (force : Bool) (p : Ports η) : Except IoError String × Ports η :=
  match p.resolve name with
  | (.error e, p) => (.error e, p)
  | (.ok port, p) =>
    if !force && SerialHost.held port p.host then
      (.error (OpenRefusal.toIoError (.busy port)), p)
    else
      match p.call port (.openAt initialBaud) with
      | (reply, p) =>
        match reply.failure with
        | some e => (.error e.toIoError, p)
        | none => (.ok port, p)

end Ports

end DiveLink
