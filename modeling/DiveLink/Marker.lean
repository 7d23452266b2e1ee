import DiveLink.Dive

/-!
# Dives between markers

Some devices store dives back to back in a plain memory, each opened by a fixed header and closed
by a fixed footer.  The dives of a memory image are found from its end towards its start; the
footer of a dive has to come before the start of the dive found last.

## Main definitions

* `MarkerLayout` — the markers and the place of the timestamp.
* `MarkerLayout.endWithin` — where a dive ends.
* `MarkerLayout.walk` — the dives of a memory image, newest first.
* `Dive.timestamp` — the number by which such dives are told apart.
-/

namespace DiveLink

/-- How dives are marked in a plain memory. -/
structure MarkerLayout where
  header : Bytes
  footer : Bytes
  /-- Where the timestamp of a dive stands, from the start of its header. -/
  timestampOffset : Nat
  /-- How many bytes from the start of the header cannot hold the footer. -/
  skip : Nat
  deriving DecidableEq, Repr, Inhabited

/-- The timestamp of a dive, of which its fingerprint consists. -/
def Dive.timestamp (d : Dive) : Nat := d.fingerprint.le32

namespace MarkerLayout

/-- The length of `b` up to and with the first `footer`, if there is one, counted on from `n`. -/
def endFrom (footer : Bytes) : Nat → Bytes → Option Nat
  | n, [] => if footer = [] then some n else none
  | n, x :: b =>
    if footer.isPrefixOf (x :: b) then some (n + footer.length) else endFrom footer (n + 1) b

/-- The length of the dive at the front of `window`, a piece of memory that ends where the dive
found last begins. -/
def endWithin (l : MarkerLayout) (window : Bytes) : Option Nat :=
  if l.skip ≤ window.length then endFrom l.footer l.skip (window.drop l.skip) else none

/-- The walk back from a place in memory.  The bytes before the place are `before`, nearest first,
and those behind it `after`; the first `room` of these belong to no dive yet.  The next `jump`
positions cannot be the start of a dive. -/
def walkBack (l : MarkerLayout) : Nat → Nat → Bytes → Bytes → Walk
  | _, _, [], _ => .nothing
  | jump + 1, room, x :: before, after => walkBack l jump (room + 1) before (x :: after)
  | 0, room, x :: before, after =>
    if l.header.isPrefixOf (x :: after) then
      let window := (x :: after).take (room + 1)
      match l.endWithin window with
      | none => .broken (.noEndMarker before.length)
      | some n =>
        let fingerprint := Bytes.slice (x :: after) l.timestampOffset 4
        if fingerprint.length < 4 then .broken (.noTimestamp before.length)
        else
          .cons ⟨before.length, window.take n, fingerprint⟩
            (walkBack l l.header.length 0 before (x :: after))
    else walkBack l 0 (room + 1) before (x :: after)

/-- The dives of a memory image, newest first.  A header in its last bytes starts no dive. -/
def walk (l : MarkerLayout) (data : Bytes) : Walk :=
  walkBack l l.header.length 0 data.reverse []

/-- Whether a dive is not newer than a timestamp. -/
def isOld (cutoff : Option Nat) (d : Dive) : Bool :=
  match cutoff with
  | some t => decide (d.timestamp ≤ t)
  | none => false

end MarkerLayout

end DiveLink
