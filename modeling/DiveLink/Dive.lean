import DiveLink.Bytes
import DiveLink.Error

/-!
# Dives

Dives are taken out of a device's memory newest first.  A walk through the memory finds some dives
and ends in good order or at a fault; a caller who knows some of the dives already, or who has
seen enough, cuts the walk short.

## Main definitions

* `Dive` — a dive as it lies in memory.
* `Walk` — the dives that a walk finds, and the fault at its end.
* `Walk.cut` — a walk up to the first known dive, or to the dive at which the caller stops.
-/

namespace DiveLink

/-- A dive as it lies in memory. -/
structure Dive where
  /-- Where the dive begins: an address, or an offset in a memory image. -/
  start : Nat
  bytes : Bytes
  /-- The part of the bytes that tells the dive from all others. -/
  fingerprint : Bytes
  deriving DecidableEq, Repr, Inhabited

/-- What a walk through memory finds. -/
structure Walk where
  /-- The dives, newest first. -/
  dives : List Dive
  /-- The fault that ends the walk, if it does not end in good order. -/
  fault : Option DataFault
  deriving DecidableEq, Repr, Inhabited

namespace Walk

/-- A walk that ends where it begins. -/
def nothing : Walk := ⟨[], none⟩

/-- A walk that finds a fault at once. -/
def broken (f : DataFault) : Walk := ⟨[], some f⟩

/-- A walk that finds one more dive first. -/
def cons (d : Dive) (w : Walk) : Walk := ⟨d :: w.dives, w.fault⟩

@[simp] theorem cons_dives (d : Dive) (w : Walk) : (cons d w).dives = d :: w.dives := rfl

@[simp] theorem cons_fault (d : Dive) (w : Walk) : (cons d w).fault = w.fault := rfl

/-- The part of a walk that is handed out after the dives `seen`, latest first: it ends in good
order before a known dive, and behind a dive at which `keep` refuses to go on. -/
def cutAfter (known : Dive → Bool) (keep : List Dive → Bool) (fault : Option DataFault) :
    List Dive → List Dive → Walk
  | _, [] => ⟨[], fault⟩
  | seen, d :: ds =>
    if known d then nothing
    else if keep (d :: seen) then cons d (cutAfter known keep fault (d :: seen) ds)
    else cons d nothing

/-- The part of a walk that is handed out.  `keep` is given all dives handed out so far, latest
first, and says whether to go on. -/
def cut (known : Dive → Bool) (keep : List Dive → Bool) (w : Walk) : Walk :=
  cutAfter known keep w.fault [] w.dives

/-- Without a known dive and a caller who stops, the whole walk is handed out. -/
@[simp] theorem cut_none (w : Walk) : w.cut (fun _ => false) (fun _ => true) = w := by
  have go (seen ds : List Dive) :
      cutAfter (fun _ => false) (fun _ => true) w.fault seen ds = ⟨ds, w.fault⟩ := by
    induction ds generalizing seen with
    | nil => rfl
    | cons d ds ih => simp [cutAfter, ih, cons]
  exact go [] w.dives

end Walk

end DiveLink
