import DiveLink.Port.Host

/-!
# Scripts for a test bench

A script says at which calls something goes wrong: a call can fail, a transfer can be cut short, and
a token can be cancelled just then.  Calls are counted by name.

## Main definitions

* `Bench.Trigger` — the calls at which something happens.
* `Bench.Fault`, `Bench.Mishap` — what goes wrong.
* `Bench.Script`, `Bench.Script.enter` — a script, and what it has in store for the next call.
-/

namespace DiveLink.Bench

/-- The calls at which something happens. -/
structure Trigger where
  /-- The name of the call. -/
  call : String
  /-- Which call of that name, counted from one; zero stands for every one. -/
  nth : Nat
  deriving DecidableEq, Repr, Inhabited

/-- Whether a trigger is meant for the `n`th call of a name. -/
def Trigger.hits (t : Trigger) (call : String) (n : Nat) : Bool :=
  t.call == call && (t.nth == 0 || t.nth == n)

/-- What goes wrong at a call. -/
inductive Mishap
  | fails (e : PortError)
  /-- At most so many bytes are moved. -/
  | short (n : Nat)
  deriving DecidableEq, Repr, Inhabited

/-- The failure that a mishap brings about. -/
def Mishap.failure? : Mishap → Option PortError
  | fails e => some e
  | short _ => none

/-- The most bytes that are moved after a mishap. -/
def Mishap.limit? : Mishap → Option Nat
  | fails _ => none
  | short n => some n

/-- Something that goes wrong. -/
structure Fault where
  trigger : Trigger
  mishap : Mishap
  deriving DecidableEq, Repr, Inhabited

/-- What a script has in store for one call. -/
structure Occasion where
  cancels : Bool
  failure : Option PortError
  /-- The most bytes that are moved. -/
  limit : Option Nat
  deriving DecidableEq, Repr, Inhabited

/-- What goes wrong at which calls, and how many calls of each name there were. -/
structure Script where
  faults : List Fault := []
  cancels : List Trigger := []
  counts : List (String × Nat) := []
  deriving DecidableEq, Repr, Inhabited

namespace Script

/-- How many calls of a name there were. -/
def count (s : Script) (call : String) : Nat := (s.counts.lookup call).getD 0

/-- What happens at the next call of a name, and the script behind it.  Of several failures the
first counts, and of several limits the least. -/
def enter (s : Script) (call : String) : Occasion × Script :=
  let n := s.count call + 1
  let mishaps := (s.faults.filter (·.trigger.hits call n)).map Fault.mishap
  ({ cancels := s.cancels.any (·.hits call n)
     failure := mishaps.findSome? Mishap.failure?
     limit := (mishaps.filterMap Mishap.limit?).min? },
    { s with counts := (call, n) :: s.counts.filter (·.1 != call) })

/-- The script with other faults, its counts restarted. -/
def restart (s : Script) (faults : List Fault) : Script := { s with faults, counts := [] }

end Script

/-- `n`, or the limit if that is less. -/
def atMost (limit : Option Nat) (n : Nat) : Nat := limit.elim n (min n)

end DiveLink.Bench
