import DiveLink.Proofs.Port.Wire

/-!
# A port that cuts its wire by plan

A wire that is laid out beforehand, and a host that cuts it into pieces of any sizes.  Whatever the
sizes are and wherever interruptions are put in, it is the same wire that is cut.

## Main definitions

* `Tape` — a wire of which all that comes in is laid out.
* `Cutter` — a host that cuts a tape into pieces by plan.

## Main results

* `Cutter.cuts`, `Cutter.honest` — **whatever the plan, the tape is cut**, and no call moves more
  than it is asked for.
-/

namespace DiveLink

/-! ### Tapes -/

/-- A wire on which some bytes come in, with silences between them, until it is gone.  It takes all
bytes that go out. -/
structure Tape where
  /-- The next bytes; a silence is none. -/
  slots : List (Option UInt8)
  deriving DecidableEq, Repr

/-- The failure of a wire that is gone. -/
def Tape.gone : PortError := ⟨.io .brokenPipe, "gone"⟩

instance : Wire Tape where
  pull t :=
    match t.slots with
    | [] => (.error (some Tape.gone.toIoError), t)
    | none :: slots => (.error none, ⟨slots⟩)
    | some b :: slots => (.ok b, ⟨slots⟩)
  push _ t := (.ok (), t)
  control _ t := (none, t)
  cancelled _ _ := false

namespace Tape

/-- The next bytes that come in before a silence, `n` of them at most. -/
def next : Nat → List (Option UInt8) → Bytes
  | n + 1, some b :: slots => b :: next n slots
  | _, _ => []

theorem length_next_le : ∀ (n : Nat) (slots : List (Option UInt8)), (next n slots).length ≤ n
  | 0, _ => Nat.zero_le _
  | _ + 1, [] => Nat.zero_le _
  | _ + 1, none :: _ => Nat.zero_le _
  | n + 1, some _ :: slots => Nat.succ_le_succ (length_next_le n slots)

/-- The next bytes come in one by one. -/
theorem moves_next : ∀ (n : Nat) (slots : List (Option UInt8)),
    Wire.moves (List.replicate (next n slots).length Wire.pull) (Tape.mk slots) =
      ((next n slots, none), ⟨slots.drop (next n slots).length⟩)
  | 0, _ => rfl
  | _ + 1, [] => rfl
  | _ + 1, none :: _ => rfl
  | n + 1, some b :: slots => by
    show Wire.moves (Wire.pull :: List.replicate (next n slots).length Wire.pull) _ = _
    rw [Wire.moves]
    show (let r := Wire.moves (List.replicate (next n slots).length Wire.pull) (Tape.mk slots)
      ((b :: r.1.1, r.1.2), r.2)) = _
    rw [moves_next n slots]
    rfl

/-- All bytes go out. -/
theorem moves_write (t : Tape) : ∀ data : Bytes,
    Wire.moves (PortCall.write data).steps t = ((data, none), t)
  | [] => rfl
  | b :: data => by
    show (let r := Wire.moves (PortCall.write data).steps t; ((b :: r.1.1, r.1.2), r.2)) = _
    rw [moves_write t data]

end Tape

/-! ### Hosts -/

/-- A host whose ports cut a tape. -/
structure Cutter where
  tape : Tape
  /-- How many bytes the next calls move at most; zero stands for an interruption, and behind the
  plan each call moves all it can. -/
  plan : List Nat
  /-- Whether a silence is one that took too long, or a call that moves nothing. -/
  late : Bool
  deriving DecidableEq, Repr

namespace Cutter

/-- What is said of an interruption. -/
def interruption : PortError := ⟨.io .interrupted, "interrupted"⟩

/-- What is said of a silence that took too long. -/
def lateness : PortError := ⟨.io .timedOut, "timed out"⟩

/-- The reply to a read of `n` bytes. -/
def read (n : Nat) (h : Cutter) : PortReply × Cutter :=
  match Tape.next n h.tape.slots, h.tape.slots with
  | [], [] => ({ failure := some Tape.gone }, h)
  | [], _ :: slots =>
    ({ failure := if h.late then some lateness else none }, { h with tape := ⟨slots⟩ })
  | bytes, slots => ({ received := bytes }, { h with tape := ⟨slots.drop bytes.length⟩ })

/-- The reply to a call that moves `k` bytes at most. -/
def serve (k : Nat) (h : Cutter) : PortCall → PortReply × Cutter
  | .read n => read (min k n) h
  | .write data => ({ accepted := min k data.length }, h)
  | _ => ({}, h)

/-- The reply to a call. -/
def reply (c : PortCall) (h : Cutter) : PortReply × Cutter :=
  if c.size = 0 then ({}, h)
  else
    match h.plan with
    | [] => serve c.size h c
    | 0 :: plan => ({ failure := some interruption }, { h with plan := plan })
    | (k + 1) :: plan => serve (k + 1) { h with plan := plan } c

variable {k n : Nat} {c : PortCall} {h : Cutter} {t : Tape}

/-- A read takes the next piece of the tape, or stops with it. -/
theorem takes_read (hk : 0 < k) (hn : 0 < n) :
    ∃ t', Takes (.read n) (read (min k n) h).1 h.tape t' ∧ (read (min k n) h).2.tape = t' := by
  obtain ⟨m, hm⟩ : ∃ m, min k n = m + 1 := ⟨min k n - 1, by omega⟩
  obtain ⟨n, rfl⟩ : ∃ l, n = l + 1 := ⟨n - 1, by omega⟩
  obtain ⟨⟨slots⟩, plan, late⟩ := h
  have hlength := Tape.length_next_le (m + 1) slots
  have hmoves := Tape.moves_next (m + 1) slots
  rw [hm]
  cases slots with
  | nil => exact ⟨_, .stopped rfl (fun h => absurd h (by simp [read, Tape.next])) rfl, rfl⟩
  | cons slot slots =>
    cases slot with
    | none =>
      refine ⟨_, .stopped ?_ ?_ ?_, rfl⟩
      · cases late <;> rfl
      · exact fun _ => rfl
      · cases late <;> rfl
    | some b =>
      have hall : (PortCall.read (n + 1)).moved (read (m + 1) ⟨⟨some b :: slots⟩, plan, late⟩).1 =
          Tape.next (m + 1) (some b :: slots) :=
        List.take_of_length_le (Nat.le_trans hlength (by omega))
      refine ⟨_, .piece rfl (by rw [hall]; exact List.cons_ne_nil _ _) ?_, rfl⟩
      rw [hall, PortCall.steps, List.take_replicate, Nat.min_eq_left (by omega)]
      exact hmoves

/-- A write is taken as far as the call goes. -/
theorem takes_write {data : Bytes} (hk : 0 < k) (hdata : 0 < data.length) :
    Takes (.write data) { accepted := min k data.length } t t := by
  have hmoved : (PortCall.write data).moved { accepted := min k data.length } =
      data.take (min k data.length) := rfl
  have hne : data.take (min k data.length) ≠ [] := by
    rw [← List.length_pos_iff, List.length_take]
    omega
  refine .piece rfl hne ?_
  rw [hmoved, PortCall.steps, List.length_take, Nat.min_assoc, Nat.min_self, ← List.map_take]
  exact Tape.moves_write t _

/-- What is not an interruption by plan is none. -/
theorem interrupted_serve (k : Nat) (h : Cutter) (c : PortCall) :
    (serve k h c).1.interrupted = false := by
  cases c with
  | read n =>
    show (read (min k n) h).1.interrupted = false
    unfold read
    split
    · rfl
    · cases h.late <;> rfl
    · rfl
  | _ => rfl

instance : SerialHost Cutter where
  available _ := .ok []
  glob _ _ := some []
  readLink _ _ := none
  call _ := reply
  sleep _ h := h
  clock _ := 0
  cancelled _ _ := false
  now _ := 0
  restless _ _ h := h.plan.length
  restless_call := by
    intro _ c h hc hinterrupted
    unfold reply at hinterrupted ⊢
    rw [if_neg (Nat.ne_of_gt hc)] at hinterrupted ⊢
    split at hinterrupted
    · exact absurd ((interrupted_serve _ _ _).symm.trans hinterrupted) (by decide)
    · next plan hplan => rw [hplan]; exact Nat.lt_succ_self _
    · exact absurd ((interrupted_serve _ _ _).symm.trans hinterrupted) (by decide)

/-- A line on a host that cuts the bytes of a tape by plan. -/
def line (bytes : Bytes) (plan : List Nat) (late : Bool) : SerialLine Cutter :=
  ⟨⟨⟨⟨bytes.map some⟩, plan, late⟩, []⟩, "port", .n81 9600, false⟩

example : ((line [5, 6, 7, 8] [1, 0, 0, 2] true).ports.transfer "port" (.read 3)).1 =
    ([5, 6, 7], none) := by
  cbv

/-- A call that moves as many bytes as the plan allows takes its piece of the tape. -/
theorem takes_serve (hk : 0 < k) (hc : 0 < c.size) :
    ∃ t', Takes c (serve k h c).1 h.tape t' ∧ (serve k h c).2.tape = t' := by
  cases c with
  | read n => exact takes_read hk hc
  | write data => exact ⟨_, takes_write hk hc, rfl⟩
  | _ => exact absurd hc (Nat.lt_irrefl 0)

/-- **Whatever the plan, the tape is cut.** -/
theorem cuts (port : String) : Cuts port fun (h : Cutter) (t : Tape) => h.tape = t where
  transfer := by
    rintro h _ c rfl hc
    show ∃ t', Takes c (reply c h).1 h.tape t' ∧ (reply c h).2.tape = t'
    unfold reply
    rw [if_neg (Nat.ne_of_gt hc)]
    split
    · exact takes_serve hc hc
    · exact ⟨_, .interrupted rfl, rfl⟩
    · exact takes_serve (Nat.succ_pos _) hc
  control := by
    rintro h _ c rfl hc
    have hsize : c.size = 0 := by
      cases c with
      | read n => exact Bool.noConfusion hc
      | write data => exact Bool.noConfusion hc
      | _ => rfl
    show (reply c h).1.failure.map _ = none ∧ (reply c h).2.tape = h.tape
    rw [reply, if_pos hsize]
    exact ⟨rfl, rfl⟩
  sleep _ h := h
  cancelled _ _ := rfl

theorem fits_serve (k : Nat) (h : Cutter) (c : PortCall) : (serve k h c).1.Fits c := by
  cases c with
  | read n =>
    have hread : ∀ m, (read m h).1.received.length ≤ m := by
      intro m
      unfold read
      split
      · exact Nat.zero_le _
      · exact Nat.zero_le _
      · exact Tape.length_next_le _ _
    exact Nat.le_trans (hread _) (Nat.min_le_right _ _)
  | write data => exact Nat.min_le_right _ _
  | _ => trivial

/-- No call moves more bytes than it is asked for. -/
theorem honest (port : String) : Honest Cutter port := by
  have hnothing : ∀ (c : PortCall) (e : Option PortError),
      ({ failure := e } : PortReply).Fits c := by
    intro c e
    cases c with
    | read n => exact Nat.zero_le _
    | write data => exact Nat.zero_le _
    | _ => trivial
  intro c h
  show (reply c h).1.Fits c
  unfold reply
  split
  · exact hnothing c none
  · split
    · exact fits_serve _ _ _
    · exact hnothing c _
    · exact fits_serve _ _ _

end Cutter

end DiveLink
