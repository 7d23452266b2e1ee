import DiveLink.Proofs.Rejection
import DiveLink.Proofs.Session.Alike
import DiveLink.Proofs.Verified

/-!
# Operations on two links that answer alike

A device on either of two links that give the same replies is used in the same way.  Whatever is
done with both, what it leaves with the caller is the same, and so is what is remembered and what is
reported; only the time of the host, where it is told, may differ.

## Main definitions

* `SensusPro.Alike`, `Device.Alike`, `Opening.Alike` — what is remembered, devices and openings that
  differ in the time of the host at most.
* `Device.Action.elsewhere` — what is done with a handle, without regard to its link.

## Main results

* `Vyper2.exchanging_agrees` — the operations of a Vyper2 agree.
* `SensusPro.agrees_dump`, `SensusPro.agrees_foreach` — those of a Sensus Pro do.
* `Device.same_deliver`, `Device.alike_after` — **an action, and any number of actions, leave the
  same with the caller.**
* `Device.alike_openLink` — **devices that are opened on both links are alike.**
-/

namespace DiveLink

open Session

variable {σ ρ : Type} {R : σ → ρ → Prop} {T : Nat → Nat → Prop}

/-! ### Programs and how they run -/

namespace Session

variable {δ α β : Type} {D : δ → δ → Prop} {V : α → β → Prop} {s s' : Session σ δ}
  {t t' : Session ρ δ}

/-- Results that are the same error, or values that `V` relates. -/
inductive Ended (V : α → β → Prop) : Except DeviceError α → Except DeviceError β → Prop
  | ok {a b} (h : V a b) : Ended V (.ok a) (.ok b)
  | error (e : DeviceError) : Ended V (.error e) (.error e)

theorem ended_eq {r r' : Except DeviceError α} (h : Ended Eq r r') : r = r' := by
  cases h with
  | ok h => rw [h]
  | error e => rfl

/-- Either both are errors, and the same, or none is. -/
theorem Ended.forget {r : Except DeviceError α} {r' : Except DeviceError β} (h : Ended V r r') :
    r.map (fun _ => ()) = r'.map fun _ => () := by
  cases h with
  | ok => rfl
  | error e => rfl

/-- Programs that agree come to the same end. -/
theorem Agrees.run {x : Op σ δ α} {y : Op ρ δ β} (h : Agrees R T D V x y) (hs : Alike R T D s t) :
    Ended V (run x s).1 (Session.run y t).1 ∧
      Alike R T D (Session.run x s).2 (Session.run y t).2 := by
  have hends := h s t hs
  unfold Session.run
  generalize x s = r at hends
  generalize y t = r' at hends
  cases hends with
  | ok value state => exact ⟨.ok value, state⟩
  | error e state => exact ⟨.error e, state⟩

theorem agrees_of_run {x : Op σ δ α} {y : Op ρ δ α}
    (h : ∀ s t, Alike R T D s t → (Session.run x s).1 = (Session.run y t).1 ∧
      Alike R T D (Session.run x s).2 (Session.run y t).2) : Agrees R T D Eq x y := by
  intro s t hs
  obtain ⟨hresult, hstate⟩ := h s t hs
  unfold Session.run at hresult hstate
  generalize x s = r at hresult hstate ⊢
  generalize y t = r' at hresult hstate ⊢
  cases r <;> cases r' <;> cases hresult
  · exact .ok rfl hstate
  · exact .error _ hstate

end Session

/-! ### Vyper2 -/

namespace Vyper2

variable [Link σ] [Link ρ]

/-- **The operations of a Vyper2 agree on two links that answer alike.** -/
theorem exchanging_agrees (hlink : Lockstep R T) :
    Exchanging (σ := σ) (ρ := ρ) fun _ x y => Agrees R T Eq Eq x y where
  congr h hx hy := agrees_of_run fun s t hs => by
    rw [hx, hy]
    exact ⟨ended_eq (h.run hs).1, (h.run hs).2⟩
  pure a := .pure rfl
  refuse _ := .throw _
  seq := by
    -- both first parts end alike, and so both go on or neither does
    intro α β _ x y f g fail X Y hx hX hY _ hf
    refine agrees_of_run fun s t hs => ?_
    obtain ⟨hended, halike⟩ := hx.run hs
    rcases hrun : Session.run x s with ⟨r, s'⟩
    rcases hrun' : Session.run y t with ⟨r', t'⟩
    rw [hrun, hrun'] at hended halike
    cases hended with
    | ok h =>
      obtain rfl := h
      rw [hX.ok hrun, hY.ok hrun']
      exact ⟨ended_eq ((hf _).run halike).1, ((hf _).run halike).2⟩
    | error e =>
      rw [hX.error hrun, hY.error hrun']
      exact ⟨rfl, halike⟩
  returning f hx _ := hx.map (congrArg f)
  record ws := .recordSame _
  emit e := .emit (.same _)
  -- the walk depends on the device alone, which is the same in both
  report walk := Parallel.get.bind fun hs => by
    rw [hs.device]
    exact Agrees.report _
  ask q _ := Agrees.ask hlink _ _ _ _

theorem agrees_close (hlink : Lockstep R T) :
    Agrees R T Eq Eq (close : Op σ Vyper2 Unit) (close : Op ρ Vyper2 Unit) :=
  Agrees.attempt hlink _

theorem agrees_openLine (hlink : Lockstep R T) :
    Agrees R T Eq Eq (openLine : Op σ Vyper2 Unit) (openLine : Op ρ Vyper2 Unit) := by
  have hattempt := fun c => Agrees.attempt (δ := Vyper2) (D := Eq) hlink c
  exact ((hattempt _).warning _).andThen fun _ => ((hattempt _).warning _).andThen fun _ =>
    ((hattempt _).warning _).andThen fun _ => (Agrees.pause hlink _).andThen fun _ =>
      (hattempt _).andThen fun _ => hattempt _

omit [Link σ] [Link ρ] in
theorem agrees_setFingerprint (data : Bytes) :
    Agrees R T Eq Eq (setFingerprint data : Op σ Vyper2 Unit) (setFingerprint data) := by
  unfold setFingerprint
  split
  · exact .modify fun hs => { hs with device := by rw [hs.device] }
  · split
    · exact .modify fun hs => { hs with device := by rw [hs.device] }
    · exact .throw _

end Vyper2

/-! ### Sensus Pro -/

/-- What is remembered of the same greeting, with the time of each host, and of the same dives. -/
structure SensusPro.Alike (T : Nat → Nat → Prop) (s t : SensusPro) : Prop where
  frame : s.frame = t.frame
  timestamp : s.timestamp = t.timestamp
  clock : Option.Rel (Clock.Alike T) s.clock t.clock

namespace SensusPro

/-- Programs of a Sensus Pro end alike on sessions that are alike. -/
abbrev Agree (R : σ → ρ → Prop) (T : Nat → Nat → Prop) {α : Type} (x : Op σ SensusPro α)
    (y : Op ρ SensusPro α) : Prop :=
  Agrees R T (Alike T) Eq x y

/-! #### Without the link -/

theorem agrees_setFingerprint (data : Bytes) :
    Agree R T (setFingerprint data) (setFingerprint data) := by
  unfold setFingerprint
  split
  · exact .modify fun hs => { hs with device := { hs.device with timestamp := rfl } }
  · split
    · exact .modify fun hs => { hs with device := { hs.device with timestamp := rfl } }
    · exact .throw _

theorem agrees_setTimestamp (t : Nat) : Agree R T (setTimestamp t) (setTimestamp t) :=
  .modify fun hs => { hs with device := { hs.device with timestamp := rfl } }

theorem agrees_lastClock : Agrees R T (Alike T) (Option.Rel (Clock.Alike T))
    (lastClock : Op σ SensusPro _) (lastClock : Op ρ SensusPro _) :=
  Parallel.get.bind fun hs => .pure hs.device.clock

theorem agrees_lastHandshake (room : Nat) :
    Agree R T (lastHandshake room) (lastHandshake room) := by
  unfold lastHandshake
  split
  · exact (Agrees.warn _).andThen fun _ => .throw _
  · exact Parallel.get.bind fun hs => .pure (congrArg _ hs.device.frame)

theorem agrees_extract (image : Bytes) (keep : List Dive → Bool) :
    Agree R T (extract image keep) (extract image keep) :=
  Parallel.get.bind fun hs => by
    rw [hs.device.timestamp]
    exact Agrees.report _

/-! #### On the link -/

variable [Link σ] [Link ρ] (hlink : Lockstep R T)
include hlink

theorem agrees_openLine : Agree R T (openLine : Op σ SensusPro Unit) openLine := by
  have hattempt := fun c => Agrees.attempt (δ := SensusPro) (D := Alike T) hlink c
  exact ((hattempt _).warning _).andThen fun _ => ((hattempt _).warning _).andThen fun _ =>
    hattempt _

/-- The greeting is the same on both links, and only the times of the hosts are not. -/
theorem agrees_wake : Agree R T (wake : Op σ SensusPro Unit) wake := by
  refine (Agrees.handshake hlink _).andThen fun frame =>
    (Agrees.now hlink).bind fun {a b} hnow => ?_
  have hclock : Clock.Alike T ⟨a.toNat, Bytes.le32 (frame.drop 6)⟩
      ⟨b.toNat, Bytes.le32 (frame.drop 6)⟩ := ⟨rfl, hnow⟩
  refine (Parallel.modify fun hs => ?_).andThen fun _ => (Agrees.emit (.clock hclock)).andThen
    fun _ => (Agrees.emit (.same _)).andThen fun _ => Agrees.pause hlink _
  exact { hs with device := ⟨rfl, hs.device.timestamp, .some hclock⟩ }

theorem agrees_command (c : UInt8) : Agree R T (command c : Op σ SensusPro Unit) (command c) :=
  (agrees_wake hlink).andThen fun _ => (Agrees.transmit hlink _).warning _

theorem agrees_receiveStream : ∀ (bs : List Block) (progress : Progress),
    Agree R T (receiveStream progress bs : Op σ SensusPro Bytes) (receiveStream progress bs) := by
  intro bs
  induction bs with
  | nil => exact fun _ => .pure rfl
  | cons b bs ih =>
    intro progress
    refine (Agrees.receive hlink b.size).andThen fun chunk => ?_
    cases chunk.outcome with
    | error e => exact (Agrees.warn _).andThen fun _ => .throw e
    | ok => exact (Agrees.emit (.same _)).andThen fun _ => (ih _).andThen fun _ => .pure rfl

theorem agrees_dump : Agree R T (dump : Op σ SensusPro Bytes) dump := by
  refine (Agrees.emit (.same _)).andThen fun _ => (agrees_command hlink _).andThen fun _ =>
    (agrees_receiveStream hlink _ _).andThen fun stream => ?_
  cases Checksum.stripCrc16? stream with
  | some image => exact .pure rfl
  | none => exact (Agrees.warn _).andThen fun _ => .throw _

theorem agrees_foreach (keep : List Dive → Bool) :
    Agree R T (foreach keep : Op σ SensusPro (List Dive)) (foreach keep) :=
  (agrees_dump hlink).andThen fun _ => agrees_extract _ _

theorem agrees_writeInterval (seconds : Nat) :
    Agree R T (writeInterval seconds : Op σ SensusPro Unit) (writeInterval seconds) := by
  unfold writeInterval
  split
  · exact .throw _
  · exact (agrees_command hlink _).andThen fun _ => (Agrees.pause hlink _).andThen fun _ =>
      (Agrees.transmit hlink _).warning _

theorem agrees_close : Agree R T (close : Op σ SensusPro Unit) close :=
  Agrees.attempt hlink _

end SensusPro

/-! ### Devices -/

namespace Device

/-- Devices that are the same but for their links, which `R` relates, and the time of the host. -/
inductive Alike (R : σ → ρ → Prop) (T : Nat → Nat → Prop) : Device σ → Device ρ → Prop
  | sensusPro {s t} (h : Session.Alike R T (SensusPro.Alike T) s t) :
    Alike R T (sensusPro s) (sensusPro t)
  | vyper2 {s t} (h : Session.Alike R T Eq s t) : Alike R T (vyper2 s) (vyper2 t)

variable {α β : Type} {V : α → β → Prop} {d : Device σ} {d' : Device ρ}

theorem Alike.history (h : Alike R T d d') :
    List.Forall₂ (Entry.Alike T) d.history d'.history := by
  cases h with
  | sensusPro h => exact h.history
  | vyper2 h => exact h.history

theorem Alike.link (h : Alike R T d d') : R d.link d'.link := by
  cases h with
  | sensusPro h => exact h.link
  | vyper2 h => exact h.link

/-- What comes of the same operation on two devices that are alike. -/
structure Same (R : σ → ρ → Prop) (T : Nat → Nat → Prop) (V : α → β → Prop) (x : α × Device σ)
    (y : β × Device ρ) : Prop where
  result : V x.1 y.1
  device : Alike R T x.2 y.2

theorem Same.map {γ : Type} {x : α × Device σ} {y : α × Device ρ} (h : Same R T Eq x y)
    (f : α → γ) : Same R T Eq (x.map f id) (y.map f id) :=
  ⟨congrArg f h.result, h.device⟩

/-- Operations of either family that agree. -/
theorem same_run {x : Op σ SensusPro α} {x' : Op ρ SensusPro β} {y : Op σ Vyper2 α}
    {y' : Op ρ Vyper2 β} (hx : Agrees R T (SensusPro.Alike T) V x x')
    (hy : Agrees R T Eq V y y') (h : Alike R T d d') :
    Same R T (Ended V) (run x y d) (run x' y' d') := by
  cases h with
  | sensusPro h => exact ⟨(hx.run h).1, .sensusPro (hx.run h).2⟩
  | vyper2 h => exact ⟨(hy.run h).1, .vyper2 (hy.run h).2⟩

theorem same_run_eq {x : Op σ SensusPro α} {x' : Op ρ SensusPro α} {y : Op σ Vyper2 α}
    {y' : Op ρ Vyper2 α} (hx : SensusPro.Agree R T x x') (hy : Agrees R T Eq Eq y y')
    (h : Alike R T d d') : Same R T Eq (run x y d) (run x' y' d') :=
  ⟨ended_eq (same_run hx hy h).result, (same_run hx hy h).device⟩

theorem same_fill {x : Op σ SensusPro Receipt} {x' : Op ρ SensusPro Receipt}
    {y : Op σ Vyper2 Receipt} {y' : Op ρ Vyper2 Receipt} (hx : SensusPro.Agree R T x x')
    (hy : Agrees R T Eq Eq y y') (h : Alike R T d d') :
    Same R T Eq (fill x y d) (fill x' y' d') := by
  have hsame := same_run_eq hx hy h
  -- what is delivered is decided by the result, and that is the same
  unfold fill
  rcases hrun : run x y d with ⟨r, e⟩
  rcases hrun' : run x' y' d' with ⟨r', e'⟩
  rw [hrun, hrun'] at hsame
  obtain ⟨hresult, halike⟩ := hsame
  obtain rfl : r = r' := hresult
  cases r with
  | ok receipt => exact ⟨rfl, halike⟩
  | error e => exact ⟨rfl, halike⟩

/-- What another family offers, or none, is refused in the same way. -/
theorem agrees_throw {δ : Type} {D : δ → δ → Prop} (e : DeviceError) :
    Agrees R T D V (throw e : Op σ δ α) (throw e : Op ρ δ β) :=
  .throw e

/-- The clocks are those of the same greeting. -/
theorem same_clock (h : Alike R T d d') :
    Same R T (Ended (Option.Rel (Clock.Alike T))) d.clock d'.clock :=
  same_run SensusPro.agrees_lastClock (agrees_throw _) h

/-! ### Actions -/

/-- What is done with a handle, without regard to its link: what concerns no link is done in the
same way on any. -/
def Action.elsewhere : Action Empty → Action σ
  | operate op => operate op
  | setFingerprint data => setFingerprint data
  | setTimestamp t => setTimestamp t
  | extract image keep => extract image keep
  | handshake room => handshake room
  | clock => clock
  | setLink link => link.elim
  | setToken token => setToken token
  | listen listening => listen listening
  | note text => note text

variable [Link σ] [Link ρ]

theorem same_operation (hlink : Lockstep R T) (op : Operation) (h : Alike R T d d') :
    Same R T Eq (op.deliver d) (op.deliver d') := by
  have hQ := Vyper2.exchanging_agrees hlink
  cases op with
  | version room => exact same_fill (agrees_throw _) (hQ.version room) h
  | read address length => exact same_fill (agrees_throw _) (hQ.read address length) h
  | write address data => exact (same_run_eq (agrees_throw _) (hQ.write address data) h).map _
  | dump vector =>
    rw [Operation.deliver, Operation.deliver, dumpInto_eq, dumpInto_eq]
    exact same_fill ((SensusPro.agrees_dump hlink).map (congrArg _)) (hQ.dump.map (congrArg _)) h
  | foreach keep =>
    exact ((same_run_eq (SensusPro.agrees_foreach hlink keep) (hQ.foreach keep) h).map _).map _
  | resetMaxDepth => exact (same_run_eq (agrees_throw _) hQ.resetMaxDepth h).map _
  | writeInterval seconds =>
    exact (same_run_eq (SensusPro.agrees_writeInterval hlink seconds) (agrees_throw _) h).map _
  | close =>
    exact (same_run_eq (SensusPro.agrees_close hlink) (Vyper2.agrees_close hlink) h).map _

/-- **An action leaves the same with the caller of either device.** -/
theorem same_deliver (hlink : Lockstep R T) (a : Action Empty) (h : Alike R T d d') :
    Same R T Eq (a.elsewhere.deliver d) (a.elsewhere.deliver d') := by
  cases a with
  | operate op => exact same_operation hlink op h
  | setFingerprint data =>
    exact (same_run_eq (SensusPro.agrees_setFingerprint data) (Vyper2.agrees_setFingerprint data)
      h).map _
  | setTimestamp t => exact (same_run_eq (SensusPro.agrees_setTimestamp t) (agrees_throw _) h).map _
  | extract image keep =>
    exact ((same_run_eq (SensusPro.agrees_extract image keep) (agrees_throw _) h).map _).map _
  | handshake room => exact same_fill (SensusPro.agrees_lastHandshake room) (agrees_throw _) h
  | clock =>
    exact ⟨congrArg (Receipt.mk []) (same_clock h).result.forget, (same_clock h).device⟩
  | setLink link => exact link.elim
  -- the token, the listening and the notes are no business of the link
  | setToken token =>
    cases h with
    | sensusPro h => exact ⟨rfl, .sensusPro { h with token := rfl }⟩
    | vyper2 h => exact ⟨rfl, .vyper2 { h with token := rfl }⟩
  | listen listening =>
    cases h with
    | sensusPro h => exact ⟨rfl, .sensusPro { h with listening := rfl }⟩
    | vyper2 h => exact ⟨rfl, .vyper2 { h with listening := rfl }⟩
  | note text =>
    cases h with
    | sensusPro h => exact ⟨rfl, .sensusPro { h with past := .cons (.same _) h.past }⟩
    | vyper2 h => exact ⟨rfl, .vyper2 { h with past := .cons (.same _) h.past }⟩

/-- What some actions, one after the other, leave with the caller. -/
def receipts (as : List (Action σ)) (d : Device σ) : List Receipt :=
  along (fun a d => [(a.deliver d).1]) as d

/-- **Any number of actions leave the same with the caller of either device.** -/
theorem alike_after (hlink : Lockstep R T) : ∀ (as : List (Action Empty)) {d : Device σ}
    {d' : Device ρ}, Alike R T d d' →
      receipts (as.map Action.elsewhere) d = receipts (as.map Action.elsewhere) d' ∧
        Alike R T (after (as.map Action.elsewhere) d) (after (as.map Action.elsewhere) d') := by
  intro as
  induction as with
  | nil => exact fun h => ⟨rfl, h⟩
  | cons a as ih =>
    intro d d' h
    have hsame := same_deliver hlink a h
    have hdevice : Alike R T (a.elsewhere.act d).2 (a.elsewhere.act d').2 := by
      rw [Action.act_eq, Action.act_eq]
      exact hsame.device
    obtain ⟨hreceipts, halike⟩ := ih hdevice
    refine ⟨?_, halike⟩
    show (a.elsewhere.deliver d).1 :: receipts _ _ = (a.elsewhere.deliver d').1 :: receipts _ _
    rw [hsame.result, hreceipts]

/-! ### Openings -/

end Device

/-- What comes of an attempt to open a device on two links that answer alike. -/
inductive Opening.Alike (R : σ → ρ → Prop) (T : Nat → Nat → Prop) :
    Opening σ σ → Opening ρ ρ → Prop
  | opened {d d'} (h : Device.Alike R T d d') : Alike R T (.opened d) (.opened d')
  | refused (e : DeviceError) {x y past past'} (hlink : R x y)
      (hpast : List.Forall₂ (Entry.Alike T) past past') :
      Alike R T (.refused e x past) (.refused e y past')

namespace Device

theorem alike_openSession {δ : Type} {D : δ → δ → Prop} {wrap : Session σ δ → Device σ}
    {wrap' : Session ρ δ → Device ρ} {x : Op σ δ Unit} {y : Op ρ δ Unit}
    (hwrap : ∀ {s t}, Session.Alike R T D s t → Alike R T (wrap s) (wrap' t))
    (hx : Agrees R T D Eq x y) {s : Session σ δ} {t : Session ρ δ} (h : Session.Alike R T D s t) :
    Opening.Alike R T (openSession wrap x s) (openSession wrap' y t) := by
  obtain ⟨hended, halike⟩ := hx.run h
  unfold openSession
  rcases hrun : Session.run x s with ⟨r, s'⟩
  rcases hrun' : Session.run y t with ⟨r', t'⟩
  rw [hrun, hrun'] at hended halike
  cases hended with
  | ok => exact .opened (hwrap halike)
  | error e => exact .refused e halike.link halike.past

variable [Link σ] [Link ρ]

/-- **Devices that are opened on two links that answer alike are alike.** -/
theorem alike_openLink (hlink : Lockstep R T) (family : Family) (token : CancelToken) {x : σ}
    {y : ρ} (h : R x y) :
    Opening.Alike R T (openLink family x token) (openLink family y token) := by
  cases family with
  | sensusPro =>
    exact alike_openSession .sensusPro (SensusPro.agrees_openLine hlink)
      ⟨h, ⟨rfl, rfl, .none⟩, rfl, rfl, .nil⟩
  | vyper2 =>
    exact alike_openSession .vyper2 (Vyper2.agrees_openLine hlink) ⟨h, rfl, rfl, rfl, .nil⟩

end Device

end DiveLink
