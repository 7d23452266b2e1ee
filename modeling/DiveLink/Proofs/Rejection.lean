import DiveLink.Proofs.Recollection

/-!
# Requests that are denied

Some requests are never carried out: the buffer is too short, a range leaves the memory, a number
means nothing to the device, or the family has no such operation.  Whether a request is one of these
can be said from the family and the request alone.  It is found out before anything is done, and
nothing that goes wrong later is reported as such.

## Main definitions

* `DeviceError.isDenial` — the errors that say so.
* `Session.Willing` — a program that does not end with one of them.
* `Device.Action.deliver` — what an action leaves with the caller.
* `Device.Action.denial` — the error with which a family denies a request, if it does.
* `Device.Untouched` — an action that ends before anything is done.

## Main results

* `Device.willing_deliver` — a request that is not denied does not end as one that is.
* `Device.untouched_of_denial` — a request that is denied leaves everything as it is.
* `Device.denied_without_effect` — **a request is denied exactly if it has to be, and then nothing
  is done.**
-/

namespace DiveLink

/-! ### Denials -/

/-- The request was not carried out, for a reason that lies in the request. -/
def DeviceError.isDenial : DeviceError → Bool
  | invalidArgument _ | unsupported => true
  | outOfMemory | io _ | timeout | protocol _ | dataFormat _ | cancelled => false

/-- A request that may succeed at a second attempt was not denied. -/
theorem DeviceError.isDenial_of_retryable {e : DeviceError} (h : e.isRetryable = true) :
    e.isDenial = false := by
  cases e with
  | invalidArgument cause => exact absurd h Bool.false_ne_true
  | unsupported => exact absurd h Bool.false_ne_true
  | _ => rfl

namespace Session

variable {σ δ α β : Type} {x : Op σ δ α}

/-- The program `x` denies no request. -/
def Willing (x : Op σ δ α) : Prop := ∀ s e, (run x s).1 = .error e → e.isDenial = false

namespace Willing

/-- A program that does not fail. -/
theorem of_ok (h : ∀ s, ∃ a, (run x s).1 = .ok a) : Willing x := by
  intro s e he
  obtain ⟨a, ha⟩ := h s
  exact absurd (ha.symm.trans he) (by simp)

theorem pure (a : α) : Willing (pure a : Op σ δ α) := of_ok fun _ => ⟨a, rfl⟩

theorem throw {e : DeviceError} (h : e.isDenial = false) : Willing (throw e : Op σ δ α) := by
  rintro s _ ⟨⟩
  exact h

theorem congr {y : Op σ δ α} (hy : Willing y) (h : ∀ s, run x s = run y s) : Willing x := by
  intro s e he
  rw [h s] at he
  exact hy s e he

theorem bind {f : α → Op σ δ β} (hx : Willing x) (hf : ∀ a, Willing (f a)) :
    Willing (x >>= f) := by
  intro s e he
  have hs := hx s
  rw [run_bind] at he
  rcases hrun : run x s with ⟨e' | a, t⟩ <;> rw [hrun] at hs he
  · obtain rfl : e' = e := Except.error.inj he
    exact hs e' rfl
  · exact hf a t e he

theorem map {f : α → β} (hx : Willing x) : Willing (f <$> x) := by
  rw [← bind_pure_comp]
  exact hx.bind fun a => .pure (f a)

theorem warning {w : Warning} (hx : Willing x) : Willing (warning w x) := by
  intro s e he
  have hs := hx s
  rw [run_warning] at he
  rcases hrun : run x s with ⟨e' | a, t⟩ <;> rw [hrun] at hs he
  · exact hs e he
  · exact absurd he (by simp)

theorem emit (e : Event) : Willing (emit e : Op σ δ Unit) := of_ok fun s => ⟨(), by rw [run_emit]⟩

/-- What changes the session in either of two cases, in one of them. -/
theorem either {p q : Prop} [Decidable p] [Decidable q] {f g : Session σ δ → Session σ δ}
    {e : DeviceError} (h : p ∨ q) :
    Willing
      (if p then modify f else if q then modify g else MonadExcept.throw e : Op σ δ Unit) := by
  by_cases hp : p
  · rw [if_pos hp]
    exact of_ok fun _ => ⟨(), rfl⟩
  · rw [if_neg hp, if_pos (h.resolve_left hp)]
    exact of_ok fun _ => ⟨(), rfl⟩

/-- The memory is to blame, and not the request. -/
theorem reject (f : DataFault) : Willing (reject f : Op σ δ α) := by
  rintro s _ ⟨⟩
  rfl

theorem report (w : Walk) : Willing (report w : Op σ δ (List Dive)) := by
  intro s e he
  rw [(run_report w s).1] at he
  cases hfault : w.fault with
  | none => rw [hfault] at he; exact absurd he (by simp)
  | some f =>
    rw [hfault] at he
    cases he
    rfl

/-- A transfer that delivers all or nothing ends as the program does that brings the bytes. -/
theorem ending_whole {x : Op σ δ Bytes} (hx : Willing x) :
    Willing (ending (Receipt.whole <$> x)) := by
  refine (hx.map (f := fun _ => ())).congr fun s => ?_
  rw [ending, run_bind, run_map, run_map]
  rcases run x s with ⟨e | a, t⟩ <;> rfl

/-! ### Calls -/

variable [Link σ]

theorem attempt (c : Call) : Willing (attempt c : Op σ δ Unit) := by
  intro s e he
  rw [run_attempt_eq] at he
  cases hreply : (reply c s).failure with
  | none => rw [hreply] at he; exact absurd he (by simp)
  | some failure =>
    rw [hreply] at he
    cases he
    rfl

theorem pause (ms : Nat) : Willing (pause ms : Op σ δ Unit) := of_ok fun _ => ⟨(), rfl⟩

theorem transmit (data : Bytes) : Willing (transmit data : Op σ δ Unit) := by
  intro s e he
  rw [run_transmit] at he
  cases hfault : (reply (.write data) s).fault (reply (.write data) s).accepted data.length with
  | none => rw [hfault] at he; exact absurd he (by simp)
  | some failure =>
    rw [hfault] at he
    cases he
    exact DeviceError.isDenial_of_retryable (Call.isRetryable_fault (c := .write data) hfault)

/-- Whatever keeps a command from being answered, the request is not denied. -/
theorem ask (settle : Nat) (command : Bytes) (parameters size : Nat) :
    Willing (Packet.ask settle command parameters size : Op σ δ Bytes) := by
  intro s e he
  have hasking := Packet.asking settle command parameters size s
  rcases hrun : run (Packet.ask settle command parameters size) s with ⟨r, t⟩
  rw [hrun] at hasking he
  obtain rfl : r = .error e := he
  -- an exchange fails by its transfers, by its answer, or because it is cancelled
  cases hasking with
  | unsent h =>
    cases h with
    | cancelled => rfl
    | unraised => rfl
    | unsent _ _ hwrite =>
      exact DeviceError.isDenial_of_retryable (Call.isRetryable_fault (c := .write command) hwrite)
    | unlowered => rfl
  | unreceived _ hread =>
    exact DeviceError.isDenial_of_retryable (Call.isRetryable_fault (c := .read _) hread)
  | unfit => rfl

end Willing
end Session

/-! ### The families -/

open Session

namespace Vyper2

variable {σ δ : Type} [Link σ]

theorem willing_readVersion : Willing (readVersion : Op σ δ Bytes) :=
  (Willing.ask _ _ _ _).bind fun _ => .pure _

theorem willing_readBlock (b : Block) : Willing (readBlock b : Op σ δ Bytes) :=
  (Willing.ask _ _ _ _).bind fun _ => .pure _

theorem willing_readAll : ∀ (bs : List Block) (progress : Option Progress),
    Willing (readAll progress bs : Op σ δ (List Bytes)) := by
  intro bs
  induction bs with
  | nil => exact fun _ => .pure []
  | cons b bs ih =>
    intro progress
    refine Willing.congr ?_ (run_readAll_cons progress b bs)
    exact (willing_readBlock b).bind fun data =>
      (Willing.of_ok fun s => ⟨(), congrArg Prod.fst (run_tell _ s)⟩).bind fun _ =>
        (ih _).bind fun _ => .pure _

theorem willing_writePieces : ∀ pieces : List (Nat × Bytes),
    Willing (writePieces pieces : Op σ δ Unit) := by
  intro pieces
  induction pieces with
  | nil => exact .pure ()
  | cons p pieces ih => exact (Willing.ask _ _ _ _).bind fun _ => ih

omit [Link σ] in
theorem willing_setFingerprint {data : Bytes} (h : data.length = 0 ∨ data.length = 7) :
    Willing (setFingerprint data : Op σ Vyper2 Unit) :=
  .either h

theorem willing_dump : Willing (dump : Op σ δ Bytes) :=
  willing_readVersion.bind fun _ => (Willing.emit _).bind fun _ =>
    (willing_readAll _ _).bind fun _ => (Willing.emit _).bind fun _ => .pure _

theorem willing_foreach (keep : List Dive → Bool) :
    Willing (foreach keep : Op σ Vyper2 (List Dive)) := by
  unfold foreach
  refine willing_readVersion.bind fun version => (willing_readBlock _).bind fun serial =>
    (Willing.emit _).bind fun _ => (willing_readBlock _).bind fun raw => ?_
  cases RingHeader.parse raw with
  | error f => exact .reject f
  | ok header =>
    have hring : Willing (readRing header : Op σ Vyper2 Bytes) :=
      (Willing.emit _).bind fun _ => (willing_readAll _ _).bind fun _ => .pure _
    exact hring.bind fun data => (Willing.of_ok fun s => ⟨s, rfl⟩).bind fun _ => .report _

end Vyper2

namespace SensusPro

variable {σ : Type} [Link σ]

theorem willing_handshake {δ : Type} (size : Nat) :
    Willing (handshake size : Op σ δ Bytes) := by
  intro s e he
  have hends := handshaking size s
  rcases hrun : run (handshake size) s with ⟨r, t⟩
  rw [hrun] at hends he
  obtain rfl : r = .error e := he
  cases hends with
  | unraised => rfl
  | unlowered => rfl
  | unreceived _ _ hread =>
    exact DeviceError.isDenial_of_retryable (Call.isRetryable_fault (c := .read _) hread)
  | unfit => rfl

theorem willing_command (c : UInt8) : Willing (command c : Op σ SensusPro Unit) := by
  have hwake : Willing (wake : Op σ SensusPro Unit) :=
    (willing_handshake _).bind fun frame => (Willing.of_ok fun s => ⟨_, rfl⟩).bind fun _ =>
      (Willing.of_ok fun s => ⟨(), rfl⟩).bind fun _ => (Willing.emit _).bind fun _ =>
        (Willing.emit _).bind fun _ => .pause _
  exact hwake.bind fun _ => (Willing.transmit _).warning

theorem willing_receiveAll {δ : Type} (n : Nat) : Willing (receiveAll n : Op σ δ Bytes) := by
  intro s e he
  unfold receiveAll at he
  rw [run_bind_ok (run_receive n s)] at he
  cases hfault : (reply (.read n) s).fault (reply (.read n) s).received.length n with
  | none => rw [hfault] at he; exact absurd he (by simp)
  | some failure =>
    rw [hfault] at he
    cases he
    exact DeviceError.isDenial_of_retryable (Call.isRetryable_fault (c := .read n) hfault)

theorem willing_receiveStream : ∀ (bs : List Block) (progress : Progress),
    Willing (receiveStream progress bs : Op σ SensusPro Bytes) := by
  intro bs
  induction bs with
  | nil => exact fun _ => .pure []
  | cons b bs ih =>
    intro progress
    refine Willing.congr ?_ (run_receiveStream_cons progress b bs)
    exact (willing_receiveAll b.size).bind fun _ => (Willing.emit _).bind fun _ =>
      (ih _).bind fun _ => .pure _

theorem willing_dump : Willing (dump : Op σ SensusPro Bytes) := by
  refine (Willing.emit _).bind fun _ => (willing_command _).bind fun _ =>
    (willing_receiveStream _ _).bind fun stream => ?_
  cases Checksum.stripCrc16? stream with
  | some image => exact .pure image
  | none => exact (Willing.of_ok fun s => ⟨(), rfl⟩).bind fun _ => .throw rfl

omit [Link σ] in
theorem willing_setFingerprint {data : Bytes} (h : data.length = 0 ∨ data.length = 4) :
    Willing (setFingerprint data : Op σ SensusPro Unit) :=
  .either h

omit [Link σ] in
theorem willing_extract (image : Bytes) (keep : List Dive → Bool) :
    Willing (extract image keep : Op σ SensusPro (List Dive)) :=
  (Willing.of_ok fun s => ⟨s, rfl⟩).bind fun _ => .report _

/-- An interval that means something to the device is not denied. -/
theorem willing_writeInterval {seconds : Nat} (h : ¬ (seconds < 1 ∨ 127 < seconds)) :
    Willing (writeInterval seconds : Op σ SensusPro Unit) := by
  have hwrite : Willing (do
      command intervalCommand
      pause settle
      warning .sendValue (transmit [UInt8.ofNat seconds]) : Op σ SensusPro Unit) :=
    (willing_command _).bind fun _ => (Willing.pause _).bind fun _ => (Willing.transmit _).warning
  unfold writeInterval
  rw [if_neg h]
  exact hwrite

end SensusPro

/-! ### Actions -/

namespace Device

variable {σ : Type} [Link σ]

namespace Action

/-- What an action leaves with the caller, and the device behind it: how it ended, and the bytes
that reached the caller's buffer or vector, if it has one. -/
def deliver : Action σ → Device σ → Receipt × Device σ
  | operate op, d => op.deliver d
  | handshake room, d => d.handshake room
  | a, d => (a.act d).map (Receipt.mk []) id

/-- It ends as it does for a caller who only looks at how it ends. -/
theorem act_eq (a : Action σ) (d : Device σ) :
    a.act d = (a.deliver d).map Receipt.outcome id := by
  cases a with
  | operate op => exact op.perform_eq d
  | _ => rfl

omit [Link σ] in
/-- The error with which a family denies a request, if it does. -/
def denial : Family → Action σ → Option DeviceError
  | .sensusPro, setFingerprint data =>
    if data.length = 0 ∨ data.length = 4 then none
    else some (.invalidArgument (.fingerprintSize 4 data.length))
  | .vyper2, setFingerprint data =>
    if data.length = 0 ∨ data.length = 7 then none
    else some (.invalidArgument (.fingerprintSize 7 data.length))
  -- what only a Vyper2 offers to everybody
  | .vyper2, operate (.version room) =>
    if room < 4 then some (.invalidArgument .versionBuffer) else none
  | .vyper2, operate (.read address length) =>
    if address + length > 0x8000 then some (.invalidArgument (.memoryRange address length)) else none
  | .vyper2, operate (.write address data) =>
    if address + data.length > 0x8000 then
      some (.invalidArgument (.memoryRange address data.length))
    else none
  | .sensusPro, operate (.version _) | .sensusPro, operate (.read ..)
  | .sensusPro, operate (.write ..) => some .unsupported
  -- what belongs to one family
  | .sensusPro, operate .resetMaxDepth => some (.invalidArgument (.wrongFamily .sensusPro))
  | .sensusPro, operate (.writeInterval seconds) =>
    if 1 ≤ seconds ∧ seconds ≤ 127 then none
    else some (.invalidArgument (.sampleInterval seconds))
  | .sensusPro, handshake room =>
    if room < 10 then some (.invalidArgument .handshakeBuffer) else none
  | .vyper2, operate (.writeInterval _) | .vyper2, handshake _ | .vyper2, clock
  | .vyper2, setTimestamp _ | .vyper2, extract .. =>
    some (.invalidArgument (.wrongFamily .vyper2))
  | _, _ => none

end Action

variable {a : Action σ} {d : Device σ} {e : DeviceError}

/-! ### Requests that are not denied -/

/-- A transfer of a block of memory ends as the reading of all of its pieces does. -/
theorem willing_ending_read {address length : Nat} (h : address + length ≤ 0x8000) :
    Willing (ending (Vyper2.read address length) : Op σ Vyper2 Unit) := by
  have hall : Willing (Vyper2.readAll none (Block.tile Vyper2.blockSize address length) >>=
      fun _ => pure () : Op σ Vyper2 Unit) :=
    (Vyper2.willing_readAll _ _).bind fun _ => .pure ()
  exact hall.congr (Vyper2.run_ending_read (if_pos h))

theorem willing_ending_version {room : Nat} (h : ¬ room < 4) :
    Willing (ending (Vyper2.version room) : Op σ Vyper2 Unit) := by
  have hfits : ¬ room < Vyper2.versionSize := h
  unfold Vyper2.version
  rw [if_neg hfits, bind_pure_comp]
  exact Vyper2.willing_readVersion.ending_whole

theorem willing_write {address : Nat} {data : Bytes} (h : address + data.length ≤ 0x8000) :
    Willing (Vyper2.write address data : Op σ Vyper2 Unit) := by
  have hrange : Vyper2.rangeFault address data.length = none := if_pos h
  unfold Vyper2.write
  rw [hrange]
  exact Vyper2.willing_writePieces _

/-- A request that a Vyper2 does not deny does not end as one that is denied. -/
theorem willing_vyper2 {s : Session σ Vyper2} (h : a.denial .vyper2 = none)
    (he : (a.act (vyper2 s)).1 = .error e) : e.isDenial = false := by
  cases a with
  | operate op =>
    cases op with
    | version room =>
      have hroom : ¬ room < 4 := fun hroom => absurd ((if_pos hroom).symm.trans h) (by simp)
      rw [Action.act, Operation.perform, version, map_fill, run_vyper2] at he
      exact willing_ending_version hroom s e he
    | read address length =>
      have hrange : ¬ address + length > 0x8000 := fun hrange =>
        absurd ((if_pos hrange).symm.trans h) (by simp)
      rw [Action.act, Operation.perform, read, map_fill, run_vyper2] at he
      exact willing_ending_read (Nat.not_lt.1 hrange) s e he
    | write address data =>
      have hrange : ¬ address + data.length > 0x8000 := fun hrange =>
        absurd ((if_pos hrange).symm.trans h) (by simp)
      exact willing_write (Nat.not_lt.1 hrange) s e he
    | dump vector =>
      rw [Action.act, Operation.perform, dumpInto_eq, dump, map_fill, run_vyper2] at he
      exact Vyper2.willing_dump.ending_whole s e he
    | foreach keep =>
      rw [Action.act, Operation.perform, foreach, map_run, run_vyper2] at he
      exact (Vyper2.willing_foreach keep).map s e he
    | resetMaxDepth =>
      have hreset : Willing (Vyper2.resetMaxDepth : Op σ Vyper2 Unit) :=
        (Willing.ask _ _ _ _).bind fun _ => .pure ()
      exact hreset s e he
    -- for these a Vyper2 is the wrong family
    | writeInterval seconds => exact absurd h (by simp [Action.denial])
    | close => exact (Willing.attempt .close) s e he
  | setFingerprint data =>
    have hlength : data.length = 0 ∨ data.length = 7 := by
      by_contra hlength
      exact absurd ((if_neg hlength).symm.trans h) (by simp)
    exact Vyper2.willing_setFingerprint hlength s e he
  | setTimestamp t => exact absurd h (by simp [Action.denial])
  | extract image keep => exact absurd h (by simp [Action.denial])
  | handshake room => exact absurd h (by simp [Action.denial])
  | clock => exact absurd h (by simp [Action.denial])
  -- and these only change the handle, so that they cannot fail
  | _ => exact absurd he (by simp [Action.act])

/-- A request that a Sensus Pro does not deny does not end as one that is denied. -/
theorem willing_sensusPro {s : Session σ SensusPro} (h : a.denial .sensusPro = none)
    (he : (a.act (sensusPro s)).1 = .error e) : e.isDenial = false := by
  cases a with
  | operate op =>
    cases op with
    | dump vector =>
      rw [Action.act, Operation.perform, dumpInto_eq, dump, map_fill, run_sensusPro] at he
      exact SensusPro.willing_dump.ending_whole s e he
    | foreach keep =>
      rw [Action.act, Operation.perform, foreach, map_run, run_sensusPro] at he
      exact (SensusPro.willing_dump.bind fun image =>
        SensusPro.willing_extract image keep).map s e he
    | writeInterval seconds =>
      have hrange : 1 ≤ seconds ∧ seconds ≤ 127 := by
        by_contra hrange
        exact absurd ((if_neg hrange).symm.trans h) (by simp)
      exact SensusPro.willing_writeInterval (by omega) s e he
    | close => exact (Willing.attempt .close) s e he
    -- a Sensus Pro offers none of the others
    | _ => exact absurd h (by simp [Action.denial])
  | setFingerprint data =>
    have hlength : data.length = 0 ∨ data.length = 4 := by
      by_contra hlength
      exact absurd ((if_neg hlength).symm.trans h) (by simp)
    exact SensusPro.willing_setFingerprint hlength s e he
  | extract image keep =>
    rw [Action.act, extract, map_run, run_sensusPro] at he
    exact (SensusPro.willing_extract image keep).map s e he
  | handshake room =>
    have hfits : ¬ room < SensusPro.handshakeSize := fun hroom =>
      absurd ((if_pos hroom).symm.trans h) (by simp)
    have hlast : Willing (ending (SensusPro.lastHandshake room) : Op σ SensusPro Unit) := by
      unfold SensusPro.lastHandshake
      rw [if_neg hfits]
      exact .of_ok fun _ => ⟨(), rfl⟩
    rw [Action.act, Device.handshake, map_fill, run_sensusPro] at he
    exact hlast s e he
  | setTimestamp t =>
    have hset : Willing (SensusPro.setTimestamp t : Op σ SensusPro Unit) :=
      .of_ok fun _ => ⟨(), rfl⟩
    exact hset s e he
  | clock =>
    have hlast : Willing (SensusPro.lastClock : Op σ SensusPro (Option Clock)) :=
      .of_ok fun _ => ⟨_, rfl⟩
    rw [Action.act, clock, map_run, run_sensusPro] at he
    exact hlast.map (f := fun _ => ()) s e he
  -- these cannot fail
  | _ => exact absurd he (by simp [Action.act])

/-- **A request that is not denied does not end as one that is.** -/
theorem willing_deliver (h : a.denial d.family = none)
    (he : (a.deliver d).1.outcome = .error e) : e.isDenial = false := by
  have hact : (a.act d).1 = .error e := by rw [a.act_eq]; exact he
  cases d with
  | sensusPro s => exact willing_sensusPro h hact
  | vyper2 s => exact willing_vyper2 h hact

/-! ### Requests that are denied -/

/-- What is found out before anything is done: the action `a` ends with `e`, and at most the user is
told something. -/
structure Untouched (a : Action σ) (d : Device σ) (e : DeviceError) : Prop where
  refused : (a.deliver d).1 = .refused e
  warned : ∃ ws : List Warning, (a.deliver d).2 = d.setPast (ws.map .warning ++ d.past)

theorem untouched_of_eq (h : a.deliver d = (.refused e, d)) : Untouched a d e := by
  refine ⟨by rw [h], [], ?_⟩
  rw [h]
  cases d <;> rfl

/-- A request that is denied if `p` holds: it does. -/
theorem denied_of_ite {p : Prop} [Decidable p] {e' : DeviceError}
    (h : (if p then some e' else none) = some e) : p ∧ e' = e := by
  by_cases hp : p
  · exact ⟨hp, Option.some.inj ((if_pos hp).symm.trans h)⟩
  · exact absurd ((if_neg hp).symm.trans h) (by simp)

/-- The version block finds no room, and the user is told so. -/
theorem untouched_version {room : Nat} (s : Session σ Vyper2) (hroom : room < 4) :
    Untouched (.operate (.version room)) (vyper2 s) (.invalidArgument .versionBuffer) := by
  have hshort : room < Vyper2.versionSize := hroom
  have hrun : Session.run (Vyper2.version room) s =
      (.error (.invalidArgument .versionBuffer), warned [.insufficientBuffer] s) := by
    unfold Vyper2.version
    rw [if_pos hshort]
    rfl
  have hdeliver : (Action.operate (.version room)).deliver (vyper2 s) =
      (.refused (.invalidArgument .versionBuffer), vyper2 (warned [.insufficientBuffer] s)) := by
    show fill unsupported (Vyper2.version room) (vyper2 s) = _
    rw [fill, run_vyper2, hrun]
  exact ⟨by rw [hdeliver], [.insufficientBuffer], by rw [hdeliver]; rfl⟩

/-- A range that reaches beyond the memory is neither read nor written. -/
theorem untouched_range {address length : Nat} (s : Session σ Vyper2)
    (hrange : address + length > 0x8000) :
    Untouched (.operate (.read address length)) (vyper2 s)
        (.invalidArgument (.memoryRange address length)) ∧
      ∀ data : Bytes, data.length = length → Untouched (.operate (.write address data)) (vyper2 s)
        (.invalidArgument (.memoryRange address length)) := by
  have hfault : Vyper2.rangeFault address length =
      some (.invalidArgument (.memoryRange address length)) := if_neg (Nat.not_le.2 hrange)
  refine ⟨untouched_of_eq ?_, fun data hlength => untouched_of_eq ?_⟩
  · show fill unsupported (Vyper2.read address length) (vyper2 s) = _
    rw [fill, run_vyper2, Vyper2.read, hfault]
    rfl
  · show (run unsupported (Vyper2.write address data) (vyper2 s)).map (Receipt.mk []) id = _
    rw [run_vyper2, Vyper2.write, hlength, hfault]
    rfl

/-- A fingerprint of another length is not set. -/
theorem untouched_fingerprint {data : Bytes} (s : Session σ Vyper2)
    (hlength : ¬ (data.length = 0 ∨ data.length = 7)) :
    Untouched (.setFingerprint data) (vyper2 s)
      (.invalidArgument (.fingerprintSize 7 data.length)) := by
  obtain ⟨hempty, hsize⟩ := not_or.1 hlength
  have hother : ¬ data.length = ringFingerprintSize := hsize
  refine untouched_of_eq ?_
  show (Device.setFingerprint data (vyper2 s)).map (Receipt.mk []) id = _
  rw [Device.setFingerprint, run_vyper2, Vyper2.setFingerprint, if_neg hempty, if_neg hother]
  rfl

theorem untouched_vyper2 {s : Session σ Vyper2} (h : a.denial .vyper2 = some e) :
    Untouched a (vyper2 s) e := by
  cases a with
  | operate op =>
    cases op with
    | version room =>
      obtain ⟨hroom, rfl⟩ := denied_of_ite h
      exact untouched_version s hroom
    | read address length =>
      obtain ⟨hrange, rfl⟩ := denied_of_ite h
      exact (untouched_range s hrange).1
    | write address data =>
      obtain ⟨hrange, rfl⟩ := denied_of_ite h
      exact (untouched_range s hrange).2 data rfl
    | writeInterval seconds =>
      obtain rfl := Option.some.inj h
      exact untouched_of_eq rfl
    | _ => exact absurd h (by simp [Action.denial])
  | setFingerprint data =>
    by_cases hlength : data.length = 0 ∨ data.length = 7
    · exact absurd ((if_pos hlength).symm.trans h) (by simp)
    · obtain rfl := Option.some.inj ((if_neg hlength).symm.trans h)
      exact untouched_fingerprint s hlength
  -- what changes only the handle is never denied
  | setLink link => exact absurd h (by simp [Action.denial])
  | setToken token => exact absurd h (by simp [Action.denial])
  | listen listening => exact absurd h (by simp [Action.denial])
  | note text => exact absurd h (by simp [Action.denial])
  -- and what is left is for a Sensus Pro alone
  | _ =>
    obtain rfl := Option.some.inj h
    exact untouched_of_eq rfl

/-- The last handshake finds no room, and the user is told so. -/
theorem untouched_handshake {room : Nat} (s : Session σ SensusPro) (hroom : room < 10) :
    Untouched (.handshake room) (sensusPro s) (.invalidArgument .handshakeBuffer) := by
  have hshort : room < SensusPro.handshakeSize := hroom
  have hrun : Session.run (SensusPro.lastHandshake room) s =
      (.error (.invalidArgument .handshakeBuffer), warned [.insufficientBuffer] s) := by
    unfold SensusPro.lastHandshake
    rw [if_pos hshort]
    rfl
  have hdeliver : (Action.handshake room).deliver (sensusPro s) =
      (.refused (.invalidArgument .handshakeBuffer),
        sensusPro (warned [.insufficientBuffer] s)) := by
    show fill (SensusPro.lastHandshake room) _ (sensusPro s) = _
    rw [fill, run_sensusPro, hrun]
  exact ⟨by rw [hdeliver], [.insufficientBuffer], by rw [hdeliver]; rfl⟩

theorem untouched_sensusPro {s : Session σ SensusPro} (h : a.denial .sensusPro = some e) :
    Untouched a (sensusPro s) e := by
  cases a with
  | operate op =>
    cases op with
    | writeInterval seconds =>
      by_cases hrange : 1 ≤ seconds ∧ seconds ≤ 127
      · exact absurd ((if_pos hrange).symm.trans h) (by simp)
      · obtain rfl := Option.some.inj ((if_neg hrange).symm.trans h)
        have hout : seconds < 1 ∨ 127 < seconds := by omega
        refine untouched_of_eq ?_
        show (Device.writeInterval seconds (sensusPro s)).map (Receipt.mk []) id = _
        rw [Device.writeInterval, run_sensusPro, SensusPro.writeInterval, if_pos hout]
        rfl
    -- these are offered, whatever becomes of them
    | dump vector => exact absurd h (by simp [Action.denial])
    | foreach keep => exact absurd h (by simp [Action.denial])
    | close => exact absurd h (by simp [Action.denial])
    | _ =>
      obtain rfl := Option.some.inj h
      exact untouched_of_eq rfl
  | setFingerprint data =>
    by_cases hlength : data.length = 0 ∨ data.length = 4
    · exact absurd ((if_pos hlength).symm.trans h) (by simp)
    · obtain rfl := Option.some.inj ((if_neg hlength).symm.trans h)
      obtain ⟨hempty, hsize⟩ := not_or.1 hlength
      have hother : ¬ data.length = SensusPro.fingerprintSize := hsize
      refine untouched_of_eq ?_
      show (Device.setFingerprint data (sensusPro s)).map (Receipt.mk []) id = _
      rw [Device.setFingerprint, run_sensusPro, SensusPro.setFingerprint, if_neg hempty,
        if_neg hother]
      rfl
  | handshake room =>
    obtain ⟨hroom, rfl⟩ := denied_of_ite h
    exact untouched_handshake s hroom
  | _ => exact absurd h (by simp [Action.denial])

/-- **A request that is denied leaves everything as it is.** -/
theorem untouched_of_denial (h : a.denial d.family = some e) : Untouched a d e := by
  cases d with
  | sensusPro s => exact untouched_sensusPro h
  | vyper2 s => exact untouched_vyper2 h

/-- **A request is denied exactly if it has to be, and then nothing is done.**  No call is made, no
event is reported and no dive handed out; the link, all that is remembered and the caller's buffer
are as before, and at most the user is told something. -/
theorem denied_without_effect (a : Action σ) (d : Device σ) :
    (∀ cause, (a.deliver d).1.outcome = .error (.invalidArgument cause) ↔
      a.denial d.family = some (.invalidArgument cause)) ∧
    ((a.deliver d).1.outcome = .error .unsupported ↔ a.denial d.family = some .unsupported) ∧
    ∀ e, a.denial d.family = some e → (∀ buffer, (a.deliver d).1.fill buffer = buffer) ∧
      ∃ ws : List Warning, (a.deliver d).2 = d.setPast (ws.map .warning ++ d.past) := by
  have hexact : ∀ e, e.isDenial = true →
      ((a.deliver d).1.outcome = .error e ↔ a.denial d.family = some e) := by
    intro e hdenial
    refine ⟨fun he => ?_, fun h => by rw [(untouched_of_denial h).refused, Receipt.refused]⟩
    cases h : a.denial d.family with
    | none =>
      have hwilling := willing_deliver h he
      exact absurd (hdenial.symm.trans hwilling) (by simp)
    | some e' =>
      rw [(untouched_of_denial h).refused] at he
      exact congrArg some (Except.error.inj he)
  refine ⟨fun cause => hexact _ rfl, hexact _ rfl, fun e h => ⟨fun buffer => ?_, ?_⟩⟩
  · rw [(untouched_of_denial h).refused]
    rfl
  · exact (untouched_of_denial h).warned

end Device
end DiveLink
