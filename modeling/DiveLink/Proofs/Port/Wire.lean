import DiveLink.Proofs.Parallel
import DiveLink.Proofs.Port.Line

/-!
# Ports that cut one wire

A wire moves one byte at a time, and stops here and there.  A port cuts it: what a call moves is a
piece of what the wire moves, as long or short as the port likes, interruptions lie in between, and
the port stops where the wire does.  Two lines on ports that cut the same wire cannot be told apart
by their replies.

## Main definitions

* `Wire` — a state that moves bytes one by one.
* `Wire.moves`, `PortCall.steps` — the steps of a transfer.
* `Takes`, `Cuts` — a call that moves a piece of the wire, and a port that cuts it.
* `SerialLine.Shares` — two lines that have the same of a wire before them and have sent the same
  bytes.

## Main results

* `Ports.Transfers.carried` — **a transfer moves what the wire does, however it is cut.**
* `SerialLine.Shares.call` — **two lines on one wire give the same replies, and send the same
  bytes.**
-/

namespace DiveLink

/-! ### Wires -/

/-- States of wires.  What is in the way of a byte is a failure, or silence. -/
class Wire (τ : Type) where
  /-- The next byte that comes in, or what is in its way. -/
  pull : τ → Except (Option IoError) UInt8 × τ
  /-- Takes a byte, or says what is in its way. -/
  push : UInt8 → τ → Except (Option IoError) Unit × τ
  /-- The failure of a call that moves no byte, if it fails. -/
  control : PortCall → τ → Option IoError × τ
  /-- Whether a token is cancelled. -/
  cancelled : CancelToken → τ → Bool

namespace Wire

variable {τ : Type}

/-- Makes steps one after the other until there is something in the way: the bytes that have moved,
and what was in the way. -/
def moves : List (τ → Except (Option IoError) UInt8 × τ) → τ →
    (Bytes × Option (Option IoError)) × τ
  | [], t => (([], none), t)
  | step :: steps, t =>
    match step t with
    | (.error stop, t) => (([], some stop), t)
    | (.ok b, t) => ((b :: (moves steps t).1.1, (moves steps t).1.2), (moves steps t).2)

variable {t t' : τ} {b : Bytes}

/-- Where nothing is in the way of the first steps, the others follow. -/
theorem moves_append {xs : List (τ → Except (Option IoError) UInt8 × τ)}
    (h : moves xs t = ((b, none), t')) (ys : List (τ → Except (Option IoError) UInt8 × τ)) :
    moves (xs ++ ys) t = ((b ++ (moves ys t').1.1, (moves ys t').1.2), (moves ys t').2) := by
  induction xs generalizing t b with
  | nil =>
    cases h
    rfl
  | cons step xs ih =>
    rw [moves] at h
    rw [List.cons_append, moves]
    rcases hstep : step t with ⟨stop | c, u⟩ <;> rw [hstep] at h
    · exact absurd (congrArg (fun x => x.1.2) h) (by simp)
    · rcases hmoves : moves xs u with ⟨⟨b', stop⟩, v⟩
      simp only [hmoves] at h
      cases h
      simp only [ih hmoves]
      rfl

end Wire

namespace PortCall

variable {τ : Type} [Wire τ]

/-- The steps of a transfer. -/
def steps : PortCall → List (τ → Except (Option IoError) UInt8 × τ)
  | read n => List.replicate n Wire.pull
  | write data => data.map fun b t => ((Wire.push b t).1.map fun _ => b, (Wire.push b t).2)
  | _ => []

theorem length_steps (c : PortCall) : (c.steps : List (τ → _)).length = c.size := by
  cases c <;> simp [steps, size]

theorem steps_behind (k : Nat) (c : PortCall) :
    ((c.behind k).steps : List (τ → _)) = c.steps.drop k := by
  cases c with
  | read n => exact (List.drop_replicate ..).symm
  | write data => exact List.map_drop ..
  | _ => exact List.drop_nil.symm

end PortCall

/-! ### Ports that cut a wire -/

variable {τ : Type} [Wire τ]

/-- A call with the reply `r` cuts a wire, and the wire behind it. -/
inductive Takes (c : PortCall) (r : PortReply) (t : τ) : τ → Prop
  /-- Nothing has moved. -/
  | interrupted (h : r.interrupted = true) : Takes c r t t
  /-- What has moved is the first piece of what the wire moves. -/
  | piece {t' : τ} (hfailure : r.failure = none) (hmoved : c.moved r ≠ [])
      (h : Wire.moves (c.steps.take (c.moved r).length) t = ((c.moved r, none), t')) :
      Takes c r t t'
  /-- Nothing has moved, for the wire stops here. -/
  | stopped {t' : τ} (hlast : r.interrupted = false) (hmoved : r.failure = none → c.moved r = [])
      (h : Wire.moves c.steps t = (([], some (r.failure.bind PortError.hard?)), t')) :
      Takes c r t t'

/-- A port cuts a wire.  `R` says which states of the host and of the wire go together. -/
structure Cuts {η : Type} [SerialHost η] (port : String) (R : η → τ → Prop) : Prop where
  transfer : ∀ {h t} (c : PortCall), R h t → 0 < c.size →
    ∃ t', Takes c (SerialHost.call port c h).1 t t' ∧ R (SerialHost.call port c h).2 t'
  /-- Other calls fail where the wire says so; an interruption is a failure as well. -/
  control : ∀ {h t} (c : PortCall), R h t → c.isTransfer = false →
    (SerialHost.call port c h).1.failure.map PortError.toIoError = (Wire.control c t).1 ∧
      R (SerialHost.call port c h).2 (Wire.control c t).2
  sleep : ∀ {h t} (us : Nat), R h t → R (SerialHost.sleep us h) t
  cancelled : ∀ {h t} (token : CancelToken), R h t →
    SerialHost.cancelled token h = Wire.cancelled token t

/-! ### Transfers -/

namespace Ports

variable {η : Type} [SerialHost η] {port : String} {R : η → τ → Prop} {c : PortCall} {p q : Ports η}
  {b : Bytes} {e : Option IoError} {t : τ}

theorem takes_call (hR : Cuts port R) (hp : R p.host t) (hc : 0 < c.size) :
    ∃ t', Takes c (p.call port c).1 t t' ∧ R (p.call port c).2.host t' :=
  hR.transfer c hp hc

/-- **A transfer moves what the wire does, however it is cut.** -/
theorem Transfers.carried (hR : Cuts port R) (h : Transfers port c p b e q) (hp : R p.host t) :
    ∃ stop t', Wire.moves c.steps t = ((b, stop), t') ∧ stop.join = e ∧ R q.host t' := by
  induction h generalizing t with
  | @complete c p hc =>
    have hsteps : (c.steps : List (τ → _)) = [] :=
      List.length_eq_zero_iff.1 ((PortCall.length_steps c).trans hc)
    exact ⟨none, t, by rw [hsteps]; rfl, rfl, hp⟩
  | @again c p b e q hc hagain rest ih =>
    obtain ⟨t', htakes, hq⟩ := takes_call hR hp hc
    cases htakes with
    | interrupted => exact ih hq
    | piece hfailure =>
      exact absurd ((PortReply.not_interrupted hfailure).symm.trans hagain) (by decide)
    | stopped hlast => exact absurd (hlast.symm.trans hagain) (by decide)
  | @piece c p b e q hc hfailure hmoved rest ih =>
    obtain ⟨t', htakes, hq⟩ := takes_call hR hp hc
    cases htakes with
    | interrupted hagain =>
      exact absurd ((PortReply.not_interrupted hfailure).symm.trans hagain) (by decide)
    | piece _ _ hpiece =>
      obtain ⟨stop, u, hmoves, hstop, hu⟩ := ih hq
      refine ⟨stop, u, ?_, hstop, hu⟩
      -- the steps of the piece come first, and those of the rest behind them
      have happend := Wire.moves_append hpiece (c.steps.drop (c.moved (p.call port c).1).length)
      rw [PortCall.steps_behind] at hmoves
      rw [List.take_append_drop, hmoves] at happend
      exact happend
    | stopped _ hnone => exact absurd (hnone hfailure) hmoved
  | @silent c p hc hfailure hmoved =>
    obtain ⟨t', htakes, hq⟩ := takes_call hR hp hc
    cases htakes with
    | interrupted hagain =>
      exact absurd ((PortReply.not_interrupted hfailure).symm.trans hagain) (by decide)
    | piece _ hsome => exact absurd hmoved hsome
    | stopped _ _ hstop =>
      rw [hfailure] at hstop
      exact ⟨_, _, hstop, rfl, hq⟩
  | @failed c p f hc hfailure hlast =>
    obtain ⟨t', htakes, hq⟩ := takes_call hR hp hc
    cases htakes with
    | interrupted hagain => exact absurd (hlast.symm.trans hagain) (by decide)
    | piece hnone => exact absurd (hnone.symm.trans hfailure) (by simp)
    | stopped _ _ hstop =>
      rw [hfailure] at hstop
      exact ⟨_, _, hstop, rfl, hq⟩

end Ports

/-! ### Two lines on one wire -/

namespace SerialLine

/-- Two lines on ports that cut one wire have the same of it before them, and since they had sent
the bytes `out` and `out'` they have sent the same bytes. -/
structure Shares {η η' τ : Type} (port port' : String) (R : η → τ → Prop) (R' : η' → τ → Prop)
    (out out' : Bytes) (line : SerialLine η) (line' : SerialLine η') : Prop where
  name : line.name = port
  name' : line'.name = port'
  halfDuplex : line.halfDuplex = line'.halfDuplex
  wire : ∃ t, R line.ports.host t ∧ R' line'.ports.host t
  sent : ∃ sent, line.ports.outgoing = out ++ sent ∧ line'.ports.outgoing = out' ++ sent

namespace Shares

section
variable {η η' τ : Type} {port port' : String} {R : η → τ → Prop} {R' : η' → τ → Prop}
  {out out' : Bytes} {line : SerialLine η} {line' : SerialLine η'}

/-- Two lines on ports that have the same of a wire before them. -/
theorem start {t : τ} (hline : R line.ports.host t) (hline' : R' line'.ports.host t)
    (hduplex : line.halfDuplex = line'.halfDuplex) :
    Shares line.name line'.name R R' line.ports.outgoing line'.ports.outgoing line line' :=
  ⟨rfl, rfl, hduplex, ⟨t, hline, hline'⟩, [], (List.append_nil _).symm, (List.append_nil _).symm⟩

/-- The lines behind something that both ports did alike, and that brought the same bytes out. -/
theorem ports (h : Shares port port' R R' out out' line line') {p : Ports η} {p' : Ports η'}
    {sent : Bytes} (hwire : ∃ t, R p.host t ∧ R' p'.host t)
    (hsent : p.outgoing = line.ports.outgoing ++ sent)
    (hsent' : p'.outgoing = line'.ports.outgoing ++ sent) :
    Shares port port' R R' out out' { line with ports := p } { line' with ports := p' } where
  name := h.name
  name' := h.name'
  halfDuplex := h.halfDuplex
  wire := hwire
  sent := by
    obtain ⟨before, hbefore, hbefore'⟩ := h.sent
    exact ⟨before ++ sent, by rw [hsent, hbefore, List.append_assoc],
      by rw [hsent', hbefore', List.append_assoc]⟩

/-- A program of whose outcome only the failure is of interest. -/
theorem silently {α β : Type} {V : α → β → Prop} {x : Op η α} {y : Op η' β}
    (h : Parallel (Shares port port' R R' out out') V x y) :
    Parallel (Shares port port' R R' out out') Eq (SerialLine.silently x)
      (SerialLine.silently y) :=
  h.bind fun _ => .pure rfl

theorem clock [SerialHost η] [SerialHost η'] :
    Parallel (Shares port port' R R' out out') (fun _ _ => True) (SerialLine.clock : Op η Nat)
      (SerialLine.clock : Op η' Nat) :=
  Parallel.get.bind fun _ => .pure trivial

end

variable {η η' τ : Type} [SerialHost η] [SerialHost η'] [Wire τ] {port port' : String}
  {R : η → τ → Prop} {R' : η' → τ → Prop} {out out' : Bytes}
  (hR : Cuts port R) (hR' : Cuts port' R')
include hR hR'

/-- A call that moves no byte fails on both lines or on none. -/
theorem attempt {c : PortCall} (hc : c.isTransfer = false) :
    Parallel (Shares port port' R R' out out') (fun _ _ => True)
      (SerialLine.attempt c : Op η PortReply) (SerialLine.attempt c : Op η' PortReply) := by
  intro line line' h
  obtain rfl := h.name
  obtain rfl := h.name'
  obtain ⟨t, ht, ht'⟩ := h.wire
  obtain ⟨hfails, hr⟩ := hR.control c ht hc
  obtain ⟨hfails', hr'⟩ := hR'.control c ht' hc
  have hfailure : (line.ports.call line.name c).1.failure.map PortError.toIoError =
      (line'.ports.call line'.name c).1.failure.map PortError.toIoError :=
    hfails.trans hfails'.symm
  have hports := h.ports ⟨_, hr, hr'⟩
    ((Ports.outgoing_call line.name c line.ports).trans (by rw [(Still.call hc _ _).outgoing]))
    ((Ports.outgoing_call line'.name c line'.ports).trans (by rw [(Still.call hc _ _).outgoing]))
  rw [attempt_eq, attempt_eq]
  cases hf : (line.ports.call line.name c).1.failure <;>
    cases hf' : (line'.ports.call line'.name c).1.failure <;> rw [hf, hf'] at hfailure
  · exact .ok trivial hports
  · exact absurd hfailure (by simp)
  · exact absurd hfailure (by simp)
  · rw [Option.map_some, Option.map_some, Option.some.injEq] at hfailure
    simp only [hfailure]
    exact .error _ hports

/-- A transfer comes to the same end on both lines. -/
theorem transfer {c : PortCall} (hc : c.isTransfer = true) :
    Parallel (Shares port port' R R' out out') Eq (SerialLine.transfer c : Op η _)
      (SerialLine.transfer c : Op η' _) := by
  intro line line' h
  obtain rfl := h.name
  obtain rfl := h.name'
  obtain ⟨t, ht, ht'⟩ := h.wire
  have htransfers := Ports.transfers line.name c line.ports
  have htransfers' := Ports.transfers line'.name c line'.ports
  obtain ⟨stop, u, hmoves, hstop, hu⟩ := htransfers.carried hR ht
  obtain ⟨stop', u', hmoves', hstop', hu'⟩ := htransfers'.carried hR' ht'
  have hsame := hmoves.symm.trans hmoves'
  simp only [Prod.mk.injEq] at hsame
  obtain ⟨⟨hbytes, rfl⟩, rfl⟩ := hsame
  -- what goes out is decided by what has moved
  obtain ⟨f, hf⟩ : ∃ f : Bytes → Bytes, ∀ {port es b e}, Faithful port c es b e →
      es.flatMap PortEntry.outgoing = f b := by
    cases c with
    | read n => exact ⟨fun _ => [], fun h => h.outgoing_read⟩
    | write data => exact ⟨id, fun h => h.outgoing_write⟩
    | _ => exact Bool.noConfusion hc
  obtain ⟨es, hes, -, hfaithful⟩ := htransfers.faithful
  obtain ⟨es', hes', -, hfaithful'⟩ := htransfers'.faithful
  have hports := h.ports ⟨u, hu, hu'⟩ ((Ports.outgoing_append hes).trans (by rw [hf hfaithful]))
    ((Ports.outgoing_append hes').trans (by rw [hf hfaithful', hbytes]))
  exact .ok (Prod.ext hbytes (hstop.symm.trans hstop')) hports

/-- Sleeping makes no difference, however long it is on either line. -/
theorem sleep (us us' : Nat) :
    Parallel (Shares port port' R R' out out') Eq (SerialLine.sleep us : Op η Unit)
      (SerialLine.sleep us' : Op η' Unit) := by
  have hhost : ∀ {η : Type} [SerialHost η] {port : String} {R : η → τ → Prop} {p : Ports η} {t : τ}
      (us : Nat), Cuts port R → R p.host t → R (p.sleep us).host t := by
    intro η _ port R p t us hR hp
    unfold Ports.sleep
    split
    · exact hp
    · exact hR.sleep us hp
  have hout : ∀ {η : Type} [SerialHost η] (us : Nat) (p : Ports η),
      (p.sleep us).outgoing = p.outgoing ++ [] := by
    intro η _ us p
    unfold Ports.sleep
    split
    · exact (List.append_nil _).symm
    · exact Ports.outgoing_append (show _ = [PortEntry.slept us].reverse ++ p.journal from rfl)
  refine .modify fun {line line'} h => ?_
  obtain ⟨t, ht, ht'⟩ := h.wire
  exact h.ports ⟨t, hhost us hR ht, hhost us' hR' ht'⟩ (hout us _) (hout us' _)

theorem configure (s : LineSettings) :
    Parallel (Shares port port' R R' out out') Eq (SerialLine.configure s : Op η Unit)
      (SerialLine.configure s : Op η' Unit) :=
  (attempt hR hR' rfl).bind fun _ => (attempt hR hR' rfl).bind fun _ => (attempt hR hR' rfl).bind
    fun _ => (attempt hR hR' rfl).bind fun _ => (attempt hR hR' rfl).bind fun _ =>
      .modify fun h => ⟨h.name, h.name', h.halfDuplex, h.wire, h.sent⟩

theorem drain (start start' n : Nat) :
    Parallel (Shares port port' R R' out out') Eq (SerialLine.drain start n : Op η Unit)
      (SerialLine.drain start' n : Op η' Unit) := by
  refine Parallel.get.bind fun {line line'} h => ?_
  rw [h.halfDuplex]
  cases line'.halfDuplex with
  | false => exact .pure rfl
  | true =>
    exact (attempt hR hR' rfl).bind fun _ => clock.bind fun _ => sleep hR hR' _ _

theorem write (data : Bytes) :
    Parallel (Shares port port' R R' out out') Eq (SerialLine.write data : Op η Nat)
      (SerialLine.write data : Op η' Nat) := by
  have hsend : Parallel (Shares port port' R R' out out') Eq (send data : Op η Bytes)
      (send data : Op η' Bytes) := by
    refine (transfer hR hR' rfl).andThen fun x => ?_
    obtain ⟨sent, _ | e⟩ := x
    · exact .pure rfl
    · exact .throw e
  exact clock.bind fun _ => hsend.andThen fun sent => (drain hR hR' _ _ _).andThen fun _ =>
    .pure rfl

/-- Whatever is asked of them, both lines do it alike. -/
theorem program (c : Call) :
    Parallel (Shares port port' R R' out out') Eq (program c : Op η Reply)
      (program c : Op η' Reply) := by
  cases c with
  | configure s => exact silently (configure hR hR' s)
  | halfDuplex enable =>
    exact silently (.modify fun h => ⟨h.name, h.name', rfl, h.wire, h.sent⟩)
  | sleep ms => exact silently (sleep hR hR' _ _)
  | read n => exact (transfer hR hR' rfl).andThen fun _ => .pure rfl
  | write data => exact (write hR hR' data).andThen fun _ => .pure rfl
  | close => exact .pure rfl
  | _ => exact silently (attempt hR hR' rfl)

/-- **Two lines on one wire give the same replies**, and send the same bytes. -/
theorem call {line : SerialLine η} {line' : SerialLine η'} (c : Call)
    (h : Shares port port' R R' out out' line line') :
    (Link.call c line).1 = (Link.call c line').1 ∧
      Shares port port' R R' out out' (Link.call c line).2 (Link.call c line').2 := by
  have hends := program hR hR' c line line' h
  show (replyOf _ line).1 = (replyOf _ line').1 ∧
    Shares _ _ _ _ _ _ (replyOf _ line).2 (replyOf _ line').2
  unfold replyOf
  generalize SerialLine.program c line = r at hends
  generalize SerialLine.program c line' = r' at hends
  cases hends with
  | ok value state => exact ⟨value, state⟩
  | error e state => exact ⟨rfl, state⟩

end Shares

end SerialLine

end DiveLink
