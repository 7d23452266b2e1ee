import DiveLink.Handshake
import DiveLink.Packet
import DiveLink.Proofs.Parallel
import Mathlib.Data.List.Forall2

/-!
# Sessions on two links that answer alike

Two links that give the same replies to the same calls cannot be told apart by a program that uses
them.  Only the time of the host may differ, and what is said about it: the clocks that are reported
differ as far as the two hosts do, and nothing else does.

## Main definitions

* `Lockstep R T` — links that `R` relates give the same replies, at times that `T` relates.
* `Entry.Alike`, `Session.Alike` — entries and sessions that differ in the time of the host at most.
* `Session.Agrees` — programs that end alike on sessions that are alike.

## Main results

* `Session.Agrees.perform`, `Session.Agrees.emit` — each call and each report agrees.
* `Session.Agrees.ask`, `Session.Agrees.handshake` — **an exchange of packets and a handshake
  agree.**
-/

namespace DiveLink

variable {σ ρ : Type}

/-- Links that `R` relates give the same replies to all that is asked of them, and `T` relates the
times at which they are. -/
structure Lockstep [Link σ] [Link ρ] (R : σ → ρ → Prop) (T : Nat → Nat → Prop) : Prop where
  call : ∀ {x y} (c : Call), R x y → (Link.call c x).1 = (Link.call c y).1 ∧
    R (Link.call c x).2 (Link.call c y).2
  cancelled : ∀ {x y} (token : CancelToken), R x y →
    Link.cancelled token x = Link.cancelled token y
  now : ∀ {x y}, R x y → T (Link.now x).toNat (Link.now y).toNat

/-- Clocks of the same device, each with the time of its own host. -/
structure Clock.Alike (T : Nat → Nat → Prop) (c c' : Clock) : Prop where
  devtime : c.devtime = c'.devtime
  systime : T c.systime c'.systime

/-- Entries that are the same but for the time of the host. -/
inductive Entry.Alike (T : Nat → Nat → Prop) : Entry → Entry → Prop
  | same (e : Entry) : Alike T e e
  | clock {c c' : Clock} (h : c.Alike T c') : Alike T (.event (.clock c)) (.event (.clock c'))

namespace Session

variable {δ α β α' β' : Type} {R : σ → ρ → Prop} {T : Nat → Nat → Prop} {D : δ → δ → Prop}

/-- Two sessions are the same but for their links, which `R` relates, for what is remembered about
the device, which `D` relates, and for the time of the host. -/
structure Alike (R : σ → ρ → Prop) (T : Nat → Nat → Prop) (D : δ → δ → Prop) (s : Session σ δ)
    (t : Session ρ δ) : Prop where
  link : R s.link t.link
  device : D s.device t.device
  token : s.token = t.token
  listening : s.listening = t.listening
  past : List.Forall₂ (Entry.Alike T) s.past t.past

theorem Alike.history {s : Session σ δ} {t : Session ρ δ} (h : Alike R T D s t) :
    List.Forall₂ (Entry.Alike T) s.history t.history :=
  List.forall₂_reverse_iff.2 h.past

/-- Programs end alike on sessions that are alike. -/
abbrev Agrees (R : σ → ρ → Prop) (T : Nat → Nat → Prop) (D : δ → δ → Prop) (V : α → β → Prop)
    (x : Op σ δ α) (y : Op ρ δ β) : Prop :=
  Parallel (Alike R T D) V x y

namespace Agrees

/-! ### What is noted -/

theorem record {es es' : List Entry} (h : List.Forall₂ (Entry.Alike T) es es') :
    Agrees R T D Eq (record es : Op σ δ Unit) (Session.record es' : Op ρ δ Unit) :=
  .modify fun hs => ⟨hs.link, hs.device, hs.token, hs.listening,
    List.rel_append (List.forall₂_reverse_iff.2 h) hs.past⟩

theorem recordSame (es : List Entry) :
    Agrees R T D Eq (Session.record es : Op σ δ Unit) (Session.record es : Op ρ δ Unit) :=
  record (List.forall₂_same.2 fun e _ => .same e)

theorem warn (w : Warning) :
    Agrees R T D Eq (warn w : Op σ δ Unit) (Session.warn w : Op ρ δ Unit) :=
  recordSame [.warning w]

/-- An event is reported in both sessions or in none. -/
theorem emit {e e' : Event} (h : Entry.Alike T (.event e) (.event e')) :
    Agrees R T D Eq (emit e : Op σ δ Unit) (Session.emit e' : Op ρ δ Unit) := by
  refine Parallel.get.bind fun {s t} hs => ?_
  rw [hs.listening]
  cases t.listening with
  | false => exact .pure rfl
  | true => exact record (.cons h .nil)

theorem warning {V : α → β → Prop} {x : Op σ δ α} {y : Op ρ δ β} (w : Warning)
    (h : Agrees R T D V x y) : Agrees R T D V (warning w x) (Session.warning w y) :=
  h.tryCatch fun e => (warn w).andThen fun _ => .throw e

theorem outcome {x : Op σ δ α} {y : Op ρ δ α} (h : Agrees R T D Eq x y) :
    Agrees R T D Eq (outcome x) (Session.outcome y) :=
  (h.map fun hv => congrArg Except.ok hv).tryCatch fun _ => .pure rfl

theorem lift (r : Except DeviceError α) :
    Agrees R T D Eq (lift r : Op σ δ α) (Session.lift r : Op ρ δ α) := by
  cases r with
  | ok a => exact .pure rfl
  | error e => exact .throw e

theorem reject (f : DataFault) :
    Agrees R T D Eq (reject f : Op σ δ α) (Session.reject f : Op ρ δ α) :=
  (recordSame _).andThen fun _ => .throw _

theorem report (w : Walk) :
    Agrees R T D Eq (report w : Op σ δ (List Dive)) (Session.report w : Op ρ δ (List Dive)) := by
  refine (recordSame _).andThen fun _ => ?_
  cases w.fault with
  | none => exact .pure rfl
  | some f => exact reject f

/-! ### Calls -/

variable [Link σ] [Link ρ] (hlink : Lockstep R T)
include hlink

theorem perform (c : Call) :
    Agrees R T D Eq (perform c : Op σ δ Reply) (Session.perform c : Op ρ δ Reply) := by
  intro s t hs
  obtain ⟨hreply, hbehind⟩ := hlink.call c hs.link
  have hentry : Entry.Alike T (.call c (Link.call c s.link).1)
      (.call c (Link.call c t.link).1) := by
    rw [hreply]
    exact .same _
  exact .ok hreply ⟨hbehind, hs.device, hs.token, hs.listening, .cons hentry hs.past⟩

theorem attempt (c : Call) :
    Agrees R T D Eq (attempt c : Op σ δ Unit) (Session.attempt c : Op ρ δ Unit) := by
  refine (perform hlink c).andThen fun reply => ?_
  cases reply.failure with
  | none => exact .pure rfl
  | some e => exact .throw _

theorem pause (ms : Nat) :
    Agrees R T D Eq (pause ms : Op σ δ Unit) (Session.pause ms : Op ρ δ Unit) :=
  (perform hlink _).andThen fun _ => .pure rfl

theorem isCancelled :
    Agrees R T D Eq (isCancelled : Op σ δ Bool) (Session.isCancelled : Op ρ δ Bool) :=
  Parallel.get.bind fun hs => .pure (by rw [hs.token]; exact hlink.cancelled _ hs.link)

theorem now : Agrees R T D (fun a b => T a.toNat b.toNat) (now : Op σ δ Int)
    (Session.now : Op ρ δ Int) :=
  Parallel.get.bind fun hs => .pure (hlink.now hs.link)

theorem receive (n : Nat) :
    Agrees R T D Eq (receive n : Op σ δ Receipt) (Session.receive n : Op ρ δ Receipt) :=
  (perform hlink _).andThen fun _ => .pure rfl

theorem transmit (data : Bytes) :
    Agrees R T D Eq (transmit data : Op σ δ Unit) (Session.transmit data : Op ρ δ Unit) := by
  refine (perform hlink _).andThen fun reply => ?_
  cases reply.failure with
  | some e => exact .throw _
  | none =>
    by_cases h : reply.accepted = data.length
    · simp only [if_pos h]
      exact .pure rfl
    · simp only [if_neg h]
      exact .throw _

/-! ### Exchanges and handshakes -/

theorem send (settle : Nat) (command : Bytes) :
    Agrees R T D Eq (Packet.send settle command : Op σ δ Unit)
      (Packet.send settle command : Op ρ δ Unit) := by
  refine (isCancelled hlink).andThen fun cancelled => ?_
  cases cancelled with
  | true => exact .throw _
  | false =>
    exact (pause hlink _).andThen fun _ => (attempt hlink _).andThen fun _ =>
      ((transmit hlink _).warning _).andThen fun _ => attempt hlink _

theorem ask (settle : Nat) (command : Bytes) (parameters size : Nat) :
    Agrees R T D Eq (Packet.ask settle command parameters size : Op σ δ Bytes)
      (Packet.ask settle command parameters size : Op ρ δ Bytes) := by
  have hexchange : ∀ length, Agrees R T D Eq
      (Packet.exchange settle command length size : Op σ δ Receipt)
      (Packet.exchange settle command length size : Op ρ δ Receipt) := by
    intro length
    refine (send hlink settle command).outcome.andThen fun sent => ?_
    cases sent with
    | error e => exact .pure rfl
    | ok =>
      refine (receive hlink length).andThen fun answer => ?_
      cases answer.outcome with
      | error e => exact (warn _).andThen fun _ => .pure rfl
      | ok =>
        simp only
        cases Packet.check command answer.bytes size with
        | ok => exact .pure rfl
        | error f => exact (recordSame _).andThen fun _ => .pure rfl
  exact (hexchange _).andThen fun answer => lift _

theorem handshake (size : Nat) :
    Agrees R T D Eq (handshake size : Op σ δ Bytes) (DiveLink.handshake size : Op ρ δ Bytes) := by
  refine (attempt hlink _).andThen fun _ => (receive hlink _).andThen fun frame =>
    (attempt hlink _).andThen fun _ => ?_
  cases frame.outcome with
  | error e => exact (warn _).andThen fun _ => .throw e
  | ok =>
    cases Checksum.stripCrc16? frame.bytes with
    | some payload => exact .pure rfl
    | none => exact (warn _).andThen fun _ => .throw _

end Agrees
end Session
end DiveLink
