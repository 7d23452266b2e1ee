import DiveLink.Bench.Rig
import DiveLink.Proofs.Vyper2.Carried
import DiveLink.Proofs.Vyper2.Wired

/-!
# A bench with a simulated device

A bench with a simulated Vyper2 and an empty script is a link that passes on every byte.  With a
script of failures and a device whose answers are changed or cut it is one that may fail, and still
adds nothing.

## Main definitions

* `Bench.Holds` — a bench with a device and some bytes that wait, on which nothing goes wrong.
* `Bench.Bears` — a bench with a device and some bytes that wait, whatever goes wrong.
* `Bench.simulating`, `Bench.disturbed` — a bench with a device and an empty script, and one on
  which something goes wrong.

## Main results

* `Bench.wired` — **a bench on which nothing goes wrong passes on every byte.**
* `Bench.carries` — **a bench adds nothing**, whatever goes wrong.
* `Bench.serves_simulating` — a session on it is one with a device that works.
-/

namespace DiveLink
namespace Bench

/-! ### Nothing goes wrong -/

/-- The script has nothing in store. -/
def Script.Idle (s : Script) : Prop := s.faults = [] ∧ s.cancels = []

theorem Script.Idle.enter {s : Script} (h : s.Idle) (call : String) :
    (s.enter call).1 = ⟨false, none, none⟩ ∧ (s.enter call).2.Idle := by
  obtain ⟨hfaults, hcancels⟩ := h
  refine ⟨?_, hfaults, hcancels⟩
  simp [Script.enter, hfaults, hcancels]

/-- On the bench the device `d` is at the other end and the bytes `w` wait; nothing goes wrong, and
the token is not cancelled. -/
structure Holds (token : CancelToken) (d : Vyper2.Simulator) (w : Bytes) (b : LinkBench) :
    Prop where
  simulator : b.rig.simulator = some d
  waiting : b.rig.waiting = w
  idle : b.rig.script.Idle
  uncancelled : b.around.isCancelled token = false

variable {token : CancelToken} {d : Vyper2.Simulator} {w : Bytes} {b : LinkBench}

/-- What a call does if nothing goes wrong. -/
theorem call_of_idle (h : b.rig.script.Idle) (c : Call) :
    Link.call c b =
      (({ b.rig with script := (b.rig.script.enter c.name).2 } : Rig).reply none c).map id
        fun rig => ⟨rig, b.around⟩ := by
  obtain ⟨hoccasion, -⟩ := h.enter c.name
  simp only [Link.call, hoccasion]
  rfl

/-- **A bench on which nothing goes wrong passes on every byte.** -/
theorem wired (token : CancelToken) : Vyper2.Wired token (Holds token) where
  uncancelled h := h.uncancelled
  sleep ms h := by
    rw [call_of_idle h.idle]
    exact ⟨h.simulator, h.waiting, (h.idle.enter _).2, h.uncancelled⟩
  rts level h := by
    rw [call_of_idle h.idle]
    exact ⟨rfl, h.simulator, h.waiting, (h.idle.enter _).2, h.uncancelled⟩
  write {d w b} data h := by
    rw [call_of_idle h.idle]
    -- without a limit the whole command reaches the device
    have htaken : data.take (atMost none data.length) = data := List.take_length
    simp only [Rig.reply, htaken, Rig.send, h.simulator, h.waiting]
    exact ⟨rfl, rfl, rfl, rfl, (h.idle.enter _).2, h.uncancelled⟩
  read n h _ := by
    rw [call_of_idle h.idle]
    refine ⟨rfl, ?_, h.simulator, ?_, (h.idle.enter _).2, h.uncancelled⟩
    · exact congrArg (List.take n) h.waiting
    · exact congrArg (List.drop n) h.waiting

/-! ### Whatever goes wrong -/

/-- A damage that changes or cuts an answer, and adds nothing to it. -/
def Harmless (x : Vyper2.Damage) : Prop := x.replace = none ∧ x.extra = []

/-- The device without the damages to its answers. -/
def undamaged (d : Vyper2.Simulator) : Vyper2.Simulator := { d with damages := [] }

theorem length_flips (flips : List (Nat × UInt8)) : ∀ a : Bytes,
    (flips.foldl (fun a f => a.modify f.1 (· ^^^ f.2)) a).length = a.length := by
  induction flips with
  | nil => intro a; rfl
  | cons f flips ih =>
    intro a
    rw [List.foldl_cons, ih, List.length_modify]

/-- An answer that is damaged without an addition is not longer than it was. -/
theorem length_apply_le {x : Vyper2.Damage} (h : Harmless x) (answer : Bytes) :
    (x.apply answer).length ≤ answer.length := by
  obtain ⟨hreplace, hextra⟩ := h
  have hflips := length_flips x.flips answer
  unfold Vyper2.Damage.apply
  simp only [hreplace, hextra, Option.getD_none, List.append_nil]
  obtain ⟨a, ha⟩ : ∃ a, a = x.flips.foldl (fun a f => a.modify f.1 (· ^^^ f.2)) answer := ⟨_, rfl⟩
  rw [← ha] at hflips ⊢
  -- a checksum that is made right takes the place of the one before
  have hrepaired : (if x.repair = true ∧ a ≠ [] then Packet.frame a.dropLast else a).length =
      a.length := by
    split
    · next h =>
      have hpos := List.length_pos_iff.2 h.2
      rw [Packet.length_frame, List.length_dropLast]
      omega
    · rfl
  cases x.keep with
  | none => exact Nat.le_of_eq (hrepaired.trans hflips)
  | some n =>
    rw [List.length_take, hrepaired, hflips]
    exact Nat.min_le_right _ _

theorem length_damaged_le {damages : List Vyper2.Damage} (h : ∀ x ∈ damages, Harmless x) :
    ∀ answer : Bytes, (damages.foldl (fun a x => x.apply a) answer).length ≤ answer.length := by
  induction damages with
  | nil => intro answer; exact Nat.le_refl _
  | cons x damages ih =>
    intro answer
    exact Nat.le_trans (ih (fun y hy => h y (List.mem_cons_of_mem x hy)) _)
      (length_apply_le (h x List.mem_cons_self) answer)

/-- A damaged device does what an undamaged one does, and its answers are not longer. -/
structure Follows (answer : Bytes × Vyper2.Simulator) (answer' : Bytes × Vyper2.Simulator)
    (damages : List Vyper2.Damage) : Prop where
  length : answer.1.length ≤ answer'.1.length
  device : answer'.2 = undamaged answer.2
  damages : answer.2.damages = damages

theorem follows_takeFrame {d : Vyper2.Simulator} (h : ∀ x ∈ d.damages, Harmless x)
    (frame : Bytes) : Follows (d.takeFrame frame) ((undamaged d).takeFrame frame) d.damages := by
  have hsame : (undamaged d).answer frame = d.answer frame := rfl
  unfold Vyper2.Simulator.takeFrame
  rw [hsame]
  rcases d.answer frame with ⟨_ | body, memory⟩
  · exact ⟨Nat.le_refl _, rfl, rfl⟩
  · refine ⟨length_damaged_le ?_ _, rfl, rfl⟩
    intro x hx
    exact h x (List.mem_filter.1 hx).1

/-- What waits at the device is not a whole frame. -/
def Quiet (d : Vyper2.Simulator) : Prop :=
  d.pending.length < 3 ∨ d.pending.length < Vyper2.Simulator.frameLength d.pending

/-- Behind an answer no whole frame is left. -/
theorem follows_drain : ∀ (n : Nat) (d : Vyper2.Simulator), d.pending.length = n →
    (∀ x ∈ d.damages, Harmless x) →
      Follows d.drain (undamaged d).drain d.damages ∧ Quiet d.drain.2 := by
  intro n
  induction n using Nat.strongRecOn with
  | _ n ih =>
    intro d hn h
    rw [Vyper2.Simulator.drain, Vyper2.Simulator.drain]
    have hpending : (undamaged d).pending = d.pending := rfl
    rw [hpending]
    split
    · next hframe =>
      obtain ⟨k, hk⟩ : ∃ k, k = Vyper2.Simulator.frameLength d.pending := ⟨_, rfl⟩
      have hpos : 4 ≤ k := by
        rw [hk]
        exact Nat.le_add_left _ _
      rw [← hk] at hframe ⊢
      obtain ⟨hlength, hdevice, hdamages⟩ := follows_takeFrame h (d.pending.take k)
      -- the two go on with what is left
      have hrest :
          undamaged { (d.takeFrame (d.pending.take k)).2 with pending := d.pending.drop k } =
          { ((undamaged d).takeFrame (d.pending.take k)).2 with pending := d.pending.drop k } := by
        rw [hdevice]
        rfl
      obtain ⟨⟨hlength', hdevice', hdamages'⟩, hquiet⟩ := ih (n - k) (by omega)
        { (d.takeFrame (d.pending.take k)).2 with pending := d.pending.drop k }
        (by rw [List.length_drop, hn]) (by rw [hdamages]; exact h)
      rw [hrest] at hlength' hdevice'
      refine ⟨⟨?_, hdevice', hdamages'.trans hdamages⟩, hquiet⟩
      simp only [List.length_append]
      exact Nat.add_le_add hlength hlength'
    · next hframe =>
      refine ⟨⟨Nat.le_refl _, rfl, rfl⟩, ?_⟩
      show d.pending.length < 3 ∨ d.pending.length < Vyper2.Simulator.frameLength d.pending
      omega

/-- On the bench there is the device `d`, but for damages that add nothing to its answers, and the
bytes `w` wait. -/
def Bears (d : Vyper2.Simulator) (w : Bytes) (b : LinkBench) : Prop :=
  ∃ d₀, b.rig.simulator = some d₀ ∧ d = undamaged d₀ ∧ b.rig.waiting = w ∧
    (∀ x ∈ d₀.damages, Harmless x) ∧ Quiet d₀

/-- Some first bytes are sent: the device is fed with them, and some of its answer waits behind the
others. -/
theorem bears_send (h : Bears d w b) (data : Bytes) (script : Script) (around : Surroundings) :
    ∃ answer, answer.length ≤ (d.feed data).1.length ∧
      Bears (d.feed data).2 (w ++ answer) ⟨({ b.rig with script } : Rig).send data, around⟩ := by
  obtain ⟨d₀, hsimulator, rfl, hwaiting, hharmless, -⟩ := h
  obtain ⟨hfollows, hquiet⟩ := follows_drain _
    { d₀ with pending := d₀.pending ++ data } rfl hharmless
  refine ⟨(d₀.feed data).1, hfollows.length, (d₀.feed data).2, ?_, hfollows.device, ?_, ?_,
    hquiet⟩
  · simp only [Rig.send, hsimulator]
  · simp only [Rig.send, hsimulator, hwaiting]
  · intro x hx
    exact hharmless x (hfollows.damages ▸ hx)

/-- A call fails, and then nothing happens on the bench, or it is let through up to a limit. -/
theorem call_cases (c : Call) (b : LinkBench) : ∃ script around,
    (∃ e, Link.call c b = ({ failure := some e }, ⟨{ b.rig with script }, around⟩)) ∨
      ∃ limit, Link.call c b =
        ((({ b.rig with script } : Rig).reply limit c).1,
          ⟨(({ b.rig with script } : Rig).reply limit c).2, around⟩) := by
  obtain ⟨occasion, hoccasion⟩ : ∃ occasion, occasion = b.rig.script.enter c.name := ⟨_, rfl⟩
  refine ⟨occasion.2, b.around.follow occasion.1, ?_⟩
  simp only [Link.call, ← hoccasion]
  cases hfailure : occasion.1.failure with
  | none => exact Or.inr ⟨_, rfl⟩
  | some e =>
    cases c with
    | sleep ms => exact Or.inr ⟨occasion.1.limit, rfl⟩
    | _ => exact Or.inl ⟨e.toIoError, rfl⟩

/-- **A bench adds nothing to what it passes on**, whatever its script has in store, if no damage to
an answer does. -/
theorem carries : Vyper2.Carries Bears where
  sleep := by
    intro d w b ms h
    obtain ⟨script, around, ⟨e, hcall⟩ | ⟨limit, hcall⟩⟩ := call_cases (.sleep ms) b <;> rw [hcall]
    · exact h
    · exact h
  rts := by
    intro d w b level h
    obtain ⟨script, around, ⟨e, hcall⟩ | ⟨limit, hcall⟩⟩ := call_cases (.rts level) b <;> rw [hcall]
    · exact h
    · exact h
  write := by
    intro d w b data h
    obtain ⟨script, around, ⟨e, hcall⟩ | ⟨limit, hcall⟩⟩ := call_cases (.write data) b <;>
      rw [hcall]
    · -- a call that fails moves nothing
      obtain ⟨d₀, -, hd, -, -, hquiet⟩ := id h
      have hnothing : d.feed (data.take 0) = ([], d) := by
        rw [List.take_zero, Vyper2.Simulator.feed, List.append_nil, hd]
        exact Vyper2.Simulator.drain_of_short hquiet
      refine ⟨0, [], Nat.zero_le _, fun hok => absurd hok (by simp), Nat.zero_le _, ?_⟩
      rw [hnothing, List.append_nil]
      exact h
    · obtain ⟨answer, hanswer, hbears⟩ := bears_send h (data.take (atMost limit data.length))
        script around
      have hmoved : data.take (data.take (atMost limit data.length)).length =
          data.take (atMost limit data.length) := by
        rw [List.length_take, ← List.take_take, List.take_length]
      refine ⟨(data.take (atMost limit data.length)).length, answer, ?_, fun _ => rfl, ?_, ?_⟩
      · rw [List.length_take]
        exact Nat.min_le_right _ _
      · rwa [hmoved]
      · rwa [hmoved]
  read := by
    intro d w b size h
    obtain ⟨script, around, ⟨e, hcall⟩ | ⟨limit, hcall⟩⟩ := call_cases (.read size) b <;> rw [hcall]
    · exact ⟨0, fun hok => absurd hok (by simp), h⟩
    · obtain ⟨d₀, hsimulator, hd, hwaiting, hharmless, hquiet⟩ := h
      refine ⟨atMost limit size, fun _ => ?_, d₀, hsimulator, hd, ?_, hharmless, hquiet⟩
      · exact congrArg (List.take (atMost limit size)) hwaiting
      · exact congrArg (List.drop (atMost limit size)) hwaiting

/-- A bench with a device and an empty script. -/
def simulating (version memory : Bytes) : LinkBench :=
  { rig := { simulator := some { versionBlock := version, memory } }, around := { now := 0 } }

/-- A bench with a device whose answers are damaged, and a script of what else goes wrong. -/
def disturbed (version memory : Bytes) (damages : List Vyper2.Damage) (script : Script) :
    LinkBench :=
  { rig := { simulator := some { versionBlock := version, memory, damages }, script }
    around := { now := 0 } }

/-- A session that begins on a bench with an empty script is one with this device. -/
theorem serves_simulating {δ : Type} (token : CancelToken) (device : δ) (version memory : Bytes) :
    Vyper2.Serves (Holds token) version memory
      (Session.start (simulating version memory) device token) :=
  ⟨wired token, _, ⟨rfl, rfl, ⟨rfl, rfl⟩, rfl⟩, ⟨rfl, rfl, rfl, rfl⟩⟩

end Bench
end DiveLink
