import DiveLink.Proofs.Bench
import DiveLink.Proofs.Vyper2.Exchanging

/-!
# Damage does not outlast an operation

Nothing is ever thrown away between two exchanges with a Vyper2.  If answers arrive changed or cut,
both sides stay in step all the same: each answer is as long as its command makes one expect, so
behind an exchange nothing of it is left, however it ended.

## Main definitions

* `Vyper2.Lossy` — a link that may change and cut the answers of a device, and nothing else.
* `Vyper2.Genuine` — calls of which each read has brought what the device had sent.
* `Vyper2.Recovers` — a program that stays in step with the device.
* `Vyper2.Used` — operations on a handle, one after the other.

## Main results

* `Vyper2.Request.length_answer` — **each request is answered by as many bytes as are waited for.**
* `Vyper2.Used.in_step` — **behind each operation both sides are in step.**
* `Bench.lossy` — a bench on which no call fails changes and cuts answers, and does nothing else.
* `Device.recovers_from_damage` — **what went wrong before makes no difference.**
-/

namespace DiveLink
namespace Vyper2

open Session

/-! ### Answers to requests -/

namespace Request

/-- The answer of a device with this version block and memory. -/
def answer (version memory : Bytes) : Request → Bytes
  | .version => versionAnswer version
  | block b => blockAnswer b (Memory.load memory b.address b.size)
  | store address data => Packet.response 0x06 (blockParameters ⟨address, data.length⟩) []
  | reset => Packet.response 0x20 [] []

/-- The memory of a device behind its answer. -/
def stored (memory : Bytes) : Request → Bytes
  | store address data => Memory.store memory address data
  | _ => memory

variable {version memory : Bytes} {q : Request}

/-- **Each request is answered by as many bytes as are waited for.** -/
theorem length_answer (hv : version.length = versionSize) (memory : Bytes) (q : Request) :
    (q.answer version memory).length = q.answerLength := by
  cases q with
  | version =>
    rw [answer, versionAnswer, Packet.length_response, hv]
    rfl
  | block b =>
    rw [answer, blockAnswer, Packet.length_response, length_blockParameters, Memory.length_load]
    rfl
  | store address data =>
    rw [answer, Packet.length_response, length_blockParameters]
    rfl
  | reset => rfl

/-- The answer of the device fits the command. -/
theorem check_answer (hv : version.length = versionSize) (hq : q.Proper) :
    Packet.check q.command (q.answer version memory) q.size = .ok () := by
  cases q with
  | version => exact check_versionAnswer hv
  | block b => exact check_blockAnswer hq (Memory.length_load _ _ _)
  | store address data =>
    refine Packet.check_response rfl (Nat.le_of_ble_eq_true rfl) rfl ?_
    rw [length_blockParameters]
    decide
  | reset => exact Packet.check_response rfl (by decide) rfl (by decide)

/-- A device that waits for a command answers a request, and waits for the next command. -/
theorem feed_command {d : Simulator} (h : Simulator.Ready version memory d)
    (hv : version.length = versionSize) (hq : q.Proper) :
    d.feed q.command = (q.answer version memory,
      { d with memory := q.stored memory, answered := d.answered + 1 }) := by
  -- the device answers each command in its own way, and is ready for another behind it
  cases q with
  | version =>
    rw [command, Simulator.feed_versionCommand h hv]
    simp only [stored, ← h.memory]
    rfl
  | block b =>
    rw [command, Simulator.feed_readCommand h hq]
    simp only [stored, ← h.memory]
    rfl
  | store address data => exact Simulator.feed_writeCommand h hq.address hq.size
  | reset =>
    refine Simulator.feed_frame h (by decide) (by decide) ?_
    show (some _, d.memory) = _
    rw [h.memory]
    rfl

end Request

/-! ### Links that alter answers -/

/-- The link passes on every byte to the device, and may change and cut its answers, but does not
add to them; no call fails, and a read takes what waits.  `At d w l` says that in the state `l` of
the link the device `d` is at its other end, and the bytes `w` wait to be received. -/
structure Lossy {σ : Type} [Link σ] (At : Simulator → Bytes → σ → Prop) : Prop where
  sleep : ∀ {d w l} (ms : Nat), At d w l → At d w (Link.call (.sleep ms) l).2
  rts : ∀ {d w l} (level : Bool), At d w l →
    (Link.call (.rts level) l).1.failure = none ∧ At d w (Link.call (.rts level) l).2
  write : ∀ {d w l} (data : Bytes), At d w l →
    (Link.call (.write data) l).1.failure = none ∧
      (Link.call (.write data) l).1.accepted = data.length ∧
      ∃ answer, answer.length ≤ (d.feed data).1.length ∧
        At (d.feed data).2 (w ++ answer) (Link.call (.write data) l).2
  read : ∀ {d w l} (n : Nat), At d w l →
    (Link.call (.read n) l).1.failure = none ∧
      (Link.call (.read n) l).1.received = w.take n ∧
      At d (w.drop n) (Link.call (.read n) l).2

/-- The device at the other end and the bytes that wait, behind a call on a link that alters
nothing. -/
def passOn : Simulator × Bytes → Call → Simulator × Bytes
  | (d, w), .write data => ((d.feed data).2, w ++ (d.feed data).1)
  | (d, w), .read n => (d, w.drop n)
  | x, _ => x

/-- The device at the other end and the bytes that wait, behind some calls on a link that alters
nothing. -/
def replay (x : Simulator × Bytes) (cs : Transcript) : Simulator × Bytes :=
  cs.foldl (fun x c => passOn x c.1) x

/-- How many bytes a call asks for, if it is one that reads. -/
def wanted? : Call → Option Nat
  | .read n => some n
  | _ => none

/-- Each read has received what it receives on a link that alters nothing. -/
def Genuine : Simulator × Bytes → Transcript → Prop
  | _, [] => True
  | x, c :: cs => (∀ n ∈ wanted? c.1, c.2.received = x.2.take n) ∧ Genuine (passOn x c.1) cs

instance decidableGenuine : ∀ x cs, Decidable (Genuine x cs)
  | _, [] => isTrue trivial
  | x, c :: cs => @instDecidableAnd _ _ inferInstance (decidableGenuine (passOn x c.1) cs)

theorem genuine_append {cs cs' : Transcript} : ∀ {x : Simulator × Bytes},
    Genuine x (cs ++ cs') ↔ Genuine x cs ∧ Genuine (replay x cs) cs' := by
  induction cs with
  | nil => exact fun {x} => ⟨fun h => ⟨trivial, h⟩, fun h => h.2⟩
  | cons c cs ih =>
    intro x
    show (_ ∧ Genuine _ (cs ++ cs')) ↔ (_ ∧ Genuine _ cs) ∧ Genuine (replay (passOn x c.1) cs) cs'
    rw [ih, and_assoc]

theorem replay_append (x : Simulator × Bytes) (cs cs' : Transcript) :
    replay x (cs ++ cs') = replay (replay x cs) cs' := List.foldl_append

/-! ### Both sides stay in step -/

section InStep

variable {σ : Type} {At : Simulator → Bytes → σ → Prop} {version : Bytes}
  {s t u : Session σ Vyper2} {d d' d'' : Simulator} {cs cs' : Transcript} {q : Request}

/-- The calls `cs` lead from the session `s` with the device `d` to the session `t` with the device
`d'`, where no byte waits on the link and the device waits for a command. -/
structure InStep (At : Simulator → Bytes → σ → Prop) (version : Bytes) (s t : Session σ Vyper2)
    (d d' : Simulator) (cs : Transcript) : Prop where
  made : Made s t cs
  device : t.device = s.device
  replayed : replay (d, []) cs = (d', [])
  at_link : At d' [] t.link
  ready : Simulator.Ready version d'.memory d'

theorem InStep.refl (hat : At d [] s.link) (hd : Simulator.Ready version d.memory d) :
    InStep At version s s d d [] := ⟨.refl s, rfl, rfl, hat, hd⟩

theorem InStep.trans (h : InStep At version s t d d' cs) (h' : InStep At version t u d' d'' cs') :
    InStep At version s u d d'' (cs ++ cs') where
  made := h.made.trans h'.made
  device := h'.device.trans h.device
  replayed := by rw [replay_append, h.replayed, h'.replayed]
  at_link := h'.at_link
  ready := h'.ready

/-- What makes no call and leaves the device alone may follow. -/
theorem InStep.quiet (h : InStep At version s t d d' cs) (hmade : Made t u [])
    (hlink : u.link = t.link) (hdevice : u.device = t.device) : InStep At version s u d d' cs where
  made := h.made.quiet hmade
  device := hdevice.trans h.device
  replayed := h.replayed
  at_link := hlink ▸ h.at_link
  ready := h.ready

/-- **Behind an exchange nothing of the answer is left**, whatever has become of it.  If nothing
has, the exchange succeeds. -/
theorem Lossy.after [Link σ] (hl : Lossy At) (hv : version.length = versionSize) (hq : q.Proper)
    (hat : At d [] s.link) (hd : Simulator.Ready version d.memory d)
    (huncancelled : Link.cancelled s.token s.link = false) :
    ∃ cs d', d'.memory = q.stored d.memory ∧
      InStep At version s (Packet.after settle q.command q.answerLength s) d d' cs ∧
      Packet.Sends settle q.command s ∧ (Genuine (d, []) cs →
        Packet.Succeeds settle q.command (q.answer version d.memory) q.size s) := by
  have hfeed := Request.feed_command hd hv hq
  have hlength := q.length_answer hv d.memory
  have hslept := hl.sleep settle hat
  obtain ⟨hraised, hup⟩ := hl.rts true hslept
  obtain ⟨hsent, haccepted, answer, hanswer, hwritten⟩ := hl.write q.command hup
  obtain ⟨hlowered, hdown⟩ := hl.rts false hwritten
  obtain ⟨hgot, -, hend⟩ := hl.read q.answerLength hdown
  rw [hfeed] at hanswer hend
  have hmade := ((((made_called (.sleep settle) s).trans (made_called (.rts true) _)).trans
    (made_called (.write q.command) _)).trans (made_called (.rts false) _)).trans
      (made_called (.read q.answerLength) _)
  have hsends : Packet.Sends settle q.command s :=
    ⟨huncancelled, hraised, hsent, haccepted, hlowered⟩
  refine ⟨_, { d with memory := q.stored d.memory, answered := d.answered + 1 }, rfl,
    ⟨hmade, rfl, ?_, ?_, ?_⟩, hsends, fun hgenuine => ?_⟩
  · -- the answer is read to its end
    show ((d.feed q.command).2, ([] ++ (d.feed q.command).1).drop q.answerLength) = _
    rw [hfeed, List.nil_append, List.drop_eq_nil_of_le (Nat.le_of_eq hlength)]
  · -- and so is what has arrived of it
    have hnothing : ([] ++ answer).drop q.answerLength = [] := by
      rw [List.nil_append]
      exact List.drop_eq_nil_of_le (hlength ▸ hanswer)
    rwa [hnothing] at hend
  · exact ⟨hd.versionBlock, rfl, hd.pending, hd.damages⟩
  · obtain ⟨-, -, -, -, hread, -⟩ := hgenuine
    have hreceived : (reply (.read q.answerLength) (Packet.afterSend settle q.command s)).received =
        ([] ++ (d.feed q.command).1).take q.answerLength := hread q.answerLength rfl
    rw [hfeed, List.nil_append, List.take_of_length_le (Nat.le_of_eq hlength)] at hreceived
    rw [← hlength] at hreceived hgot
    exact ⟨hsends, hgot, hreceived, Request.check_answer hv hq⟩

end InStep

/-! ### What is not altered -/

/-- The program `y` on a second link does in the session `u` what `x` has done in the session `s`:
it has the same result, and hands out the same dives.  The device on the second link, which alters
nothing, has the memory `memory` behind it. -/
structure Alike {σ ρ α : Type} [Link ρ] (Works : Simulator → Bytes → ρ → Prop)
    (version memory : Bytes) (s : Session σ Vyper2) (u : Session ρ Vyper2)
    (x : Except DeviceError α × Session σ Vyper2) (y : Except DeviceError α × Session ρ Vyper2) :
    Prop where
  result : y.1 = x.1
  serves : Serves Works version memory y.2
  device : y.2.device = u.device
  handed : ∃ ds, x.2.handed = s.handed ++ ds ∧ y.2.handed = u.handed ++ ds

/-- The program `x` stays in step; and if nothing of it is altered and it is not cancelled, it does
what `y` does on a link that alters nothing, to a device with the same memory. -/
def Recovers {σ ρ α : Type} [Link ρ] (At : Simulator → Bytes → σ → Prop)
    (Works : Simulator → Bytes → ρ → Prop) (version : Bytes)
    (stopped : Except DeviceError α → Prop) (x : Op σ Vyper2 α) (y : Op ρ Vyper2 α) : Prop :=
  ∀ s d, At d [] s.link → Simulator.Ready version d.memory d → ∃ cs d',
    InStep At version s (run x s).2 d d' cs ∧
      (Genuine (d, []) cs → ¬ stopped (run x s).1 → ∀ u : Session ρ Vyper2,
        Serves Works version d.memory u → u.device = s.device →
          Alike Works version d'.memory s u (run x s) (run y u))

namespace Recovers

variable {σ ρ α β : Type} [Link ρ] {At : Simulator → Bytes → σ → Prop}
  {Works : Simulator → Bytes → ρ → Prop} {version : Bytes}
  {stopped : Except DeviceError α → Prop} {stopped' : Except DeviceError β → Prop}
  {x : Op σ Vyper2 α} {y : Op ρ Vyper2 α}

theorem congr {x' : Op σ Vyper2 α} {y' : Op ρ Vyper2 α}
    (h : Recovers At Works version stopped x' y') (hx : ∀ s, run x s = run x' s)
    (hy : ∀ u, run y u = run y' u) : Recovers At Works version stopped x y := by
  intro s d hat hd
  rw [hx]
  obtain ⟨cs, d', hstep, halike⟩ := h s d hat hd
  refine ⟨cs, d', hstep, fun hgenuine hnot u hu hdevice => ?_⟩
  rw [hy]
  exact halike hgenuine hnot u hu hdevice

/-- **Of two programs one behind the other** the second begins where the first one ends. -/
theorem seq {f : α → Op σ Vyper2 β} {g : α → Op ρ Vyper2 β}
    {fail : DeviceError → Except DeviceError β} {X : Op σ Vyper2 β} {Y : Op ρ Vyper2 β}
    (hx : Recovers At Works version Cancelled x y) (hX : Continues x f fail X)
    (hY : Continues y g fail Y) (hstopped : stopped' (fail .cancelled))
    (hf : ∀ a, Recovers At Works version stopped' (f a) (g a)) :
    Recovers At Works version stopped' X Y := by
  intro s d hat hd
  obtain ⟨cs, d', hstep, halike⟩ := hx s d hat hd
  rcases hrun : run x s with ⟨e | a, t⟩ <;> rw [hrun] at hstep halike
  · rw [hX.error hrun]
    refine ⟨cs, d', hstep, fun hgenuine hnot u hu hdevice => ?_⟩
    -- what is caught was no cancellation
    have hne : ¬ Cancelled (.error e : Except DeviceError α) := by
      intro h
      cases h
      exact hnot hstopped
    obtain ⟨hresult, hserves, hkept, hhanded⟩ := halike hgenuine hne u hu hdevice
    rcases hrun' : run y u with ⟨r, v⟩
    rw [hrun'] at hresult hserves hkept hhanded
    obtain rfl : r = .error e := hresult
    rw [hY.error hrun']
    exact ⟨rfl, hserves, hkept, hhanded⟩
  · rw [hX.ok hrun]
    obtain ⟨cs', d'', hstep', halike'⟩ := hf a t d' hstep.at_link hstep.ready
    refine ⟨cs ++ cs', d'', hstep.trans hstep', fun hgenuine hnot u hu hdevice => ?_⟩
    rw [genuine_append, hstep.replayed] at hgenuine
    obtain ⟨hresult, hserves, hkept, ds, hhanded, hhanded'⟩ :=
      halike hgenuine.1 (fun h => absurd h (by simp [Cancelled])) u hu hdevice
    rcases hrun' : run y u with ⟨r, v⟩
    rw [hrun'] at hresult hserves hkept hhanded'
    obtain rfl : r = .ok a := hresult
    rw [hY.ok hrun']
    obtain ⟨hresult', hserves', hkept', es, hmore, hmore'⟩ := halike' hgenuine.2 hnot v hserves
      (hkept.trans (hdevice.trans hstep.device.symm))
    refine ⟨hresult', hserves', hkept'.trans hkept, ds ++ es, ?_, ?_⟩
    · rw [hmore, hhanded, List.append_assoc]
    · rw [hmore', hhanded', List.append_assoc]

theorem returning (f : α → β) (hx : Recovers At Works version stopped x y)
    (hf : ∀ r : Except DeviceError α, stopped r → stopped' (r.map f)) :
    Recovers At Works version stopped' (f <$> x) (f <$> y) := by
  intro s d hat hd
  obtain ⟨cs, d', hstep, halike⟩ := hx s d hat hd
  rw [run_map]
  refine ⟨cs, d', hstep, fun hgenuine hnot u hu hdevice => ?_⟩
  obtain ⟨hresult, hserves, hkept, hhanded⟩ :=
    halike hgenuine (fun h => hnot (hf _ h)) u hu hdevice
  rw [run_map]
  exact ⟨congrArg (Except.map f) hresult, hserves, hkept, hhanded⟩

end Recovers

/-! ### What is done beside exchanges -/

section Aside

variable {σ : Type}

/-- The program `x` makes no call, and its result and the dives that it hands out follow from what
is remembered about the device. -/
def Aside {α : Type} (r : Vyper2 → Except DeviceError α) (ds : Vyper2 → List Dive)
    (x : Op σ Vyper2 α) : Prop :=
  ∀ s, (run x s).1 = r s.device ∧ Made s (run x s).2 [] ∧ (run x s).2.link = s.link ∧
    (run x s).2.device = s.device ∧ (run x s).2.handed = s.handed ++ ds s.device

theorem aside_pure {α : Type} (a : α) :
    Aside (fun _ => .ok a) (fun _ => []) (pure a : Op σ Vyper2 α) :=
  fun s => ⟨rfl, .refl s, rfl, rfl, (List.append_nil _).symm⟩

theorem aside_throw {α : Type} (e : DeviceError) :
    Aside (fun _ => .error e) (fun _ => []) (throw e : Op σ Vyper2 α) :=
  fun s => ⟨rfl, .refl s, rfl, rfl, (List.append_nil _).symm⟩

theorem aside_record (ws : List Warning) : Aside (fun _ => .ok ()) (fun _ => [])
    (record (ws.map .warning) : Op σ Vyper2 Unit) := by
  intro s
  refine ⟨rfl, made_warned ws s, rfl, rfl, ?_⟩
  rw [List.append_nil]
  exact (grows_warned ws s).handed_of_none (by simp [Entry.dive?])

theorem aside_emit (e : Event) :
    Aside (fun _ => .ok ()) (fun _ => []) (emit e : Op σ Vyper2 Unit) := by
  intro s
  rw [run_emit, List.append_nil]
  split
  · have hgrows := grows_record [.event e] s
    exact ⟨rfl, hgrows.made, rfl, rfl, hgrows.handed_of_none (by simp [Entry.dive?])⟩
  · exact ⟨rfl, .refl s, rfl, rfl, rfl⟩

theorem aside_report (walk : Vyper2 → Walk) :
    Aside (fun d => (walk d).fault.elim (.ok (walk d).dives) fun f => .error (.dataFormat f))
      (fun d => (walk d).dives)
      (get >>= fun s => report (walk s.device) : Op σ Vyper2 (List Dive)) := by
  intro s
  rw [run_bind_ok (run_get s)]
  obtain ⟨hresult, hgrows⟩ := run_report (walk s.device) s
  refine ⟨hresult, ⟨by rw [calls_report, List.append_nil], hgrows.token⟩, ?_, hgrows.device,
    handed_report _ s⟩
  unfold report
  rw [run_bind_ok (run_record _ s)]
  cases (walk s.device).fault <;> rfl

end Aside

variable {σ ρ α : Type} [Link ρ] {At : Simulator → Bytes → σ → Prop}
  {Works : Simulator → Bytes → ρ → Prop} {version : Bytes}
  {stopped : Except DeviceError α → Prop}

theorem recovers_aside {r : Vyper2 → Except DeviceError α} {ds : Vyper2 → List Dive}
    {x : Op σ Vyper2 α} {y : Op ρ Vyper2 α} (hx : Aside r ds x) (hy : Aside r ds y) :
    Recovers At Works version stopped x y := by
  intro s d hat hd
  obtain ⟨hresult, hmade, hlink, hdevice, hhanded⟩ := hx s
  refine ⟨[], d, (InStep.refl hat hd).quiet hmade hlink hdevice, fun _ _ u hu hsame => ?_⟩
  obtain ⟨hresult', hmade', hlink', hdevice', hhanded'⟩ := hy u
  refine ⟨?_, ⟨hmade'.token ▸ hu.wired, hlink' ▸ hu.ready⟩, hdevice', ds s.device, hhanded, ?_⟩
  · rw [hresult, hresult', hsame]
  · rw [hhanded', hsame]

/-! ### Exchanges -/

/-- On a link that alters nothing a request is answered, and the device goes on. -/
theorem Serves.ask {memory : Bytes} {q : Request} {u : Session ρ Vyper2}
    (hu : Serves Works version memory u) (hv : version.length = versionSize) (hq : q.Proper) :
    ∃ v, run (Packet.ask settle q.command q.parameters q.size) u =
      (.ok (q.answer version memory), v) ∧ Serves Works version (q.stored memory) v ∧
        v.device = u.device := by
  obtain ⟨d, hat, hd⟩ := hu.ready
  obtain ⟨hsucceeds, hat'⟩ : Packet.Succeeds settle q.command (q.answer version memory) q.size u ∧ _ :=
    hu.wired.exchange hat (Request.feed_command hd hv hq) (Request.check_answer hv hq)
  refine ⟨_, Packet.run_ask_eq_ok.2 ⟨hsucceeds, q.length_answer hv _, rfl⟩, ⟨hu.wired, _, hat', ?_⟩,
    rfl⟩
  exact ⟨hd.versionBlock, rfl, hd.pending, hd.damages⟩

/-- **A request is answered as on a link that alters nothing, or its exchange fails**; in either
case nothing of the answer is left. -/
theorem recovers_ask [Link σ] (hl : Lossy At) (hv : version.length = versionSize) {q : Request}
    (hq : q.Proper) :
    Recovers At Works version Cancelled (Packet.ask settle q.command q.parameters q.size)
      (Packet.ask settle q.command q.parameters q.size) := by
  intro s d hat hd
  have hasking := Packet.asking settle q.command q.parameters q.size s
  have hhanded := compositional_handed.ask settle q.command q.parameters q.size s
  rcases hrun : run (Packet.ask settle q.command q.parameters q.size) s with ⟨r, t⟩
  rw [hrun] at hasking hhanded
  cases hc : Link.cancelled s.token s.link with
  | true =>
    cases hasking with
    | unsent h =>
      cases h with
      | cancelled _ => exact ⟨[], d, .refl hat hd, fun _ hnot => absurd rfl hnot⟩
      | unraised h => exact absurd (hc.symm.trans h) (by simp)
      | unsent h => exact absurd (hc.symm.trans h) (by simp)
      | unlowered h => exact absurd (hc.symm.trans h) (by simp)
    | unreceived h => exact absurd (hc.symm.trans h.uncancelled) (by simp)
    | unfit h => exact absurd (hc.symm.trans h.uncancelled) (by simp)
    | fit h => exact absurd (hc.symm.trans h.uncancelled) (by simp)
  | false =>
    obtain ⟨cs, d', hmemory, hstep, hsends, hsucceeds⟩ := hl.after hv hq hat hd hc
    refine ⟨cs, d', ?_, fun hgenuine _ u hu hsame => ?_⟩
    · -- however it ends, all calls of the exchange were made
      cases hasking with
      | unsent h => exact absurd (h.eq_ok hsends).1 (by simp)
      | unreceived _ _ => exact hstep.quiet (made_warned _ _) rfl rfl
      | unfit _ _ _ => exact hstep.quiet (made_warned _ _) rfl rfl
      | fit _ hlength =>
        rw [hlength]
        exact hstep
    · have hok := Packet.run_ask_eq_ok.2 ⟨hsucceeds hgenuine, q.length_answer hv _, rfl⟩
      rw [hrun] at hok
      obtain ⟨v, hask, hserves, hkept⟩ := hu.ask hv hq
      have hnone := compositional_handed.ask settle q.command q.parameters q.size u
      rw [hask] at hnone ⊢
      refine ⟨(congrArg Prod.fst hok).symm, hmemory ▸ hserves, hkept, [], ?_, ?_⟩
      · rw [hhanded, List.append_nil]
      · rw [hnone, List.append_nil]

/-- **Every operation stays in step**, and if nothing of it is altered it ends as on a link that
alters nothing. -/
theorem exchanging_recovers [Link σ] (Works : Simulator → Bytes → ρ → Prop) (hl : Lossy At)
    (hv : version.length = versionSize) :
    Exchanging (σ := σ) (ρ := ρ) fun stopped x y => Recovers At Works version stopped x y where
  congr h hx hy := h.congr hx hy
  pure a := recovers_aside (aside_pure a) (aside_pure a)
  refuse _ := recovers_aside (aside_throw _) (aside_throw _)
  seq hx hX hY hstopped hf := hx.seq hX hY hstopped hf
  returning f hx h := hx.returning f h
  record ws := recovers_aside (aside_record ws) (aside_record ws)
  emit e := recovers_aside (aside_emit e) (aside_emit e)
  report walk := recovers_aside (aside_report walk) (aside_report walk)
  ask _ hq := recovers_ask hl hv hq

/-! ### Operations one after the other -/

section Used

variable {σ : Type} [Link σ] {At : Simulator → Bytes → σ → Prop} {version : Bytes}
  {s t : Session σ Vyper2} {d : Simulator}

/-- The handle was `s` before some operations were carried out on it, whatever has come of them.
Between two operations the caller may change all that does not belong to the device: the
fingerprint, the listener and the token, and which tokens are cancelled. -/
inductive Used (At : Simulator → Bytes → σ → Prop) (s : Session σ Vyper2) :
    Session σ Vyper2 → Prop
  | opened : Used At s s
  | operated {t u : Session σ Vyper2} (op : Device.Operation) (hop : op ≠ .close)
      (h : Used At s t) (hu : (op.deliver (.vyper2 t)).2 = .vyper2 u) : Used At s u
  | adjusted {t u : Session σ Vyper2} (h : Used At s t)
      (hu : ∀ d w, At d w t.link → At d w u.link) : Used At s u

/-- **Behind each operation both sides are in step.** -/
theorem Used.in_step (hl : Lossy At) (hv : version.length = versionSize) (hat : At d [] s.link)
    (hd : Simulator.Ready version d.memory d) (h : Used At s t) :
    ∃ d', At d' [] t.link ∧ Simulator.Ready version d'.memory d' := by
  induction h with
  | opened => exact ⟨d, hat, hd⟩
  | adjusted _ hu ih =>
    obtain ⟨d', hat', hd'⟩ := ih
    exact ⟨d', hu d' [] hat', hd'⟩
  | @operated t u op hop _ hu ih =>
    obtain ⟨d', hat', hd'⟩ := ih
    obtain ⟨_, d'', hstep, -⟩ := op.exchanging_program
      (exchanging_recovers (Bench.Holds t.token) hl hv) hop t d' hat' hd'
    rw [Device.Operation.deliver_vyper2] at hu
    cases hu
    exact ⟨d'', hstep.at_link, hstep.ready⟩

end Used

end Vyper2

/-! ### A bench that alters answers -/

namespace Bench

/-- On the bench there is the device `d`, but for damages that add nothing to its answers, and the
bytes `w` wait; no call fails, but tokens may be cancelled. -/
def Alters (d : Vyper2.Simulator) (w : Bytes) (b : LinkBench) : Prop :=
  Bears d w b ∧ b.rig.script.faults = []

variable {d : Vyper2.Simulator} {w : Bytes} {b : LinkBench}

/-- What a call does if no call fails. -/
theorem call_of_faultless (h : b.rig.script.faults = []) (c : Call) :
    ∃ script around, script.faults = [] ∧ Link.call c b =
      ((({ b.rig with script } : Rig).reply none c).1,
        ⟨(({ b.rig with script } : Rig).reply none c).2, around⟩) := by
  refine ⟨(b.rig.script.enter c.name).2, b.around.follow (b.rig.script.enter c.name).1, h, ?_⟩
  have hfailure : (b.rig.script.enter c.name).1.failure = none := by simp [Script.enter, h]
  have hlimit : (b.rig.script.enter c.name).1.limit = none := by simp [Script.enter, h]
  simp only [Link.call, hfailure, hlimit]

/-- **A bench on which no call fails changes and cuts answers, and does nothing else.** -/
theorem lossy : Vyper2.Lossy Alters where
  sleep := by
    intro d w b ms h
    obtain ⟨script, around, hscript, hcall⟩ := call_of_faultless h.2 (.sleep ms)
    rw [hcall]
    exact ⟨h.1, hscript⟩
  rts := by
    intro d w b level h
    obtain ⟨script, around, hscript, hcall⟩ := call_of_faultless h.2 (.rts level)
    rw [hcall]
    exact ⟨rfl, h.1, hscript⟩
  write := by
    intro d w b data h
    obtain ⟨script, around, hscript, hcall⟩ := call_of_faultless h.2 (.write data)
    obtain ⟨answer, hanswer, hbears⟩ := bears_send h.1 data script around
    -- without a limit the whole command reaches the device
    have htaken : data.take (atMost none data.length) = data := List.take_length
    have hreply : ({ b.rig with script } : Rig).reply none (.write data) =
        ({ accepted := data.length }, ({ b.rig with script } : Rig).send data) := by
      simp only [Rig.reply, htaken]
    have hkept : (({ b.rig with script } : Rig).send data).script.faults = [] := by
      unfold Rig.send
      split <;> exact hscript
    rw [hcall, hreply]
    exact ⟨rfl, rfl, answer, hanswer, hbears, hkept⟩
  read := by
    intro d w b n h
    obtain ⟨script, around, hscript, hcall⟩ := call_of_faultless h.2 (.read n)
    obtain ⟨⟨d₀, hsimulator, hd, hwaiting, hharmless, hquiet⟩, -⟩ := h
    rw [hcall]
    exact ⟨rfl, congrArg (List.take n) hwaiting, ⟨d₀, hsimulator, hd,
      congrArg (List.drop n) hwaiting, hharmless, hquiet⟩, hscript⟩

end Bench
/-! ### What went wrong before -/

namespace Device

open Session Vyper2

variable {σ : Type} [Link σ]

/-- A handle that was just opened on a bench with a device. -/
theorem openLink_simulating (version memory : Bytes) (token : CancelToken) :
    ∃ u, openLink .vyper2 (Bench.simulating version memory) token = .opened (.vyper2 u) ∧
      Serves (Bench.Holds token) version memory u ∧ u.handed = [] :=
  ⟨_, rfl, ⟨Bench.wired token, _, ⟨rfl, rfl, ⟨rfl, rfl⟩, rfl⟩, ⟨rfl, rfl, rfl, rfl⟩⟩, rfl⟩

/-- **What went wrong before makes no difference.**  However the link has altered the answers of the
device and wherever operations were cancelled, behind each operation no byte is unread and the
device waits for a command.  So an operation of which nothing is altered or cancelled ends as on a
handle that was just opened. -/
theorem recovers_from_damage {At : Simulator → Bytes → σ → Prop} (hl : Lossy At) {version : Bytes}
    (hv : version.length = 4) {s t : Session σ Vyper2} {d : Simulator} (hat : At d [] s.link)
    (hd : Simulator.Ready version d.memory d) (hused : Used At s t) :
    ∃ d', At d' [] t.link ∧ Simulator.Ready version d'.memory d' ∧
      ∀ op : Operation, op ≠ .close → ∀ cs, (op.deliver (.vyper2 t)).2.calls = t.calls ++ cs →
        Genuine (d', []) cs → Link.cancelled t.token (op.deliver (.vyper2 t)).2.link = false →
          ∃ u, openLink .vyper2 (Bench.simulating version d'.memory) t.token = .opened (.vyper2 u) ∧
            (op.deliver (.vyper2 t)).1 = (op.deliver (.vyper2 { u with device := t.device })).1 ∧
            (op.deliver (.vyper2 t)).2.handed =
              t.handed ++ (op.deliver (.vyper2 { u with device := t.device })).2.handed := by
  obtain ⟨d', hat', hd'⟩ := hused.in_step hl hv hat hd
  refine ⟨d', hat', hd', fun op hop cs hcalls hgenuine huncancelled => ?_⟩
  obtain ⟨u, hopen, hserves, hnone⟩ := openLink_simulating version d'.memory t.token
  -- an operation is not cancelled unless its token is
  have hnot : ¬ GivenUp (Session.run op.program t).1 := by
    intro hgiven
    obtain ⟨_, -, hfast⟩ := perform_failsFast op (.vyper2 t)
    rw [Operation.perform_eq, Operation.deliver_vyper2] at hfast
    rw [Operation.deliver_vyper2] at huncancelled
    exact absurd ((hfast.cancelled hgiven).2.1.symm.trans huncancelled) (by simp)
  obtain ⟨cs', d'', hstep, halike⟩ := op.exchanging_program
    (exchanging_recovers (Bench.Holds t.token) hl hv) hop t d' hat' hd'
  rw [Operation.deliver_vyper2] at hcalls huncancelled ⊢
  obtain rfl : cs = cs' := List.append_cancel_left (hcalls.symm.trans hstep.made.calls)
  obtain ⟨hresult, -, -, ds, hhanded, hhanded'⟩ := halike hgenuine hnot
    { u with device := t.device } ⟨hserves.wired, hserves.ready⟩ rfl
  have hfresh : ({ u with device := t.device } : Session Bench.LinkBench Vyper2).handed = [] := hnone
  rw [hfresh, List.nil_append] at hhanded'
  refine ⟨u, hopen, ?_, ?_⟩
  · rw [Operation.deliver_vyper2, hresult]
  · rw [Operation.deliver_vyper2]
    exact hhanded.trans (congrArg (t.handed ++ ·) hhanded'.symm)

/-- The answer to the first operation is cut, and a bit of the answer to the second is turned over.
Both fail, and the third does what it would do on a handle that was just opened. -/
theorem recovers_from_damage_twice :
    let memory : Bytes := List.replicate 0x20 0x5A
    let s : Session Bench.LinkBench Vyper2 := .start (Bench.disturbed [0x13, 1, 2, 3] memory
      [{ answer := 1, keep := some 5 }, { answer := 2, flips := [(4, 1)] }] {}) ⟨none⟩ ⟨0⟩
    let first := (Operation.version 4).deliver (.vyper2 s)
    let second := (Operation.read 0x10 8).deliver first.2
    let third := (Operation.read 0x10 8).deliver second.2
    first.1.outcome.isOk = false ∧ second.1.outcome.isOk = false ∧
      third.1.bytes = List.replicate 8 0x5A ∧
      ∃ u, openLink .vyper2 (Bench.simulating [0x13, 1, 2, 3] memory) ⟨0⟩ = .opened (.vyper2 u) ∧
        third.1 = ((Operation.read 0x10 8).deliver (.vyper2 { u with device := ⟨none⟩ })).1 := by
  intro memory s first second third
  refine ⟨by decide +kernel, by decide +kernel, by decide +kernel, ?_⟩
  let t₁ := (Session.run (Operation.version 4).program s).2
  let t₂ := (Session.run (Operation.read 0x10 8).program t₁).2
  have hfirst : first.2 = .vyper2 t₁ := congrArg Prod.snd (Operation.deliver_vyper2 _ s)
  have hsecond : ((Operation.read 0x10 8).deliver (.vyper2 t₁)).2 = .vyper2 t₂ :=
    congrArg Prod.snd (Operation.deliver_vyper2 _ t₁)
  have hused : Used Bench.Alters s t₂ :=
    .operated _ (by simp) (.operated _ (by simp) .opened hfirst) hsecond
  have hat : Bench.Alters (Bench.undamaged (s.link.rig.simulator.getD default)) [] s.link :=
    ⟨⟨_, rfl, rfl, rfl, by simp [Bench.Harmless], .inl (by decide +kernel)⟩, rfl⟩
  obtain ⟨d', ⟨⟨d₀, hsimulator, rfl, -⟩, -⟩, -, hlater⟩ :=
    recovers_from_damage Bench.lossy rfl hat ⟨rfl, rfl, rfl, rfl⟩ hused
  -- the device is the one that is on the bench then
  obtain rfl : d₀ = t₂.link.rig.simulator.getD default := by
    rw [hsimulator]
    rfl
  obtain ⟨u, hopen, hsame, -⟩ := hlater (.read 0x10 8) (by simp)
    (((Operation.read 0x10 8).deliver (.vyper2 t₂)).2.calls.drop t₂.calls.length)
    (by decide +kernel) (by decide +kernel) (by decide +kernel)
  have hmemory : (Bench.undamaged (t₂.link.rig.simulator.getD default)).memory = memory := by
    decide +kernel
  have hdevice : t₂.device = ⟨none⟩ := by decide +kernel
  have htoken : t₂.token = ⟨0⟩ := by decide +kernel
  rw [hmemory, htoken] at hopen
  rw [hdevice] at hsame
  refine ⟨u, hopen, ?_⟩
  show ((Operation.read 0x10 8).deliver ((Operation.read 0x10 8).deliver first.2).2).1 = _
  rw [hfirst, hsecond]
  exact hsame

end Device

end DiveLink
