import DiveLink.Handshake
import DiveLink.Proofs.Session.Growth
import DiveLink.Vyper2

/-!
# Properties that are kept where programs are put together

Operations are put together from calls to the link, notes in the history and decisions on what came
back.  What holds of each such step, and is kept where steps are put together, holds of packets and
handshakes and of all that is made of them.

## Main definitions

* `Session.Stepwise kind Q` — the property `Q` of programs holds of calls of a kind and is kept.
* `Session.Eventless Q` — the property `Q` of programs holds of each step but a report, and is kept.
* `Session.Compositional Q` — the property `Q` of programs holds of each step and is kept.
* `Session.Adds P x` — what the program `x` adds to the history has the property `P`.
* `Session.Blind f x` — the program `x` does not look at what `f` changes about the device.

## Main results

* `Session.compositional_records`, `Session.compositional_adds`, `Session.compositional_blind` —
  what is recorded, and what is not looked at.
* `Session.Eventless.ask`, `Session.Eventless.handshake`, `Session.Compositional.readBlocks` — what
  is kept holds of these.
-/

namespace DiveLink
namespace Session

variable {σ δ α β : Type}

/-! ### What is remembered about the device -/

/-- The session with `f` applied to what is remembered about the device. -/
def mapDevice (f : δ → δ) (s : Session σ δ) : Session σ δ := { s with device := f s.device }

/-- The program `x` does not look at what `f` changes about the device: with the change made first,
it takes the same course, and the change is still made at the end. -/
def Blind (f : δ → δ) (x : Op σ δ α) : Prop :=
  ∀ s, run x (s.mapDevice f) = ((run x s).1, (run x s).2.mapDevice f)

variable {f : δ → δ}

theorem Blind.bind {x : Op σ δ α} {g : α → Op σ δ β} (hx : Blind f x) (hg : ∀ a, Blind f (g a)) :
    Blind f (x >>= g) := by
  intro s
  rw [run_bind, run_bind, hx s]
  rcases run x s with ⟨e | a, t⟩
  · rfl
  · exact hg a t

/-- A change of the device that goes together with `f`. -/
theorem Blind.modify {g : δ → δ} (h : ∀ d, g (f d) = f (g d)) :
    Blind f (modify fun s => { s with device := g s.device } : Op σ δ Unit) := by
  intro s
  simp only [run_modify, mapDevice, h]

/-! ### Calls of a kind -/

variable [Link σ]

/-- A property of programs holds of each call of a kind, and is kept where programs that may fail
are put one behind the other. -/
structure Stepwise (kind : Call → Prop) (Q : ∀ {α : Type}, Op σ δ α → Prop) : Prop where
  pure : ∀ {α : Type} (a : α), Q (pure a : Op σ δ α)
  throw : ∀ {α : Type} (e : DeviceError), Q (throw e : Op σ δ α)
  bind : ∀ {α β : Type} {x : Op σ δ α} {f : α → Op σ δ β}, Q x → (∀ a, Q (f a)) → Q (x >>= f)
  perform : ∀ c : Call, kind c → Q (perform c : Op σ δ Reply)

namespace Stepwise

variable {kind : Call → Prop} {Q : ∀ {α : Type}, Op σ δ α → Prop} (hQ : Stepwise kind Q)
include hQ

theorem attempt {c : Call} (hc : kind c) : Q (Session.attempt c) := by
  refine hQ.bind (hQ.perform c hc) fun r => ?_
  cases r.failure with
  | none => exact hQ.pure _
  | some e => exact hQ.throw _

theorem pause {ms : Nat} (hc : kind (.sleep ms)) : Q (Session.pause ms) :=
  hQ.bind (hQ.perform _ hc) fun _ => hQ.pure _

theorem receive {n : Nat} (hc : kind (.read n)) : Q (Session.receive n) :=
  hQ.bind (hQ.perform _ hc) fun _ => hQ.pure _

theorem transmit {data : Bytes} (hc : kind (.write data)) : Q (Session.transmit data) := by
  refine hQ.bind (hQ.perform _ hc) fun r => ?_
  cases r.failure with
  | some e => exact hQ.throw _
  | none =>
    dsimp only
    split
    · exact hQ.pure _
    · exact hQ.throw _

end Stepwise

theorem stepwise_records {kind : Call → Prop} {P : Entry → Prop}
    (hcall : ∀ c, kind c → ∀ r, P (.call c r)) :
    Stepwise (σ := σ) (δ := δ) kind fun x => Records P x where
  pure := Records.pure
  throw := Records.throw
  bind := Records.bind
  perform := fun c hc => Records.perform (hcall c hc)

/-! ### Steps -/

/-- A property of programs holds of each step that can be made on a link beside a report to the
caller, and is kept where programs are put together. -/
structure Eventless (Q : ∀ {α : Type}, Op σ δ α → Prop) : Prop where
  pure : ∀ {α : Type} (a : α), Q (pure a : Op σ δ α)
  throw : ∀ {α : Type} (e : DeviceError), Q (throw e : Op σ δ α)
  bind : ∀ {α β : Type} {x : Op σ δ α} {f : α → Op σ δ β}, Q x → (∀ a, Q (f a)) → Q (x >>= f)
  outcome : ∀ {α : Type} {x : Op σ δ α}, Q x → Q (outcome x)
  warning : ∀ {α : Type} {x : Op σ δ α} (w : Warning), Q x → Q (warning w x)
  record : ∀ ws : List Warning, Q (record (ws.map .warning) : Op σ δ Unit)
  perform : ∀ c : Call, Q (perform c : Op σ δ Reply)
  isCancelled : Q (isCancelled : Op σ δ Bool)
  now : Q (now : Op σ δ Int)

/-- A property of programs holds of each step that can be made on a link, and is kept where programs
are put together. -/
structure Compositional (Q : ∀ {α : Type}, Op σ δ α → Prop) : Prop extends Eventless Q where
  emit : ∀ e : Event, Q (emit e : Op σ δ Unit)

theorem eventless_records {P : Entry → Prop} (hcall : ∀ c r, P (.call c r))
    (hwarn : ∀ w, P (.warning w)) : Eventless (σ := σ) (δ := δ) fun x => Records P x where
  pure := Records.pure
  throw := Records.throw
  bind := Records.bind
  outcome := Records.outcome
  warning := fun w => Records.warning (hwarn w)
  record := by
    intro ws
    refine Records.record fun e he => ?_
    obtain ⟨w, -, rfl⟩ := List.mem_map.1 he
    exact hwarn w
  perform := fun c => Records.perform (hcall c)
  isCancelled := Records.isCancelled
  now := Records.get.bind fun _ => .pure _

theorem compositional_records {P : Entry → Prop} (hcall : ∀ c r, P (.call c r))
    (hwarn : ∀ w, P (.warning w)) (hevent : ∀ e, P (.event e)) :
    Compositional (σ := σ) (δ := δ) fun x => Records P x where
  toEventless := eventless_records hcall hwarn
  emit := fun e => Records.emit (hevent e)

/-- Whatever the program `x` adds to the history has the property `P`, whatever it does to the
device beside that. -/
def Adds (P : Entry → Prop) (x : Op σ δ α) : Prop :=
  ∀ s, ∃ es, (run x s).2.history = s.history ++ es ∧ ∀ e ∈ es, P e

omit [Link σ] in
theorem Records.adds {P : Entry → Prop} {x : Op σ δ α} (h : Records P x) : Adds P x := by
  intro s
  obtain ⟨es, hgrows, hes⟩ := h s
  exact ⟨es, hgrows.history, hes⟩

theorem compositional_adds {P : Entry → Prop} (hcall : ∀ c r, P (.call c r))
    (hwarn : ∀ w, P (.warning w)) (hevent : ∀ e, P (.event e)) :
    Compositional (σ := σ) (δ := δ) fun x => Adds P x where
  pure := fun a => (Records.pure a).adds
  throw := fun e => (Records.throw e).adds
  bind := by
    intro α β x f hx hf s
    -- what the first part adds, then what the second adds if there is one
    obtain ⟨es, hhistory, hes⟩ := hx s
    rw [run_bind]
    rcases hrun : run x s with ⟨e | a, t⟩ <;> rw [hrun] at hhistory
    · exact ⟨es, hhistory, hes⟩
    · obtain ⟨es', hhistory', hes'⟩ := hf a t
      refine ⟨es ++ es', by rw [hhistory', hhistory, List.append_assoc], fun e he => ?_⟩
      exact (List.mem_append.1 he).elim (hes e) (hes' e)
  outcome := by
    intro α x hx s
    rw [run_outcome]
    exact hx s
  warning := by
    intro α x w hx s
    obtain ⟨es, hhistory, hes⟩ := hx s
    rw [run_warning]
    rcases hrun : run x s with ⟨e | a, t⟩ <;> rw [hrun] at hhistory
    · -- a failure adds the warning behind all else
      refine ⟨es ++ [.warning w], ?_, fun e he => ?_⟩
      · refine (grows_warned [w] t).history.trans ?_
        rw [show t.history = s.history ++ es from hhistory, List.append_assoc]
        rfl
      · rw [List.mem_append, List.mem_singleton] at he
        rcases he with he | rfl
        · exact hes e he
        · exact hwarn w
    · exact ⟨es, hhistory, hes⟩
  record := fun ws => ((compositional_records hcall hwarn hevent).record ws).adds
  emit := fun e => ((compositional_records hcall hwarn hevent).emit e).adds
  perform := fun c => ((compositional_records hcall hwarn hevent).perform c).adds
  isCancelled := (compositional_records hcall hwarn hevent).isCancelled.adds
  now := (compositional_records hcall hwarn hevent).now.adds

/-- A program that only makes steps hands out no dive. -/
theorem compositional_handed : Compositional (σ := σ) (δ := δ) fun x =>
    ∀ s, (run x s).2.handed = s.handed where
  pure := fun _ _ => rfl
  throw := fun _ _ => rfl
  bind := by
    intro α β x f hx hf s
    rw [run_bind]
    have hs := hx s
    rcases hrun : run x s with ⟨e | a, t⟩ <;> rw [hrun] at hs
    · exact hs
    · -- each part hands out nothing, so their sum does not
      exact (hf a t).trans hs
  outcome := by
    intro α x hx s
    rw [run_outcome]
    exact hx s
  warning := by
    intro α x w hx s
    rw [run_warning]
    have hs := hx s
    rcases hrun : run x s with ⟨e | a, t⟩ <;> rw [hrun] at hs
    · exact ((grows_record [.warning w] t).handed_of_none (by simp [Entry.dive?])).trans hs
    · exact hs
  record := fun ws s => (grows_record (ws.map .warning) s).handed_of_none (by simp [Entry.dive?])
  emit := by
    intro e s
    rw [run_emit]
    split
    · exact (grows_record [.event e] s).handed_of_none (by simp [Entry.dive?])
    · rfl
  perform := fun c s => (grows_called c s).handed_of_none (by simp [Entry.dive?])
  isCancelled := fun _ => rfl
  now := fun _ => rfl

theorem compositional_blind (f : δ → δ) : Compositional (σ := σ) fun x => Blind f x where
  pure := fun _ _ => rfl
  throw := fun _ _ => rfl
  bind := Blind.bind
  outcome := by
    intro α x hx s
    rw [run_outcome, run_outcome, hx s]
  warning := by
    intro α x w hx s
    rw [run_warning, run_warning, hx s]
    rcases run x s with ⟨e | a, t⟩ <;> rfl
  record := fun _ _ => rfl
  emit := by
    intro e s
    rw [run_emit, run_emit]
    -- whether somebody listens is not remembered about the device
    have hsame : (s.mapDevice f).listening = s.listening := rfl
    rw [hsame]
    split <;> rfl
  perform := fun _ _ => rfl
  isCancelled := fun _ => rfl
  now := fun _ => rfl

/-! ### Packets, blocks and handshakes -/

namespace Eventless

variable {Q : ∀ {α : Type}, Op σ δ α → Prop} (hQ : Eventless Q)
include hQ

theorem warn (w : Warning) : Q (Session.warn w) := hQ.record [w]

theorem lift (r : Except DeviceError α) : Q (Session.lift r : Op σ δ α) := by
  cases r with
  | error e => exact hQ.throw e
  | ok a => exact hQ.pure a

theorem reject (f : DataFault) : Q (Session.reject f : Op σ δ α) :=
  hQ.bind (hQ.record _) fun _ => hQ.throw _

theorem stepwise : Stepwise (fun _ => True) Q :=
  ⟨hQ.pure, hQ.throw, hQ.bind, fun c _ => hQ.perform c⟩

theorem attempt (c : Call) : Q (Session.attempt c) := hQ.stepwise.attempt trivial

theorem pause (ms : Nat) : Q (Session.pause ms) := hQ.stepwise.pause trivial

theorem receive (n : Nat) : Q (Session.receive n) := hQ.stepwise.receive trivial

theorem transmit (data : Bytes) : Q (Session.transmit data) := hQ.stepwise.transmit trivial

theorem send (settle : Nat) (command : Bytes) : Q (Packet.send settle command) := by
  have hrest : Q (do
      Session.pause settle
      Session.attempt (.rts true)
      Session.warning .send (Session.transmit command)
      Session.attempt (.rts false)) :=
    hQ.bind (hQ.pause _) fun _ => hQ.bind (hQ.attempt _) fun _ =>
      hQ.bind (hQ.warning _ (hQ.transmit _)) fun _ => hQ.attempt _
  unfold Packet.send
  refine hQ.bind hQ.isCancelled fun cancelled => ?_
  cases cancelled with
  | false => exact hrest
  | true => exact hQ.bind (hQ.throw _) fun _ => hrest

theorem exchange (settle : Nat) (command : Bytes) (length size : Nat) :
    Q (Packet.exchange settle command length size) := by
  unfold Packet.exchange
  refine hQ.bind (hQ.outcome (hQ.send _ _)) fun sent => ?_
  cases sent with
  | error e => exact hQ.pure _
  | ok =>
    refine hQ.bind (hQ.receive _) fun answer => ?_
    split
    · exact hQ.bind (hQ.warn _) fun _ => hQ.pure _
    · split
      · exact hQ.pure _
      · exact hQ.bind (hQ.record _) fun _ => hQ.pure _

/-- What is kept holds of a command and its answer. -/
theorem ask (settle : Nat) (command : Bytes) (parameters size : Nat) :
    Q (Packet.ask settle command parameters size) :=
  hQ.bind (hQ.exchange _ _ _ _) fun _ => hQ.lift _

theorem readVersion : Q (Vyper2.readVersion) := hQ.bind (hQ.ask _ _ _ _) fun _ => hQ.pure _

theorem readBlock (b : Block) : Q (Vyper2.readBlock b) :=
  hQ.bind (hQ.ask _ _ _ _) fun _ => hQ.pure _

/-- What is kept holds of a handshake. -/
theorem handshake (size : Nat) : Q (DiveLink.handshake size) := by
  refine hQ.bind (hQ.attempt _) fun _ => hQ.bind (hQ.receive _) fun frame =>
    hQ.bind (hQ.attempt _) fun _ => ?_
  split
  · exact hQ.bind (hQ.warn _) fun _ => hQ.throw _
  · split
    · exact hQ.pure _
    · exact hQ.bind (hQ.warn _) fun _ => hQ.throw _

end Eventless

namespace Compositional

variable {Q : ∀ {α : Type}, Op σ δ α → Prop} (hQ : Compositional Q)
include hQ

/-- What is kept holds of blocks that are read one after the other. -/
theorem readBlocks : ∀ (bs : List Block) (progress : Option Progress),
    Q (Vyper2.readBlocks progress bs) := by
  intro bs
  induction bs with
  | nil => intro progress; exact hQ.pure _
  | cons b bs ih =>
    intro progress
    rw [Vyper2.readBlocks]
    -- a block that fails ends the blocks; what came before it is kept
    refine hQ.bind (hQ.outcome (hQ.readBlock b)) fun r => ?_
    cases r with
    | error e => exact hQ.pure _
    | ok data =>
      have hrest : Q (do
          let rest ← Vyper2.readBlocks (progress.map (·.advance b.size)) bs
          return (⟨data :: rest.chunks, rest.outcome⟩ : Fetched)) :=
        hQ.bind (ih _) fun _ => hQ.pure _
      -- the report stands between a block and those behind it
      cases progress with
      | none => exact hrest
      | some p => exact hQ.bind (hQ.emit _) fun _ => hrest

theorem readAll (progress : Option Progress) (bs : List Block) : Q (Vyper2.readAll progress bs) :=
  hQ.bind (hQ.readBlocks _ _) fun _ => hQ.bind (hQ.lift _) fun _ => hQ.pure _

theorem readRing (h : RingHeader) : Q (Vyper2.readRing h) :=
  hQ.bind (hQ.emit _) fun _ => hQ.bind (hQ.readAll _ _) fun _ => hQ.pure _

end Compositional

end Session
end DiveLink
