import DiveLink.Proofs.FailFast
import DiveLink.Proofs.Vyper2.Wired

/-!
# Operations on two links

Whatever an operation on a Vyper2 does with its link is done in exchanges, and only at its end it
looks at what is remembered about the device.  So what holds of each exchange on two links, and is
kept where programs are put together, holds of the whole operation on both.

## Main definitions

* `Vyper2.Request.Proper` — a request that one exchange can carry.
* `Vyper2.Continues` — a program that goes on behind another.
* `Vyper2.Exchanging Q` — the property `Q` of two programs holds of each exchange and is kept.
* `Device.Operation.deliver` — what an operation leaves with the caller.
* `Device.Operation.program` — the program of an operation on a Vyper2.

## Main results

* `Device.Operation.exchanging_program` — **what holds of each exchange holds of every operation but
  closing.**
* `Device.Operation.deliver_vyper2` — an operation on a Vyper2 delivers what its program does.
-/

namespace DiveLink

/-- What the program of an operation leaves with the caller. -/
def Receipt.ofRun : Except DeviceError Receipt → Receipt
  | .ok r => r
  | .error e => .refused e

namespace Vyper2

open Session

/-! ### Requests -/

/-- One exchange can carry the request: its numbers are not cut short where they are written. -/
def Request.Proper : Request → Prop
  | version | reset => True
  | block b => Addressable b
  | store address data => Addressable ⟨address, data.length⟩

/-- The pieces of a range are ones that one exchange can carry. -/
theorem proper_of_mem_split : ∀ (n address : Nat) (data : Bytes), data.length = n →
    address + n ≤ memorySize → ∀ p ∈ Block.split blockSize address data,
      (Request.store p.1 p.2).Proper := by
  intro n
  induction n using Nat.strongRecOn with
  | _ n ih =>
    intro address data hlength hrange p hp
    by_cases hdata : data = []
    · rw [hdata, Block.split_nil] at hp
      exact absurd hp (by simp)
    -- the first piece fits a command, and the others are pieces of the rest
    have hpos := List.length_pos_iff.2 hdata
    have hfirst : (data.take blockSize).length = min blockSize data.length := List.length_take
    have hrest : (data.drop blockSize).length = data.length - blockSize := List.length_drop
    unfold blockSize at hfirst hrest
    unfold memorySize at hrange
    rw [Block.split_cons (by decide) hdata, List.mem_cons] at hp
    rcases hp with rfl | hp
    · refine ⟨by show address < 65536; omega, ?_⟩
      show (data.take 120).length + 3 < 256
      omega
    · unfold memorySize at ih
      exact ih (data.drop blockSize).length (by unfold blockSize; omega) _ _ rfl
        (by unfold blockSize; omega) p hp

/-! ### Programs on two links -/

/-- The result of a program that was cancelled. -/
def Cancelled {α : Type} (r : Except DeviceError α) : Prop := r = .error .cancelled

/-- The program `X` runs `x` and goes on with `f`; where `x` fails, it ends with `fail`. -/
structure Continues {σ δ α β : Type} (x : Op σ δ α) (f : α → Op σ δ β)
    (fail : DeviceError → Except DeviceError β) (X : Op σ δ β) : Prop where
  ok : ∀ {s t a}, run x s = (.ok a, t) → run X s = run (f a) t
  error : ∀ {s t e}, run x s = (.error e, t) → run X s = (fail e, t)

theorem continues_bind {σ δ α β : Type} (x : Op σ δ α) (f : α → Op σ δ β) :
    Continues x f .error (x >>= f) :=
  ⟨fun h => run_bind_ok h f, fun h => run_bind_error h f⟩

/-- A property of two programs, one on each of two links, holds of each exchange and of what an
operation does beside exchanges, and is kept where programs are put together.  It is a property of
programs that may be cancelled, and a program that catches the failure of another says by `stopped`
which of its results tell that it was. -/
structure Exchanging {σ ρ : Type} [Link σ] [Link ρ]
    (Q : ∀ {α : Type}, (Except DeviceError α → Prop) → Op σ Vyper2 α → Op ρ Vyper2 α → Prop) :
    Prop where
  congr : ∀ {α : Type} {stopped : Except DeviceError α → Prop} {x x' : Op σ Vyper2 α}
    {y y' : Op ρ Vyper2 α}, Q stopped x' y' → (∀ s, run x s = run x' s) →
      (∀ s, run y s = run y' s) → Q stopped x y
  pure : ∀ {α : Type} {stopped : Except DeviceError α → Prop} (a : α),
    Q stopped (pure a) (pure a)
  refuse : ∀ {α : Type} {stopped : Except DeviceError α → Prop} {e : DeviceError},
    e.isRefusal = true → Q stopped (throw e : Op σ Vyper2 α) (throw e)
  seq : ∀ {α β : Type} {stopped : Except DeviceError β → Prop} {x : Op σ Vyper2 α}
    {y : Op ρ Vyper2 α} {f : α → Op σ Vyper2 β} {g : α → Op ρ Vyper2 β}
    {fail : DeviceError → Except DeviceError β} {X : Op σ Vyper2 β} {Y : Op ρ Vyper2 β},
    Q Cancelled x y → Continues x f fail X → Continues y g fail Y → stopped (fail .cancelled) →
      (∀ a, Q stopped (f a) (g a)) → Q stopped X Y
  returning : ∀ {α β : Type} {stopped : Except DeviceError α → Prop}
    {stopped' : Except DeviceError β → Prop} {x : Op σ Vyper2 α} {y : Op ρ Vyper2 α} (f : α → β),
    Q stopped x y → (∀ r, stopped r → stopped' (r.map f)) → Q stopped' (f <$> x) (f <$> y)
  record : ∀ ws : List Warning, Q Cancelled (record (ws.map .warning)) (record (ws.map .warning))
  emit : ∀ e : Event, Q Cancelled (emit e) (emit e)
  /-- Dives are handed out when the last exchange is over. -/
  report : ∀ walk : Vyper2 → Walk, Q Cancelled (get >>= fun s => report (walk s.device))
    (get >>= fun s => report (walk s.device))
  ask : ∀ q : Request, q.Proper →
    Q Cancelled (Packet.ask settle q.command q.parameters q.size)
      (Packet.ask settle q.command q.parameters q.size)

/-- What was fetched of some blocks breaks off where the operation was cancelled. -/
def BrokenOff (r : Except DeviceError Fetched) : Prop := r.bind (·.outcome) = .error .cancelled

/-- What an operation leaves with the caller tells that it was cancelled. -/
def GivenUp (r : Except DeviceError Receipt) : Prop :=
  (Receipt.ofRun r).outcome = .error .cancelled

namespace Exchanging

variable {σ ρ : Type} [Link σ] [Link ρ]
  {Q : ∀ {α : Type}, (Except DeviceError α → Prop) → Op σ Vyper2 α → Op ρ Vyper2 α → Prop}
  (hQ : Exchanging Q)
include hQ

theorem bind {α β : Type} {stopped : Except DeviceError β → Prop} {x : Op σ Vyper2 α}
    {y : Op ρ Vyper2 α} {f : α → Op σ Vyper2 β} {g : α → Op ρ Vyper2 β} (hx : Q Cancelled x y)
    (hstopped : stopped (.error .cancelled)) (hf : ∀ a, Q stopped (f a) (g a)) :
    Q stopped (x >>= f) (y >>= g) :=
  hQ.seq hx (continues_bind x f) (continues_bind y g) hstopped hf

theorem reject {α : Type} (f : DataFault) :
    Q Cancelled (Session.reject f : Op σ Vyper2 α) (Session.reject f) :=
  hQ.bind (hQ.record f.warning.toList) rfl fun _ => hQ.refuse rfl

/-! ### Blocks -/

theorem readVersion : Q Cancelled Vyper2.readVersion Vyper2.readVersion :=
  hQ.bind (hQ.ask .version trivial) rfl fun _ => hQ.pure _

theorem readBlock {b : Block} (hb : Addressable b) :
    Q Cancelled (Vyper2.readBlock b) (Vyper2.readBlock b) :=
  hQ.bind (hQ.ask (.block b) hb) rfl fun _ => hQ.pure _

theorem tell (progress : Option Progress) :
    Q Cancelled (Vyper2.tell progress) (Vyper2.tell progress) := by
  cases progress with
  | none => exact hQ.pure ()
  | some p => exact hQ.emit _

/-- Of blocks that are read one after the other the first are kept when a later one is not read. -/
theorem readBlocks : ∀ (bs : List Block) (progress : Option Progress), (∀ b ∈ bs, Addressable b) →
    Q BrokenOff (Vyper2.readBlocks progress bs) (Vyper2.readBlocks progress bs) := by
  intro bs
  induction bs with
  | nil => exact fun progress _ => hQ.pure _
  | cons b bs ih =>
    intro progress hbs
    -- behind a block that was read come the others
    have hcons : ∀ {σ : Type} [Link σ], Continues (Vyper2.readBlock b : Op σ Vyper2 Bytes)
        (fun data => Vyper2.tell (progress.map (·.advance b.size)) >>= fun _ =>
          (fun rest => ⟨data :: rest.chunks, rest.outcome⟩) <$>
            Vyper2.readBlocks (progress.map (·.advance b.size)) bs)
        (fun e => .ok ⟨[], .error e⟩) (Vyper2.readBlocks progress (b :: bs)) := by
      intro σ _
      refine ⟨fun h => ?_, run_readBlocks_cons_error⟩
      rw [run_readBlocks_cons_ok h, run_bind_ok (run_tell _ _), bind_pure_comp]
    refine hQ.seq (hQ.readBlock (hbs b List.mem_cons_self)) hcons hcons rfl fun data => ?_
    refine hQ.bind (hQ.tell _) rfl fun _ => hQ.returning _
      (ih _ fun c hc => hbs c (List.mem_cons_of_mem b hc)) fun r hr => ?_
    cases r with
    | error e => exact hr
    | ok f => exact hr

/-- What holds of each exchange holds of blocks that are all read. -/
theorem readAll : ∀ (bs : List Block) (progress : Option Progress), (∀ b ∈ bs, Addressable b) →
    Q Cancelled (Vyper2.readAll progress bs) (Vyper2.readAll progress bs) := by
  intro bs
  induction bs with
  | nil => exact fun progress _ => hQ.pure []
  | cons b bs ih =>
    intro progress hbs
    refine hQ.congr ?_ (run_readAll_cons progress b bs) (run_readAll_cons progress b bs)
    exact hQ.bind (hQ.readBlock (hbs b List.mem_cons_self)) rfl fun data =>
      hQ.bind (hQ.tell _) rfl fun _ =>
        hQ.bind (ih _ fun c hc => hbs c (List.mem_cons_of_mem b hc)) rfl fun _ => hQ.pure _

/-- What holds of each exchange holds of pieces that are stored one after the other. -/
theorem writePieces : ∀ (pieces : List (Nat × Bytes)),
    (∀ p ∈ pieces, (Request.store p.1 p.2).Proper) →
      Q Cancelled (Vyper2.writePieces pieces) (Vyper2.writePieces pieces) := by
  intro pieces
  induction pieces with
  | nil => exact fun _ => hQ.pure ()
  | cons p pieces ih =>
    intro h
    exact hQ.bind (hQ.ask (.store p.1 p.2) (h p List.mem_cons_self)) rfl fun _ =>
      ih fun c hc => h c (List.mem_cons_of_mem p hc)

/-! ### Operations -/

/-- What leaves all or nothing with the caller is given up where it is cancelled. -/
theorem receipt {α : Type} {x : Op σ Vyper2 α} {y : Op ρ Vyper2 α} (f : α → Receipt)
    (h : Q Cancelled x y) : Q GivenUp (f <$> x) (f <$> y) := by
  refine hQ.returning f h fun r hr => ?_
  obtain rfl : r = .error .cancelled := hr
  rfl

theorem version (room : Nat) : Q GivenUp (Vyper2.version room) (Vyper2.version room) := by
  unfold Vyper2.version
  by_cases h : room < versionSize
  · rw [if_pos h, if_pos h]
    exact hQ.congr (hQ.bind (hQ.record [.insufficientBuffer]) rfl fun _ => hQ.refuse rfl)
      (fun _ => rfl) fun _ => rfl
  · rw [if_neg h, if_neg h, bind_pure_comp, bind_pure_comp]
    exact hQ.receipt _ hQ.readVersion

theorem read (address length : Nat) :
    Q GivenUp (Vyper2.read address length) (Vyper2.read address length) := by
  unfold Vyper2.read
  cases h : rangeFault address length with
  | some e => exact hQ.refuse (isRefusal_rangeFault h)
  | none =>
    -- a range within memory has blocks whose addresses fit a command
    have hle : address + length ≤ memorySize := by
      by_contra hlt
      rw [rangeFault, if_neg hlt] at h
      exact absurd h (by simp)
    have hblocks : Q GivenUp ((fun f => ⟨f.chunks.flatten, f.outcome⟩) <$>
          Vyper2.readBlocks none (Block.tile blockSize address length))
        ((fun f => ⟨f.chunks.flatten, f.outcome⟩) <$>
          Vyper2.readBlocks none (Block.tile blockSize address length)) := by
      refine hQ.returning _ (hQ.readBlocks _ none fun b hb => addressable_of_mem_tile hle hb)
        fun r hr => ?_
      cases r with
      | error e => exact hr
      | ok f => exact hr
    rwa [← bind_pure_comp, ← bind_pure_comp] at hblocks

theorem write (address : Nat) (data : Bytes) :
    Q Cancelled (Vyper2.write address data) (Vyper2.write address data) := by
  unfold Vyper2.write
  cases h : rangeFault address data.length with
  | some e => exact hQ.refuse (isRefusal_rangeFault h)
  | none =>
    have hle : address + data.length ≤ memorySize := by
      by_contra hlt
      rw [rangeFault, if_neg hlt] at h
      exact absurd h (by simp)
    exact hQ.writePieces _ (proper_of_mem_split _ _ _ rfl hle)

theorem dump : Q Cancelled Vyper2.dump Vyper2.dump := by
  unfold Vyper2.dump
  refine hQ.bind hQ.readVersion rfl fun version => hQ.bind (hQ.emit _) rfl fun _ =>
    hQ.bind (hQ.readAll _ _ fun b hb => ?_) rfl fun chunks =>
      hQ.bind (hQ.emit _) rfl fun _ => hQ.pure _
  exact addressable_of_mem_tile (Nat.le_of_eq (Nat.zero_add _)) hb

theorem readRing (h : RingHeader) : Q Cancelled (Vyper2.readRing h) (Vyper2.readRing h) := by
  refine hQ.bind (hQ.emit _) rfl fun _ => hQ.bind (hQ.readAll _ _ fun b hb => ?_) rfl
    fun _ => hQ.pure _
  exact addressable_of_holds (RingAddress.holds_blocksBefore (by decide) _ _ b hb)

theorem download : Q Cancelled Vyper2.download Vyper2.download := by
  unfold Vyper2.download
  refine hQ.bind hQ.readVersion rfl fun version =>
    hQ.bind (hQ.readBlock ⟨by decide, by decide⟩) rfl fun serial => hQ.bind (hQ.emit _) rfl fun _ =>
      hQ.bind (hQ.readBlock ⟨by decide, by decide⟩) rfl fun raw => ?_
  cases RingHeader.parse raw with
  | error f => exact hQ.reject f
  | ok header => exact hQ.bind (hQ.readRing header) rfl fun _ => hQ.pure _

theorem foreach (keep : List Dive → Bool) :
    Q Cancelled (Vyper2.foreach keep) (Vyper2.foreach keep) := by
  rw [foreach_eq, foreach_eq]
  exact hQ.bind hQ.download rfl fun x => hQ.report fun device =>
    (x.2.1.walk (fingerprintOffset x.1) x.2.2).cut (isKnown device.fingerprint) keep

theorem resetMaxDepth : Q Cancelled Vyper2.resetMaxDepth Vyper2.resetMaxDepth :=
  hQ.bind (hQ.ask .reset trivial) rfl fun _ => hQ.pure _

end Exchanging
end Vyper2

/-! ### What an operation leaves with the caller -/

namespace Device
namespace Operation

open Session

variable {σ : Type} [Link σ]

/-- What an operation leaves with the caller, and the device behind it: how it ended, and the bytes
that reached the caller's buffer or vector, if it has one. -/
def deliver : Operation → Device σ → Receipt × Device σ
  | version room, d => d.version room
  | read address length, d => d.read address length
  | dump vector, d => d.dumpInto vector
  | op, d => (op.perform d).map (Receipt.mk []) id

/-- It ends as it does for a caller who only looks at how it ends. -/
theorem perform_eq (op : Operation) (d : Device σ) :
    op.perform d = (op.deliver d).map Receipt.outcome id := by
  cases op <;> rfl

/-- The program of an operation on a Vyper2. -/
def program : Operation → Op σ Vyper2 Receipt
  | version room => Vyper2.version room
  | read address length => Vyper2.read address length
  | write address data => (fun _ => .whole []) <$> Vyper2.write address data
  | dump _ => Receipt.whole <$> Vyper2.dump
  | foreach keep => (fun _ => .whole []) <$> Vyper2.foreach keep
  | resetMaxDepth => (fun _ => .whole []) <$> Vyper2.resetMaxDepth
  | writeInterval _ => wrongFamily .vyper2
  | close => (fun _ => .whole []) <$> Vyper2.close

/-- **An operation on a Vyper2 delivers what its program does.** -/
theorem deliver_vyper2 (op : Operation) (s : Session σ Vyper2) :
    op.deliver (vyper2 s) = (.ofRun (Session.run op.program s).1,
      vyper2 (Session.run op.program s).2) := by
  -- what gives no bytes is delivered as an empty whole
  have hunit : ∀ y : Op σ Vyper2 Unit,
      ((Session.run y s).1, vyper2 (Session.run y s).2).map (Receipt.mk []) id =
        (Receipt.ofRun (Session.run ((fun _ => Receipt.whole []) <$> y) s).1,
          vyper2 (Session.run ((fun _ => Receipt.whole []) <$> y) s).2) := by
    intro y
    rw [run_map]
    rcases Session.run y s with ⟨e | ⟨⟩, t⟩ <;> rfl
  cases op with
  | version room =>
    rw [deliver, Device.version, fill, run_vyper2, program]
    rcases Session.run (Vyper2.version room) s with ⟨e | r, t⟩ <;> rfl
  | read address length =>
    rw [deliver, Device.read, fill, run_vyper2, program]
    rcases Session.run (Vyper2.read address length) s with ⟨e | r, t⟩ <;> rfl
  | dump vector =>
    rw [deliver, dumpInto_eq, Device.dump, fill, run_vyper2, program]
    rcases Session.run (Receipt.whole <$> Vyper2.dump) s with ⟨e | r, t⟩ <;> rfl
  | write address data => exact hunit (Vyper2.write address data)
  | foreach keep =>
    rw [program, run_map]
    show ((Device.foreach keep (vyper2 s)).map (Except.map fun _ => ()) id).map _ _ = _
    rw [Device.foreach, run_vyper2]
    rcases Session.run (Vyper2.foreach keep) s with ⟨e | ds, t⟩ <;> rfl
  | resetMaxDepth => exact hunit Vyper2.resetMaxDepth
  | writeInterval seconds => rfl
  | close => exact hunit Vyper2.close

/-- **What holds of each exchange holds of every operation but closing.** -/
theorem exchanging_program {ρ : Type} [Link ρ]
    {Q : ∀ {α : Type}, (Except DeviceError α → Prop) → Op σ Vyper2 α → Op ρ Vyper2 α → Prop}
    (hQ : Vyper2.Exchanging Q) {op : Operation} (hop : op ≠ close) :
    Q Vyper2.GivenUp op.program op.program := by
  cases op with
  | version room => exact hQ.version room
  | read address length => exact hQ.read address length
  | write address data => exact hQ.receipt _ (hQ.write address data)
  | dump vector => exact hQ.receipt _ hQ.dump
  | foreach keep => exact hQ.receipt _ (hQ.foreach keep)
  | resetMaxDepth => exact hQ.receipt _ hQ.resetMaxDepth
  | writeInterval seconds => exact hQ.refuse rfl
  | close => exact absurd rfl hop

end Operation
end Device
end DiveLink
