import DiveLink.Proofs.Block
import DiveLink.Proofs.Vyper2.Download
import DiveLink.Proofs.Vyper2.Simulator

/-!
# A Vyper2 on a link that works

If a link passes on every byte in both directions and a device is at its other end, each command is
answered, and what is read is what the device holds in memory.

## Main definitions

* `Vyper2.Wired` — a link that passes on every byte.
* `Vyper2.Serves` — a session with a device at the other end of such a link.
* `Vyper2.Yields` — a program that succeeds in every such session, always with the same result.

## Main results

* `Vyper2.Wired.exchange` — a command that the device answers is exchanged for the answer.
* `Vyper2.yields_readVersion`, `Vyper2.yields_readBlocks`, `Vyper2.yields_read`,
  `Vyper2.yields_readRing` — **what is read is what the device holds**.
-/

namespace DiveLink
namespace Vyper2

open Session

variable {σ δ α β : Type} [Link σ]

/-! ### The link -/

/-- The link passes on every byte.  `At d w l` says that in the state `l` of the link the device `d`
is at its other end, and the bytes `w` wait to be received. -/
structure Wired (token : CancelToken) (At : Simulator → Bytes → σ → Prop) : Prop where
  uncancelled : ∀ {d w l}, At d w l → Link.cancelled token l = false
  sleep : ∀ {d w l} (ms : Nat), At d w l → At d w (Link.call (.sleep ms) l).2
  rts : ∀ {d w l} (level : Bool), At d w l →
    (Link.call (.rts level) l).1.failure = none ∧ At d w (Link.call (.rts level) l).2
  /-- All that is written reaches the device, and its answers wait behind the others. -/
  write : ∀ {d w l} (data : Bytes), At d w l →
    (Link.call (.write data) l).1.failure = none ∧
      (Link.call (.write data) l).1.accepted = data.length ∧
      At (d.feed data).2 (w ++ (d.feed data).1) (Link.call (.write data) l).2
  /-- All that waits can be read. -/
  read : ∀ {d w l} (n : Nat), At d w l → n ≤ w.length →
    (Link.call (.read n) l).1.failure = none ∧
      (Link.call (.read n) l).1.received = w.take n ∧
      At d (w.drop n) (Link.call (.read n) l).2

variable {At : Simulator → Bytes → σ → Prop} {s : Session σ δ} {d d' : Simulator}
  {command answer : Bytes} {settle size : Nat}

/-- A command that the device answers is exchanged for the answer, and nothing is left over. -/
theorem Wired.exchange (hw : Wired s.token At) (hat : At d [] s.link)
    (hfeed : d.feed command = (answer, d'))
    (hfits : Packet.check command answer size = .ok ()) :
    Packet.Succeeds settle command answer size s ∧
      At d' [] (Packet.after settle command answer.length s).link := by
  -- the answer is there as soon as the command is written, and waits until it is read
  have hslept := hw.sleep settle hat
  obtain ⟨hraised, hup⟩ := hw.rts true hslept
  obtain ⟨hsent, haccepted, hanswered⟩ := hw.write command hup
  rw [hfeed, List.nil_append] at hanswered
  obtain ⟨hlowered, hdown⟩ := hw.rts false hanswered
  obtain ⟨hgot, hreceived, hend⟩ := hw.read answer.length hdown (Nat.le_refl _)
  rw [List.take_length] at hreceived
  rw [List.drop_length] at hend
  exact ⟨⟨⟨hw.uncancelled hat, hraised, hsent, haccepted, hlowered⟩, hgot, hreceived, hfits⟩, hend⟩

/-! ### Programs that succeed -/

/-- A session with a device at the other end of a link that works.  The device has the version block
and the memory given, and waits for a command. -/
structure Serves (At : Simulator → Bytes → σ → Prop) (version memory : Bytes) (s : Session σ δ) :
    Prop where
  wired : Wired s.token At
  ready : ∃ d, At d [] s.link ∧ Simulator.Ready version memory d

/-- The program `x` ends with `a` in every session with this device, and leaves such a session. -/
def Yields (At : Simulator → Bytes → σ → Prop) (version memory : Bytes) (x : Op σ δ α) (a : α) :
    Prop :=
  ∀ s, Serves At version memory s → ∃ t, run x s = (.ok a, t) ∧ Serves At version memory t

variable {version memory : Bytes} {x : Op σ δ α} {f : α → Op σ δ β} {a : α} {b : β}

theorem Yields.pure (a : α) : Yields At version memory (pure a : Op σ δ α) a :=
  fun s hs => ⟨s, rfl, hs⟩

theorem Yields.bind (hx : Yields At version memory x a) (hf : Yields At version memory (f a) b) :
    Yields At version memory (x >>= f) b := by
  intro s hs
  obtain ⟨t, hrun, ht⟩ := hx s hs
  obtain ⟨u, hrun', hu⟩ := hf t ht
  exact ⟨u, by rw [run_bind_ok hrun, hrun'], hu⟩

theorem Yields.outcome (hx : Yields At version memory x a) :
    Yields At version memory (outcome x) (.ok a) := by
  intro s hs
  obtain ⟨t, hrun, ht⟩ := hx s hs
  exact ⟨t, by rw [run_outcome, hrun], ht⟩

theorem Yields.emit (e : Event) : Yields At version memory (emit e : Op σ δ Unit) () := by
  intro s hs
  rw [run_emit]
  split
  · exact ⟨_, rfl, hs.wired, hs.ready⟩
  · exact ⟨_, rfl, hs⟩

/-- A command whose answer fits it, on a device that is ready behind the answer. -/
theorem Yields.ask {parameters : Nat}
    (hfeed : ∀ {d}, Simulator.Ready version memory d →
      ∃ d', d.feed command = (answer, d') ∧ Simulator.Ready version memory d')
    (hfits : Packet.check command answer size = .ok ())
    (hlen : answer.length = Packet.overhead + parameters + size) :
    Yields At version memory
      (Packet.ask settle command parameters size : Op σ δ Bytes) answer := by
  intro s hs
  obtain ⟨d, hat, hready⟩ := hs.ready
  obtain ⟨d', hd', hready'⟩ := hfeed hready
  obtain ⟨hsucceeds, hat'⟩ := hs.wired.exchange hat hd' hfits
  exact ⟨_, Packet.run_ask_eq_ok.2 ⟨hsucceeds, hlen, rfl⟩, hs.wired, d', hat', hready'⟩

/-! ### Reading -/

/-- The version block is read. -/
theorem yields_readVersion (hv : version.length = versionSize) :
    Yields At version memory (readVersion : Op σ δ Bytes) version := by
  have hask : Yields At version memory
      (Packet.ask Vyper2.settle versionCommand 0 versionSize : Op σ δ Bytes)
        (versionAnswer version) :=
    .ask (fun h => ⟨_, Simulator.feed_versionCommand h hv, h.next⟩) (check_versionAnswer hv)
      (by rw [versionAnswer, Packet.length_response, hv]; rfl)
  have hdata : Packet.data (versionAnswer version) 0 versionSize = version := by
    rw [← hv]
    exact Packet.data_response 0x0F [] version
  refine hask.bind ?_
  rw [hdata]
  exact .pure version

/-- A block is read from memory. -/
theorem yields_readBlock {b : Block} (hb : Addressable b) :
    Yields At version memory (readBlock b : Op σ δ Bytes)
      (Memory.load memory b.address b.size) := by
  have hload := Memory.length_load memory b.address b.size
  have hask : Yields At version memory
      (Packet.ask Vyper2.settle (readCommand b) rangeParameters b.size : Op σ δ Bytes)
        (blockAnswer b (Memory.load memory b.address b.size)) :=
    .ask (fun h => ⟨_, Simulator.feed_readCommand h hb, h.next⟩) (check_blockAnswer hb hload)
      (by rw [blockAnswer, Packet.length_response, length_blockParameters, hload])
  have hdata := Packet.data_response 0x05 (blockParameters b)
    (Memory.load memory b.address b.size)
  rw [length_blockParameters, hload] at hdata
  refine hask.bind ?_
  rw [blockAnswer, hdata]
  exact .pure _

/-- Blocks are read one after the other, and no read fails. -/
theorem yields_readBlocks : ∀ (bs : List Block) (progress : Option Progress),
    (∀ b ∈ bs, Addressable b) → Yields At version memory (readBlocks progress bs : Op σ δ Fetched)
      ⟨bs.map fun b => Memory.load memory b.address b.size, .ok ()⟩ := by
  intro bs
  induction bs with
  | nil => exact fun _ _ => .pure _
  | cons b bs ih =>
    intro progress hbs
    rw [readBlocks]
    refine (yields_readBlock (hbs b List.mem_cons_self)).outcome.bind ?_
    have hrest : Yields At version memory (do
        let rest ← readBlocks (progress.map (·.advance b.size)) bs
        return ⟨Memory.load memory b.address b.size :: rest.chunks, rest.outcome⟩ : Op σ δ Fetched)
        ⟨(b :: bs).map fun b => Memory.load memory b.address b.size, .ok ()⟩ :=
      (ih _ fun c hc => hbs c (List.mem_cons_of_mem b hc)).bind (.pure _)
    cases progress with
    | none => exact hrest
    | some p => exact (Yields.emit _).bind hrest

/-- All of some blocks are read from memory. -/
theorem yields_readAll (progress : Option Progress) {bs : List Block}
    (hbs : ∀ b ∈ bs, Addressable b) :
    Yields At version memory (readAll progress bs : Op σ δ (List Bytes))
      (bs.map fun b => Memory.load memory b.address b.size) :=
  (yields_readBlocks bs progress hbs).bind ((Yields.pure ()).bind (.pure _))

/-! ### Ranges and the ring -/

/-- What is loaded block by block stands at the addresses of the blocks. -/
theorem flatten_loads (memory : Bytes) (bs : List Block) :
    (bs.map fun b => Memory.load memory b.address b.size).flatten =
      (bs.flatMap RingAddress.addresses).map fun a => memory.getD a 0 := by
  rw [List.map_flatMap, ← List.flatMap_def]
  simp only [Memory.load_eq_map, RingAddress.addresses]

theorem addressable_of_mem_tile {address length : Nat} (h : address + length ≤ memorySize)
    {b : Block} (hb : b ∈ Block.tile blockSize address length) : Addressable b := by
  obtain ⟨-, hend, hmost⟩ := Block.bounds_of_mem_tile (by decide) _ _ b hb
  unfold memorySize at h
  unfold blockSize at hmost
  refine ⟨by omega, ?_⟩
  unfold rangeParameters
  omega

/-- The blocks of a range hold its bytes. -/
theorem flatten_tile (memory : Bytes) (address length : Nat) :
    ((Block.tile blockSize address length).map fun b =>
      Memory.load memory b.address b.size).flatten = Memory.load memory address length := by
  rw [flatten_loads, Block.tile_addresses (by decide), Memory.load_eq_map]

theorem rangeFault_of_le {address length : Nat} (h : address + length ≤ memorySize) :
    rangeFault address length = none := if_pos h

/-- A range is read from memory. -/
theorem yields_read {address length : Nat} (h : address + length ≤ memorySize) :
    Yields At version memory (Vyper2.read address length : Op σ δ Receipt)
      (.whole (Memory.load memory address length)) := by
  unfold Vyper2.read
  rw [rangeFault_of_le h, ← flatten_tile]
  exact (yields_readBlocks _ none fun b hb => addressable_of_mem_tile h hb).bind (.pure _)

theorem addressable_of_holds {b : Block} (hb : RingAddress.Holds blockSize b) : Addressable b := by
  obtain ⟨hstart, hend, hpos, hmost⟩ := hb
  obtain ⟨-, he, -⟩ := RingAddress.ring_numbers
  refine ⟨by omega, ?_⟩
  unfold blockSize at hmost
  unfold rangeParameters
  omega

/-- The bytes of a ring are read in the order of the ring, although they are asked for from the
newest byte backwards. -/
theorem yields_readRing (h : RingHeader) :
    Yields At version memory (readRing h : Op σ δ Bytes)
      ((usedAddresses h).map fun a => memory.getD a 0) := by
  have hm : blockSize ≠ 0 := by decide
  -- turned round, the blocks are in the order of the ring
  have hbytes : ((h.stop.blocksBefore blockSize h.used).map fun b =>
      Memory.load memory b.address b.size).reverse.flatten =
        (usedAddresses h).map fun a => memory.getD a 0 := by
    rw [usedAddresses, ← RingAddress.blocksBefore_addresses hm _ _ _ h.advance_used,
      ← List.map_reverse, flatten_loads]
  unfold readRing
  refine (Yields.emit _).bind ((yields_readAll _ fun b hb => ?_).bind ?_)
  · exact addressable_of_holds (RingAddress.holds_blocksBefore hm _ _ b hb)
  · rw [hbytes]
    exact .pure _

end Vyper2
end DiveLink
