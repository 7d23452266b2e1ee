import DiveLink.Proofs.Incremental
import DiveLink.Proofs.Stream
import DiveLink.Proofs.Vyper2.Dialogue

/-!
# A dump is all or nothing

The memory of a Vyper2 is put into the caller's vector block by block, and that of a Sensus Pro when
all of it has arrived.  Either way the vector holds the whole memory in the end and nothing beside
it, or it is empty.

## Main definitions

* `Device.Brought` — the calls that bring the memory of a device.

## Main results

* `Device.dumpInto_eq` — what was in the vector before does not matter.
* `Device.dump_all_or_nothing` — **a dump leaves the whole memory, or nothing.**
-/

namespace DiveLink

open Session

variable {σ δ : Type} [Link σ]

/-! ### The vector is filled as a whole -/

/-- What a dump with this result leaves to the caller. -/
def Receipt.ofExcept : Except DeviceError Bytes → Receipt
  | .ok image => .whole image
  | .error e => .refused e

omit [Link σ] in
/-- If a byte is left to the caller then all are. -/
theorem Receipt.ofExcept_cases {P : Bytes → Prop} {r : Except DeviceError Bytes}
    (h : ∀ image, r = .ok image → P image) :
    (∀ e, (Receipt.ofExcept r).outcome = .error e → (Receipt.ofExcept r).bytes = []) ∧
      ((Receipt.ofExcept r).outcome = .ok () → P (Receipt.ofExcept r).bytes) := by
  cases r with
  | error e => exact ⟨fun _ _ => rfl, fun hok => absurd hok (by simp [ofExcept, refused])⟩
  | ok image => exact ⟨fun e he => absurd he (by simp [ofExcept, whole]), fun _ => h image rfl⟩

namespace Vyper2

/-- Blocks that were all read fill a vector of the length of the range. -/
theorem fill_of_obtained {es : List Entry} {chunks : List Bytes} {room : Bytes}
    (h : List.Forall₂ (Obtained es)
      ((Block.tile blockSize 0 room.length).take chunks.length) chunks)
    (hall : (Block.tile blockSize 0 room.length).length ≤ chunks.length) :
    Receipt.fill ⟨chunks.flatten, .ok ()⟩ room = chunks.flatten := by
  have hm : blockSize ≠ 0 := by decide
  have hlen := (Block.chunk_at hm (fun _ _ => Obtained.length) chunks _ _ h).1
  rw [Block.length_tile_le_iff hm] at hall
  rw [Receipt.fill, List.drop_eq_nil_of_le, List.append_nil]
  show room.length ≤ chunks.flatten.length
  omega

/-- The vector is filled with what a dump gives; if the dump fails, it does not count. -/
theorem run_dumpInto (vector : Bytes) (s : Session σ δ) :
    ∃ r, run (dumpInto vector) s = (.ok r, (run dump s).2) ∧
      r.clearOnError = .ofExcept (run dump s).1 := by
  obtain ⟨room, hroom⟩ : ∃ room, room = Bytes.resize memorySize (vector.take 0) := ⟨_, rfl⟩
  have hlength : room.length = memorySize := by rw [hroom, Bytes.length_resize]
  unfold dumpInto dump
  rw [run_bind_ok (run_outcome _ s), ← hroom]
  rcases hversion : run readVersion s with ⟨e | version, t⟩
  · rw [run_bind_error hversion]
    exact ⟨_, rfl, rfl⟩
  · rw [run_bind_ok hversion]
    obtain ⟨t', hemit⟩ : ∃ t', run (emit (.progress (Progress.start (UInt32.ofNat memorySize))) :
        Op σ δ Unit) t = (.ok (), t') := ⟨_, run_emit_ok _ t⟩
    dsimp only
    rw [run_bind_ok hemit, run_bind_ok hemit]
    obtain ⟨f, u, es, hblocks, -, hobtained, hall⟩ := obtained_of_readBlocks
      (Block.tile blockSize 0 room.length) (some (Progress.start (UInt32.ofNat memorySize))) t'
    rw [hlength] at hblocks ⊢
    have hread := run_readAll hblocks
    rw [run_bind_ok hblocks]
    cases houtcome : f.outcome with
    | error e =>
      rw [houtcome] at hread
      rw [run_bind_error hread]
      exact ⟨_, rfl, rfl⟩
    | ok =>
      rw [houtcome] at hread
      -- all blocks have arrived, and nothing of the vector is left behind them
      rw [run_bind_ok hread, fill_of_obtained hobtained (hall.1 houtcome)]
      dsimp only
      have hinfo := run_emit_ok (.devInfo (identity version
        (Bytes.slice f.chunks.flatten serialBlock.address serialBlock.size))) u
      rw [run_bind_ok hinfo, run_bind_ok hinfo]
      exact ⟨_, rfl, rfl⟩

end Vyper2

namespace Device

theorem dump_sensusPro (s : Session σ SensusPro) :
    dump (sensusPro s) = (.ofExcept (Session.run SensusPro.dump s).1,
      sensusPro (Session.run SensusPro.dump s).2) := by
  rw [dump, fill, run_sensusPro, run_map]
  rcases Session.run SensusPro.dump s with ⟨e | image, t⟩ <;> rfl

theorem dump_vyper2 (s : Session σ Vyper2) :
    dump (vyper2 s) = (.ofExcept (Session.run Vyper2.dump s).1,
      vyper2 (Session.run Vyper2.dump s).2) := by
  rw [dump, fill, run_vyper2, run_map]
  rcases Session.run Vyper2.dump s with ⟨e | image, t⟩ <;> rfl

/-- **What was in the vector before does not matter.** -/
theorem dumpInto_eq (vector : Bytes) (d : Device σ) : d.dumpInto vector = d.dump := by
  cases d with
  | sensusPro s =>
    rw [dump_sensusPro, dumpInto, fill, run_sensusPro, SensusPro.dumpInto,
      run_bind_ok (run_outcome _ s)]
    rcases Session.run SensusPro.dump s with ⟨e | image, t⟩ <;> rfl
  | vyper2 s =>
    obtain ⟨r, hrun, hclear⟩ := Vyper2.run_dumpInto vector s
    rw [dump_vyper2, dumpInto, fill, run_vyper2, hrun]
    dsimp only
    rw [hclear]

/-! ### What is in the vector -/

/-- The calls `cs` have brought the memory of a device of a family, which is `image`. -/
def Brought : Family → Bytes → Transcript → Prop
  -- the blocks at 0, 120, 240, … were asked for one after the other, and each was answered
  | .vyper2, image, cs => image.length = 0x8000 ∧ ∃ version chunks,
      Vyper2.Asked (.version :: (List.range 274).map fun i =>
        .block ⟨120 * i, min 120 (0x8000 - 120 * i)⟩) (version :: chunks) cs ∧
      image = chunks.flatten
  -- the device was woken, and the stream behind the command ended in its check
  | .sensusPro, image, cs => image.length = 56320 ∧ ∃ commanded stream,
      cs = commanded ++ stream ∧ SensusPro.Commanded 0xB4 commanded ∧
      SensusPro.Chunks (Block.tile 256 0 56322) (Checksum.withCrc16 image) stream

theorem brought_vyper2 {image : Bytes} {cs : Transcript} (h : Vyper2.Dumped image cs) :
    Brought .vyper2 image cs := by
  obtain ⟨version, chunks, hasked, rfl⟩ := h
  have hm : Vyper2.blockSize ≠ 0 := by decide
  refine ⟨?_, version, chunks, ?_, rfl⟩
  · -- the data of each block are as long as the block
    have hlengths : List.Forall₂ (fun b data => data.length = b.size)
        (Block.tile Vyper2.blockSize 0 Vyper2.memorySize) chunks := by
      have hall := (List.forall₂_cons.1 hasked.forall₂).2
      rwa [List.forall₂_map_left_iff] at hall
    have hcount := hlengths.length_eq
    rw [← List.take_length (l := Block.tile _ _ _), hcount] at hlengths
    rw [(Block.chunk_at hm (fun _ _ h => h) chunks _ _ hlengths).1]
    exact Nat.min_eq_right ((Block.length_tile_le_iff hm _ _ _).1 (Nat.le_of_eq hcount))
  · rw [Vyper2.dumpPlan, Block.tile_eq_map hm, List.map_map] at hasked
    simpa [Function.comp_def, Vyper2.blockSize, Vyper2.memorySize] using hasked

theorem brought_sensusPro {image : Bytes} {cs : Transcript} (h : SensusPro.Dumped image cs) :
    Brought .sensusPro image cs := by
  obtain ⟨commanded, stream, hcs, hcommanded, hchunks⟩ := h
  refine ⟨?_, commanded, stream, hcs, hcommanded, hchunks⟩
  have hlength := hchunks.length_tile (by decide)
  rw [Checksum.length_withCrc16] at hlength
  exact Nat.add_right_cancel hlength

/-- **A dump leaves the whole memory in the caller's vector, or nothing.** -/
theorem dump_all_or_nothing (vector : Bytes) (d : Device σ) :
    ∃ cs, (d.dumpInto vector).2.calls = d.calls ++ cs ∧
      (∀ e, (d.dumpInto vector).1.outcome = .error e → (d.dumpInto vector).1.bytes = []) ∧
      ((d.dumpInto vector).1.outcome = .ok () →
        Brought d.family (d.dumpInto vector).1.bytes cs) := by
  rw [dumpInto_eq]
  cases d with
  | sensusPro s =>
    obtain ⟨cs, hmade, hdumped⟩ := (SensusPro.conducts_dump (B := fun _ => False)).of_ok s
    rw [dump_sensusPro]
    exact ⟨cs, hmade.calls,
      Receipt.ofExcept_cases fun image h => brought_sensusPro (hdumped image h)⟩
  | vyper2 s =>
    obtain ⟨cs, hmade, hdumped⟩ := Vyper2.conducts_dump.of_ok s
    rw [dump_vyper2]
    exact ⟨cs, hmade.calls,
      Receipt.ofExcept_cases fun image h => brought_vyper2 (hdumped image h)⟩

end Device
end DiveLink
