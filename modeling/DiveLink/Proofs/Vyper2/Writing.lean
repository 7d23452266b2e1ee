import DiveLink.Proofs.Bench
import DiveLink.Proofs.Incremental
import DiveLink.Proofs.Vyper2.Carried

/-!
# Writing memory on a link that may fail

Data is written piece by piece, and each piece is stored by the device as soon as its command is
there.  Whatever happens on the link, the memory then holds a first part of the data that ends with
a piece; it holds each piece whose answer fits, and at most one more.

## Main definitions

* `Vyper2.nthCommand`, `Vyper2.Acknowledged` — the command for a piece, and a piece whose answer
  fits.
* `Vyper2.Written` — what a write leaves in memory and on the link.
* `Vyper2.Landed` — what it leaves in memory, with what is outside of the range.

## Main results

* `Vyper2.Carries.writePiece` — one piece is stored or not.
* `Vyper2.Carries.writePieces` — **the pieces that are stored are the first ones.**
* `Device.write_lands` — so a write that fails stores a first part of the data, and a write that
  succeeds can be read back.
-/

namespace DiveLink
namespace Vyper2

open Session

variable {σ δ : Type} [Link σ] {At : Simulator → Bytes → σ → Prop} {d : Simulator}
  {s t : Session σ δ} {version memory : Bytes} {es : List Entry}

/-! ### One piece -/

/-- A piece of data is stored by the device or not; if it was written whole, and so in particular if
its answer fits, it is stored. -/
theorem Carries.writePiece (hc : Carries At) (hat : At d [] s.link)
    (hready : Simulator.Ready version memory d) {address : Nat} {piece : Bytes}
    (haddress : address < 65536) (hpiece : piece.length ≤ blockSize)
    {r : Except DeviceError Bytes}
    (hrun : run (Packet.ask settle (writeCommand address piece) rangeParameters 0) s = (r, t)) :
    ∃ es d' w, Grows s t es ∧ At d' w t.link ∧
      ((∃ e, r = .error e) ∧ d'.memory = memory ∧ (∀ c, ¬ Wrote es c) ∨
        d'.memory = Memory.store memory address piece ∧
        (∀ c, Wrote es c → c = writeCommand address piece) ∧
        ∀ answer, r = .ok answer → w = [] ∧
          Simulator.Ready version (Memory.store memory address piece) d' ∧
          answer.length = Packet.overhead + rangeParameters ∧
          Packet.Exchanged settle (writeCommand address piece) answer 0 es) := by
  have hsize : piece.length + rangeParameters < 256 := by
    unfold blockSize at hpiece
    unfold rangeParameters
    omega
  have hfeed := Simulator.feed_writeCommand hready haddress hsize
  obtain ⟨es, n, w, hgrows, hbrought, hok⟩ := hc.ask hat hready.pending hrun
  refine ⟨es, _, w, hgrows, hbrought.at_link, ?_⟩
  rcases Nat.lt_or_ge n (writeCommand address piece).length with hlt | hge
  · -- only a part of the command has reached the device
    refine Or.inl ⟨?_, ?_, ?_⟩
    · cases r with
      | error e => exact ⟨e, rfl⟩
      | ok answer => exact absurd (hok answer rfl).1 (Nat.ne_of_lt hlt)
    · rw [Simulator.feed_part hready (Simulator.frameLength_writeCommand hsize) hlt]
      exact hready.memory
    · intro c hwrote
      exact absurd (hbrought.wrote c hwrote).2 (Nat.ne_of_lt hlt)
  · rw [List.take_of_length_le hge, hfeed]
    refine Or.inr ⟨rfl, fun c hwrote => (hbrought.wrote c hwrote).1, ?_⟩
    intro answer hanswer
    obtain ⟨-, hex, hw⟩ := hok answer hanswer
    rw [hanswer] at hrun
    have hlength := (Packet.run_ask_eq_ok.1 hrun).2.1
    refine ⟨hw ?_, ⟨hready.versionBlock, rfl, hready.pending, hready.damages⟩, hlength, hex⟩
    rw [hfeed, hlength, Packet.length_response, length_blockParameters]
    rfl

/-! ### All pieces -/

/-- The command for the `i`th piece of the data that is written from `address` on. -/
def nthCommand (address : Nat) (data : Bytes) (i : Nat) : Bytes :=
  writeCommand (address + blockSize * i) (data.slice (blockSize * i) blockSize)

theorem nthCommand_succ (address : Nat) (data : Bytes) (i : Nat) :
    nthCommand (address + blockSize) (data.drop blockSize) i = nthCommand address data (i + 1) := by
  rw [nthCommand, nthCommand, Bytes.slice, Bytes.slice, List.drop_drop, Nat.mul_succ,
    Nat.add_comm (blockSize * i), Nat.add_assoc]

/-- In the course of `es` the command for the `i`th piece was sent, and the answer to it fits. -/
def Acknowledged (es : List Entry) (address : Nat) (data : Bytes) (i : Nat) : Prop :=
  ∃ answer part, part <:+: es ∧ answer.length = Packet.overhead + rangeParameters ∧
    Packet.Exchanged settle (nthCommand address data i) answer 0 part

theorem Acknowledged.mono {es es' : List Entry} {address : Nat} {data : Bytes} {i : Nat}
    (h : Acknowledged es address data i) (hes : es <:+: es') : Acknowledged es' address data i := by
  obtain ⟨answer, part, hpart, hlength, hex⟩ := h
  exact ⟨answer, part, hpart.trans hes, hlength, hex⟩

theorem Acknowledged.wrote {address : Nat} {data : Bytes} {i : Nat}
    (h : Acknowledged es address data i) : Wrote es (nthCommand address data i) := by
  obtain ⟨_, _, hpart, -, hex⟩ := h
  exact .of_exchanged hpart hex

/-- In the course of `es` the first `m` bytes of the data were stored, the device `d'` is at the
other end of the link behind it, and the bytes `w` wait. -/
structure Written (At : Simulator → Bytes → σ → Prop) (memory : Bytes) (address : Nat)
    (data : Bytes) (l : σ) (es : List Entry) (m : Nat) (d' : Simulator) (w : Bytes) : Prop where
  at_link : At d' w l
  le : m ≤ data.length
  /-- No piece was stored in part. -/
  whole : blockSize ∣ m ∨ m = data.length
  memory : d'.memory = Memory.store memory address (data.take m)
  /-- Whatever was written whole was stored, -/
  wrote : ∀ c, Wrote es c → ∃ i, blockSize * i < m ∧ c = nthCommand address data i
  /-- and what was stored was acknowledged, but for the last piece. -/
  acknowledged : ∀ i, blockSize * (i + 1) < m → Acknowledged es address data i

section Written

omit [Link σ]

variable {address m : Nat} {data : Bytes} {l : σ} {es es' : List Entry} {d' : Simulator} {w : Bytes}

/-- Where nothing was written nothing is stored. -/
theorem Written.none (hat : At d' w l) (hmemory : d'.memory = memory)
    (hwrote : ∀ c, ¬ Wrote es c) : Written At memory address data l es 0 d' w where
  at_link := hat
  le := Nat.zero_le _
  whole := Or.inl (Nat.dvd_zero _)
  memory := by rw [List.take_zero, Memory.store_nil, hmemory]
  wrote := fun c h => absurd h (hwrote c)
  acknowledged := fun i h => absurd h (Nat.not_lt_zero _)

/-- The first piece is stored, and possibly not acknowledged. -/
theorem Written.first (hdata : data ≠ []) (hat : At d' w l)
    (hmemory : d'.memory = Memory.store memory address (data.take blockSize))
    (hwrote : ∀ c, Wrote es c → c = nthCommand address data 0) :
    Written At memory address data l es (min blockSize data.length) d' w where
  at_link := hat
  le := Nat.min_le_right _ _
  whole := by
    rcases Nat.le_total blockSize data.length with h | h
    · exact Or.inl ⟨1, by omega⟩
    · exact Or.inr (Nat.min_eq_right h)
  memory := by rw [hmemory, ← List.take_take, List.take_length]
  -- the first piece is stored by the first command, and by no other
  wrote := by
    intro c h
    have hpos : 0 < data.length := List.length_pos_iff.2 hdata
    have hsize : 0 < blockSize := by decide
    exact ⟨0, by omega, hwrote c h⟩
  -- nothing is acknowledged yet: the answer to the first command is still out
  acknowledged := by
    intro i hi
    rw [Nat.mul_succ] at hi
    omega

/-- The first piece is stored and acknowledged, and then others are written. -/
theorem Written.cons (hrange : address + data.length ≤ memory.length)
    (hwrote : ∀ c, Wrote es c → c = nthCommand address data 0)
    (hack : Acknowledged es address data 0) (hdata : data ≠ [])
    (hrest : Written At (Memory.store memory address (data.take blockSize))
      (address + (data.take blockSize).length) (data.drop blockSize) l es' m d' w) :
    Written At memory address data l (es ++ es') ((data.take blockSize).length + m) d' w := by
  have hpos : 0 < data.length := List.length_pos_iff.2 hdata
  have hsize : 0 < blockSize := by decide
  have hle := hrest.le
  have hfirst : (data.take blockSize).length = min blockSize data.length := List.length_take
  rw [List.length_drop] at hle
  -- behind a piece of less than full size nothing is left
  have hfull : 0 < m → (data.take blockSize).length = blockSize := by omega
  refine ⟨hrest.at_link, by omega, ?_, ?_, ?_, ?_⟩
  · rcases Nat.eq_zero_or_pos m with rfl | hm
    · rcases Nat.le_total blockSize data.length with h | h
      · exact Or.inl ⟨1, by omega⟩
      · exact Or.inr (by omega)
    · have hblock := hfull hm
      rcases hrest.whole with h | h
      · exact Or.inl (by rw [hblock]; exact (Nat.dvd_add_right (Nat.dvd_refl _)).2 h)
      · rw [List.length_drop] at h
        exact Or.inr (by omega)
  · have hsplit : data.take ((data.take blockSize).length + m) =
        data.take blockSize ++ (data.drop blockSize).take m := by
      rcases Nat.eq_zero_or_pos m with rfl | hm
      · rw [Nat.add_zero, hfirst, List.take_zero, List.append_nil, ← List.take_take,
          List.take_length]
      · rw [hfull hm, List.take_add]
    rw [hrest.memory, hsplit, Memory.store_store]
    rw [← hsplit, List.length_take]
    omega
  · intro c hc
    rcases wrote_append.1 hc with h | h
    · exact ⟨0, by omega, hwrote c h⟩
    · obtain ⟨i, hi, rfl⟩ := hrest.wrote c h
      have hblock := hfull (by omega)
      exact ⟨i + 1, by rw [Nat.mul_succ]; omega, by rw [hblock, nthCommand_succ]⟩
  · intro i hi
    cases i with
    | zero => exact hack.mono (List.infix_append' [] es es')
    | succ i =>
      rw [Nat.mul_succ] at hi
      have hblock := hfull (by omega)
      obtain ⟨answer, part, hpart, hlength, hex⟩ := hrest.acknowledged i (by omega)
      rw [hblock, nthCommand_succ] at hex
      exact ⟨answer, part, hpart.trans (List.suffix_append es es').isInfix, hlength, hex⟩

end Written

/-- **The pieces that are stored are the first ones.**  If all goes well, they are all pieces, and
the device waits for the next command. -/
theorem Carries.writePieces (hc : Carries At) : ∀ (data : Bytes) (address : Nat) (memory : Bytes)
    (d : Simulator) (s t : Session σ δ) (r : Except DeviceError Unit), At d [] s.link →
      Simulator.Ready version memory d → address + data.length ≤ memory.length →
      memory.length ≤ memorySize →
      run (writePieces (Block.split blockSize address data)) s = (r, t) →
      ∃ es m d' w, Grows s t es ∧ Written At memory address data t.link es m d' w ∧
        (r = .ok () → m = data.length ∧ w = [] ∧
          Simulator.Ready version (Memory.store memory address data) d') := by
  intro data
  induction hn : data.length using Nat.strongRecOn generalizing data with
  | _ n ih =>
    subst hn
    intro address memory d s t r hat hready hrange hsize hrun
    by_cases hdata : data = []
    · -- nothing is left to write
      subst hdata
      rw [Block.split_nil] at hrun
      cases hrun
      refine ⟨[], 0, d, [], .refl s, .none hat hready.memory ?_, fun _ => ⟨rfl, rfl, ?_⟩⟩
      · rintro c ⟨_, hmem, -⟩
        exact absurd hmem (by simp)
      · rwa [Memory.store_nil]
    · have hpos : 0 < data.length := List.length_pos_iff.2 hdata
      have hblock : 0 < blockSize := by decide
      have hfirst : (data.take blockSize).length = min blockSize data.length := List.length_take
      rw [Block.split_cons (by decide) hdata, Vyper2.writePieces, run_bind] at hrun
      rcases hask : run (Packet.ask settle (writeCommand address (data.take blockSize))
        rangeParameters 0) s with ⟨e | answer, u⟩ <;> rw [hask] at hrun
      · -- the first failure is the last that happens
        cases hrun
        obtain ⟨es, d', w, hgrows, hat', ⟨-, hmemory, hwrote⟩ | ⟨hmemory, hwrote, -⟩⟩ :=
          hc.writePiece hat hready (by unfold memorySize at hsize; omega) (by omega) hask
        · exact ⟨es, 0, d', w, hgrows, .none hat' hmemory hwrote, by simp⟩
        · exact ⟨es, _, d', w, hgrows, .first hdata hat' hmemory hwrote, by simp⟩
      · obtain ⟨es, d₁, w₁, hgrows, hat₁, ⟨⟨_, h⟩, -⟩ | ⟨-, hwrote, hok⟩⟩ :=
          hc.writePiece hat hready (by unfold memorySize at hsize; omega) (by omega) hask
        · exact absurd h (by simp)
        · obtain ⟨rfl, hready₁, hlength, hex⟩ := hok answer rfl
          obtain ⟨es', m, d', w, hgrows', hwritten, hall⟩ :=
            ih (data.drop blockSize).length (by rw [List.length_drop]; omega) _ rfl _ _ _ _ _ _
              hat₁ hready₁ (by rw [Memory.length_store, List.length_drop]; omega)
              (by rwa [Memory.length_store]) hrun
          refine ⟨es ++ es', _, d', w, hgrows.trans hgrows', .cons hrange hwrote
            ⟨answer, es, List.infix_rfl, hlength, hex⟩ hdata hwritten, ?_⟩
          intro hr
          obtain ⟨hm, hw, hready'⟩ := hall hr
          rw [Memory.store_store (by rw [List.take_append_drop]; exact hrange),
            List.take_append_drop] at hready'
          rw [List.length_drop] at hm
          exact ⟨by omega, hw, hready'⟩

/-! ### What a write leaves behind -/

/-- What stands in front of the pieces of one command is its address, so the commands for different
pieces differ. -/
theorem nthCommand_inj {address : Nat} {data : Bytes} {i j : Nat}
    (hi : address + blockSize * i < 65536) (hj : address + blockSize * j < 65536)
    (h : nthCommand address data i = nthCommand address data j) : i = j := by
  have hplace : ∀ k, address + blockSize * k < 65536 →
      Bytes.be16 ((nthCommand address data k).drop 3) = address + blockSize * k :=
    fun k hk => Bytes.be16_ofBE16 _ hk _
  have hsame := hplace i hi
  rw [h, hplace j hj] at hsame
  exact Nat.eq_of_mul_eq_mul_left (by decide : 0 < blockSize) (by omega)

/-- In the course of `es` the first `m` bytes of the data were stored from `address` on in the
memory, which is `memory'` now. -/
structure Landed (memory : Bytes) (address : Nat) (data : Bytes) (es : List Entry) (m : Nat)
    (memory' : Bytes) : Prop where
  le : m ≤ data.length
  /-- No piece was stored in part. -/
  whole : blockSize ∣ m ∨ m = data.length
  stored : memory' = Memory.store memory address (data.take m)
  /-- Nothing outside of the range has changed. -/
  outside : ∀ i, i < address ∨ address + data.length ≤ i → memory'[i]? = memory[i]?
  /-- Each piece whose answer fits was stored, -/
  covered : ∀ i, blockSize * i < data.length → Acknowledged es address data i →
    min (blockSize * (i + 1)) data.length ≤ m
  /-- and each piece that was stored has such an answer, but for the last one. -/
  acknowledged : ∀ i, blockSize * (i + 1) < m → Acknowledged es address data i

omit [Link σ] in
theorem Written.landed {address m : Nat} {data : Bytes} {l : σ} {d' : Simulator} {w : Bytes}
    (hmemory : memory.length = memorySize) (hrange : address + data.length ≤ memorySize)
    (h : Written At memory address data l es m d' w) :
    Landed memory address data es m d'.memory := by
  have hle := h.le
  have hlength : (data.take m).length = m := by
    rw [List.length_take]
    omega
  refine ⟨hle, h.whole, h.memory, ?_, ?_, h.acknowledged⟩
  · intro i hi
    rw [h.memory, Memory.getElem?_store (by omega), hlength, if_neg (by omega)]
  · intro i hi hack
    -- a command that was acknowledged was written, and so its piece is one of those stored
    obtain ⟨j, hj, hsame⟩ := h.wrote _ hack.wrote
    unfold memorySize at hrange
    obtain rfl := nthCommand_inj (by omega) (by omega) hsame
    rcases h.whole with ⟨k, rfl⟩ | rfl
    · have hlt : i < k := Nat.lt_of_mul_lt_mul_left hj
      exact Nat.le_trans (Nat.min_le_left _ _) (Nat.mul_le_mul_left _ hlt)
    · exact Nat.min_le_right _ _

end Vyper2

/-- **A write stores a first part of the data that ends with a piece**, whatever happens on a link
that adds nothing: the pieces that were acknowledged, and at most one more.  A write that succeeds
stores all data, and who then reads the range on a link that works is given the data. -/
theorem Device.write_lands {σ : Type} [Link σ] {At : Vyper2.Simulator → Bytes → σ → Prop}
    (hc : Vyper2.Carries At) {version memory : Bytes} {d : Vyper2.Simulator} {s : Session σ Vyper2}
    (hat : At d [] s.link) (hready : Vyper2.Simulator.Ready version memory d)
    (hmemory : memory.length = Vyper2.memorySize) {address : Nat} {data : Bytes}
    (hrange : address + data.length ≤ Vyper2.memorySize) :
    ∃ r t es m d' w, Device.write address data (.vyper2 s) = (r, .vyper2 t) ∧
      t.history = s.history ++ es ∧ At d' w t.link ∧
      Vyper2.Landed memory address data es m d'.memory ∧
      (r = .ok () → m = data.length ∧
        ∀ {ρ : Type} [Link ρ] {Works : Vyper2.Simulator → Bytes → ρ → Prop} {u : Session ρ Vyper2},
          Vyper2.Wired u.token Works → Works d' w u.link →
            ∃ v, Device.read address data.length (.vyper2 u) = (.whole data, .vyper2 v)) := by
  rcases hrun : Session.run (Vyper2.write address data) s with ⟨r, t⟩
  have hwrite : Device.write address data (.vyper2 s) = (r, .vyper2 t) := by
    rw [Device.write, Device.run_vyper2, hrun]
  unfold Vyper2.write at hrun
  rw [Vyper2.rangeFault_of_le hrange] at hrun
  obtain ⟨es, m, d', w, hgrows, hwritten, hok⟩ := hc.writePieces data address memory d s t r hat
    hready (by omega) (by omega) hrun
  refine ⟨r, t, es, m, d', w, hwrite, hgrows.history, hwritten.at_link,
    hwritten.landed hmemory hrange, fun hr => ?_⟩
  obtain ⟨hm, rfl, hready'⟩ := hok hr
  -- a success means that all was stored, so a later read finds it there
  refine ⟨hm, fun {ρ} _ {Works u} hworks hat' => ?_⟩
  obtain ⟨v, hread, -⟩ := Vyper2.yields_read hrange u ⟨hworks, d', hat', hready'⟩
  rw [Memory.load_store (by omega)] at hread
  exact ⟨v, by rw [Device.read, Device.fill, Device.run_vyper2, hread]⟩

/-- Only a part of the first answer arrives: the first of two pieces is stored all the same, and the
second is not. -/
theorem Device.write_lands_unanswered :
    let memory : Bytes := List.replicate 0x8000 0xFF
    let data : Bytes := List.replicate 130 7
    let bench := Bench.disturbed [0x13, 1, 2, 3] memory [] { faults := [⟨⟨"read", 1⟩, .short 3⟩] }
    memory.length = Vyper2.memorySize ∧ 0x10 + data.length ≤ Vyper2.memorySize ∧
      ∃ r t es d' w, Device.write 0x10 data (.vyper2 (.start bench ⟨none⟩ ⟨0⟩)) = (r, .vyper2 t) ∧
        r ≠ .ok () ∧ Bench.Bears d' w t.link ∧
        Vyper2.Landed memory 0x10 data es 120 d'.memory := by
  intro memory data bench
  have hmemory : memory.length = Vyper2.memorySize := List.length_replicate
  have hdata : data.length = 130 := List.length_replicate
  have hrange : 0x10 + data.length ≤ Vyper2.memorySize := by
    rw [hdata]
    decide
  obtain ⟨r, t, es, m, d', w, hwrite, -, hbears, hlanded, -⟩ :=
    Device.write_lands (s := .start bench ⟨none⟩ ⟨0⟩) Bench.carries
      ⟨_, rfl, rfl, rfl, by simp, Or.inl (by decide)⟩ ⟨rfl, rfl, rfl, rfl⟩ hmemory hrange
  have hfails : r ≠ .ok () := by
    have hnot : r.isOk = false := by
      rw [show r = (Device.write 0x10 data (.vyper2 (.start bench ⟨none⟩ ⟨0⟩))).1 from
        (congrArg Prod.fst hwrite).symm]
      decide +kernel
    rintro rfl
    exact absurd hnot (by decide)
  -- one byte of the first piece and one of the second
  have hbytes : t.link.rig.simulator.map (fun d => (d.memory[0x10 + 119]?, d.memory[0x10 + 120]?)) =
      some (some 7, some 0xFF) := by
    rw [show t.link = (Device.write 0x10 data (.vyper2 (.start bench ⟨none⟩ ⟨0⟩))).2.link from
      (congrArg (fun x => x.2.link) hwrite).symm]
    decide +kernel
  have hm : m = 120 := by
    obtain ⟨d₀, hsimulator, rfl, -⟩ := id hbears
    have hle := hlanded.le
    have hlength : (data.take m).length = m := by
      rw [List.length_take]
      omega
    have hstored : ∀ i : Nat, d₀.memory[i]? = (Memory.store memory 0x10 (data.take m))[i]? :=
      fun i => congrArg (fun b : Bytes => b[i]?) hlanded.stored
    rw [hsimulator, Option.map_some, Option.some.injEq, Prod.mk.injEq, hstored, hstored,
      Memory.getElem?_store (by omega), Memory.getElem?_store (by omega), hlength] at hbytes
    obtain ⟨hfirst, hsecond⟩ := hbytes
    have hlow : 119 < m := by
      by_contra hge
      rw [if_neg (by omega), List.getElem?_replicate_of_lt (by decide)] at hfirst
      exact absurd hfirst (by decide)
    have hhigh : m ≤ 120 := by
      by_contra hlt
      rw [if_pos (by omega), List.getElem?_take_of_lt (by omega),
        List.getElem?_replicate_of_lt (by decide)] at hsecond
      exact absurd hsecond (by decide)
    omega
  rw [hm] at hlanded
  exact ⟨hmemory, hrange, r, t, es, d', w, hwrite, hfails, hbears, hlanded⟩

end DiveLink
