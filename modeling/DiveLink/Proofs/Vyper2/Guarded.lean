import DiveLink.Proofs.Ring.Guarded
import DiveLink.Proofs.Session.Pattern
import DiveLink.Proofs.Vyper2.Dialogue

/-!
# Dives of a Vyper2 under guard

Whatever a link delivers in place of the version block, the header of the ring and the ring itself,
`Vyper2.foreach` comes to an end, and no machine stops it on the way.  Here it is written out on
plain numbers, with a guard in front of each step that a machine does not do in all cases.  The loop
that pulls the bytes of the ring is allowed one turn for each of them, and the walk one turn for
each dive that could find room and one more.  No guard stops it, and no lack of turns.

## Main definitions

* `Vyper2.InMemory` — a block that one exchange carries and that lies in the memory of the device.
* `Vyper2.pull?` — the bytes of the ring, pulled backwards from its newest byte.
* `Vyper2.foreach?` — `Vyper2.foreach` under guard.
* `Vyper2.Modest` — few calls, none of which asks for memory that the device does not have.

## Main results

* `Vyper2.passes_pull` — no guard stops the loop, which pulls at least one byte in each turn.
* `Vyper2.passes_foreach` — no guard stops the whole.
* `Vyper2.foreach_safe` — **no guard stops it, its calls are few and ask for memory of the device,
  and each dive handed out takes its part of the bytes in use.**
-/

namespace DiveLink
namespace Vyper2

open Session Guarded Transcript

variable {σ δ : Type} [Link σ]

/-! ### Reading -/

/-- A block that one exchange carries and that lies in the memory of the device. -/
def InMemory (b : Block) : Prop :=
  0 < b.size ∧ b.size ≤ blockSize ∧ b.address + b.size ≤ memorySize

instance (b : Block) : Decidable (InMemory b) := inferInstanceAs (Decidable (_ ∧ _ ∧ _))

/-- Reads the version block. -/
def readVersion? : OptionT (Op σ δ) Bytes := do
  let answer ← Packet.ask? settle versionCommand 0 versionSize
  sure (part? answer 3 (3 + versionSize))

/-- Reads one block, which has to lie in the memory of the device. -/
def readBlock? (b : Block) : OptionT (Op σ δ) Bytes := do
  sure (if InMemory b then some () else none)
  let answer ← Packet.ask? settle (readCommand b) rangeParameters b.size
  let data ← sure (part? answer 6 (6 + b.size))
  let _ ← sure (add? b.address b.size)
  return data

theorem passes_readVersion : Passes (readVersion? : OptionT (Op σ δ) Bytes) readVersion := by
  apply (Packet.passes_ask settle versionCommand 0 versionSize).bind
  rintro answer ⟨s, t, hrun⟩
  obtain ⟨-, hlength, -⟩ := Packet.run_ask_eq_ok.1 hrun
  have hbytes : 3 + versionSize ≤ answer.length := by
    rw [hlength]
    decide
  rw [part?_eq (Nat.le_add_right _ _) hbytes]
  exact .pure _

/-- No guard stops the reading of a block of memory. -/
theorem passes_readBlock {b : Block} (hb : InMemory b) :
    Passes (readBlock? b : OptionT (Op σ δ) Bytes) (readBlock b) := by
  apply Passes.sure (if_pos hb)
  apply (Packet.passes_ask settle (readCommand b) rangeParameters b.size).bind
  rintro answer ⟨s, t, hrun⟩
  obtain ⟨-, hlength, -⟩ := Packet.run_ask_eq_ok.1 hrun
  have hbytes : 6 + b.size ≤ answer.length := by
    rw [hlength]
    unfold Packet.overhead rangeParameters
    omega
  have hsum : b.address + b.size < 4294967296 := Nat.lt_of_le_of_lt hb.2.2 (by decide)
  apply Passes.sure (part?_eq (Nat.le_add_right _ _) hbytes)
  rw [Nat.add_sub_cancel_left]
  apply Passes.sure (add?_eq hsum)
  exact .pure _

/-- A block that was read has all of its bytes. -/
theorem length_of_readBlock {b : Block} {data : Bytes} {s t : Session σ δ}
    (h : run (readBlock b) s = (.ok data, t)) : data.length = b.size := by
  obtain ⟨es, -, hobtained⟩ := obtained_of_run h
  exact hobtained.length

theorem length_of_readVersion {version : Bytes} {s t : Session σ δ}
    (h : run readVersion s = (.ok version, t)) : version.length = versionSize := by
  obtain ⟨answer, u, hask, hret⟩ := run_bind_eq_ok.1 h
  obtain ⟨-, hlength, -⟩ := Packet.run_ask_eq_ok.1 hask
  cases hret
  rw [Packet.data, Bytes.length_slice, hlength]
  decide

/-! ### The ring -/

/-- Pulls those bytes of the ring that are still missing in front of `offset` into the bytes `data`,
backwards from the `address` behind them, with `turns` turns left. -/
def pull? : (turns address offset : Nat) → Bytes → Progress → OptionT (Op σ δ) Bytes
  | 0, _, offset, data, _ => sure (if offset = 0 then some data else none)
  | turns + 1, address, offset, data, progress =>
    if offset = 0 then return data
    else do
      let top := if address = ringStart then ringEnd else address
      let size := min (min offset blockSize) (← sure (sub? top ringStart))
      let address ← sure (sub? top size)
      let offset ← sure (sub? offset size)
      let room ← sure (part? data offset (offset + size))
      let bytes ← readBlock? ⟨address, room.length⟩
      let data ← sure (put? data offset bytes)
      let progress ← sure (progress.advance? size)
      OptionT.lift (emit (.progress progress))
      pull? turns address offset data progress

/-- A block in the ring is one of the memory. -/
theorem inMemory_of_holds {b : Block} (h : RingAddress.Holds blockSize b) : InMemory b := by
  obtain ⟨-, hend, hpos, hsize⟩ := h
  exact ⟨hpos, hsize, Nat.le_trans hend (by decide)⟩

/-- The `n` bytes of the ring in front of `a`, and those of `data` behind them. -/
def pull (a : RingAddress) (n : Nat) (data : Bytes) (progress : Progress) : Op σ δ Bytes := do
  let chunks ← readAll (some progress) (a.blocksBefore blockSize n)
  return chunks.reverse.flatten ++ data.drop n

section Pull

variable {a c : RingAddress} {n size : Nat} {data : Bytes} {progress : Progress}

/-- Where no byte is missing nothing is read. -/
theorem run_pull_zero (s : Session σ δ) : run (pull a 0 data progress) s = (.ok data, s) := by
  rw [pull, RingAddress.blocksBefore, dif_pos (Or.inr rfl)]
  rfl

/-- The block in front of `a` is read, and then those in front of it are. -/
theorem run_pull_succ (hn : n ≤ data.length) (hblocks : a.blocksBefore blockSize n =
    ⟨c.val, size⟩ :: c.blocksBefore blockSize (n - size)) (s : Session σ δ) :
    run (pull a n data progress) s =
      run (do
        let bytes ← readBlock ⟨c.val, size⟩
        emit (.progress (progress.advance size))
        pull c (n - size) (data.take (n - size) ++ (bytes ++ data.drop n))
          (progress.advance size)) s := by
  have hfront : (data.take (n - size)).length = n - size := by
    rw [List.length_take]
    omega
  simp only [pull]
  rw [hblocks, run_bind, run_readAll_cons, ← run_bind]
  simp only [bind_assoc, pure_bind, List.reverse_cons, List.flatten_append, List.flatten_cons,
    List.flatten_nil, List.append_nil, List.append_assoc, List.drop_left' hfront]
  rfl

/-- The block that a turn pulls: it lies in memory, and none of the subtractions that give its
bounds goes below zero. -/
theorem exists_pulled (a : RingAddress) (hn : n ≠ 0) :
    ∃ (c : RingAddress) (size : Nat), size = min n (min blockSize (a.top - ringStart)) ∧ size ≤ n ∧
      InMemory ⟨c.val, size⟩ ∧ sub? a.top size = some c.val ∧
        a.blocksBefore blockSize n = ⟨c.val, size⟩ :: c.blocksBefore blockSize (n - size) := by
  have hm : blockSize ≠ 0 := by decide
  obtain ⟨c, size, hsize, hc, hblocks⟩ := RingAddress.blocksBefore_top a hm hn
  obtain ⟨hlow, -⟩ := a.top_bounds
  have hblock : InMemory ⟨c.val, size⟩ := by
    apply inMemory_of_holds
    apply RingAddress.holds_blocksBefore hm n a
    rw [hblocks]
    exact List.mem_cons_self
  exact ⟨c, size, hsize, by omega, hblock, by rw [sub?_eq (by omega), hc], hblocks⟩

/-- **No guard stops the loop**, which pulls at least one byte in each turn: so many turns as bytes
are missing are enough.  Nor does the count of the bytes leave its word, as long as those that are
missing are still to be counted. -/
theorem passes_pull : ∀ (turns n : Nat) (a : RingAddress) (data : Bytes) (progress : Progress),
    n ≤ turns → n ≤ data.length → progress.current.toNat + n ≤ progress.maximum.toNat →
      Passes (pull? turns a.val n data progress : OptionT (Op σ δ) Bytes)
        (pull a n data progress) := by
  intro turns
  induction turns with
  | zero =>
    intro n a data progress hturns _ _
    obtain rfl := Nat.le_zero.1 hturns
    exact (Passes.pure data).congr run_pull_zero
  | succ turns ih =>
    intro n a data progress hturns hroom hcount
    rw [pull?]
    by_cases hn : n = 0
    · subst hn
      exact (Passes.pure data).congr run_pull_zero
    rw [if_neg hn]
    obtain ⟨c, size, hsize, hle, hblock, haddress, hblocks⟩ := exists_pulled a hn
    have hpos : 0 < size := hblock.1
    have hpart := part?_eq (Nat.le_add_right (n - size) size)
      (show n - size + size ≤ data.length by omega)
    have hwidth : (Bytes.slice data (n - size) size).length = size := by
      rw [Bytes.length_slice]
      omega
    rw [Nat.add_sub_cancel_left] at hpart
    apply Passes.sure (sub?_eq (Nat.le_of_lt a.top_bounds.1))
    rw [show (if a.val = ringStart then ringEnd else a.val) = a.top from rfl, Nat.min_assoc,
      ← hsize]
    apply Passes.sure haddress
    apply Passes.sure (sub?_eq hle)
    apply Passes.sure hpart
    rw [hwidth]
    refine Passes.congr ?_ (run_pull_succ hroom hblocks)
    apply (passes_readBlock hblock).bind
    rintro bytes ⟨s, t, hrun⟩
    -- as many bytes arrive as there is room for
    have hend : n - size + bytes.length = n := by
      rw [length_of_readBlock hrun]
      exact Nat.sub_add_cancel (by omega)
    have hput := put?_eq (show n - size + bytes.length ≤ data.length by omega)
    rw [hend, List.append_assoc] at hput
    apply Passes.sure hput
    have hmore : progress.current.toNat + size ≤ progress.maximum.toNat := by omega
    apply Passes.sure (Progress.advance?_eq hmore)
    apply Passes.behind
    intro _
    apply ih
    · omega
    · simp only [List.length_append, List.length_take, List.length_drop]
      omega
    · rw [Progress.toNat_advance hmore, Progress.advance_maximum]
      omega

end Pull

/-- Reads the `used` bytes of a ring in front of `stop`, into a buffer that is as long. -/
def readRing? (stop used : Nat) : OptionT (Op σ δ) Bytes := do
  let total ← sure (add? RingHeader.length used)
  let progress ← sure ((Progress.start (UInt32.ofNat total)).advance? RingHeader.length)
  OptionT.lift (emit (.progress progress))
  pull? used stop used (List.replicate used 0) progress

/-- No guard stops the reading of a ring. -/
theorem passes_readRing (h : RingHeader) :
    Passes (readRing? h.stop.val h.used : OptionT (Op σ δ) Bytes) (readRing h) := by
  have hroom : h.used ≤ (List.replicate h.used (0 : UInt8)).length := by simp
  have hnone : (List.replicate h.used (0 : UInt8)).drop h.used = [] := by simp
  obtain ⟨hmaximum, hcurrent⟩ := header_progress h
  unfold readRing? readRing
  apply Passes.sure (add?_eq (total_lt h))
  apply Passes.sure (Progress.advance?_eq (header_within h))
  apply Passes.behind
  intro _
  -- the header is counted already, and the bytes in use are still to come
  have hcount := Nat.le_of_eq ((congrArg (· + h.used) hcurrent).trans hmaximum.symm)
  apply (passes_pull h.used h.used h.stop _ _ (Nat.le_refl _) hroom hcount).congr
  intro s
  rw [pull, hnone]
  simp only [List.append_nil]

theorem length_of_readRing {h : RingHeader} {data : Bytes} {s t : Session σ δ}
    (hrun : run (readRing h) s = (.ok data, t)) : data.length = h.used := by
  obtain ⟨es, -, hdelivered⟩ := delivered_of_readRing hrun
  rw [← hdelivered.length_eq, length_usedAddresses]

/-! ### The dives -/

/-- `foreach` with a guard in front of each step. -/
def foreach? (keep : List Dive → Bool) : OptionT (Op σ Vyper2) (List Dive) := do
  let version ← readVersion?
  let serial ← readBlock? serialBlock
  let model ← sure version[0]?
  let firmware ← sure ((part? version 1 version.length).bind Bytes.be24?)
  OptionT.lift (emit (.devInfo ⟨model.toNat, firmware, (Bytes.decimalPairs serial).toNat⟩))
  let raw ← readBlock? headerBlock
  match ← sure (parse? raw) with
  | .error f => OptionT.lift (reject f)
  | .ok header =>
    let used ← sure (distance? header.start header.stop (header.count ≠ 0))
    let data ← readRing? header.stop used
    let offset := fingerprintOffset version
    let s ← OptionT.lift get
    -- each turn but the last takes as many bytes as a fingerprint and those in front of it
    let walk ← sure (walk? offset (isKnown s.device.fingerprint) keep data
      (used / (offset + ringFingerprintSize) + 1) header.last header.stop used [])
    OptionT.lift (report walk)

/-- **No guard stops the whole**, whatever the link delivers and the caller decides. -/
theorem passes_foreach (keep : List Dive → Bool) :
    Passes (foreach? keep : OptionT (Op σ Vyper2) (List Dive)) (foreach keep) := by
  unfold foreach? foreach
  apply passes_readVersion.bind
  rintro version ⟨s, t, hversion⟩
  have hlength : version.length = 4 := length_of_readVersion hversion
  obtain ⟨model, rest, rfl⟩ := List.exists_cons_of_length_pos (show 0 < version.length by omega)
  have hfirmware : (part? (model :: rest) 1 (model :: rest).length).bind Bytes.be24? =
      some (Bytes.be24 ((model :: rest).drop 1)) := by
    rw [List.length_cons] at hlength
    rw [part?_drop (by simp), Option.bind_some, be24?_eq (by simp; omega)]
  apply (passes_readBlock (show InMemory serialBlock by decide)).bind
  rintro serial -
  apply Passes.sure (show (model :: rest)[0]? = some model from rfl)
  apply Passes.sure hfirmware
  apply Passes.behind
  intro _
  apply (passes_readBlock (show InMemory headerBlock by decide)).bind
  rintro raw ⟨s', t', hraw⟩
  apply Passes.sure (parse?_eq (length_of_readBlock hraw))
  cases RingHeader.parse raw with
  | error f => exact Passes.lift _
  | ok header =>
    apply Passes.sure (distance?_eq header.start header.stop (header.count ≠ 0))
    apply (passes_readRing header).bind
    rintro data ⟨s'', t'', hdata⟩
    have hused := length_of_readRing hdata
    apply Passes.behind
    intro u
    -- the walk goes through all bytes in use, and has enough turns for them
    obtain ⟨offset, hoffset⟩ : ∃ n, n = fingerprintOffset (model :: rest) := ⟨_, rfl⟩
    rw [← hoffset]
    have hturns : header.used <
        (header.used / (offset + ringFingerprintSize) + 1) * (offset + ringFingerprintSize) := by
      rw [Nat.succ_mul]
      exact Nat.lt_div_mul_add (Nat.lt_of_lt_of_le (by decide) (Nat.le_add_left _ offset))
    have hwalk := walk?_eq (isKnown u.device.fingerprint) keep _ _ header.last header.stop []
      (Nat.le_of_eq hused.symm) hturns
    rw [List.take_of_length_le (Nat.le_of_eq hused)] at hwalk
    apply Passes.sure hwalk
    exact Passes.lift _

/-! ### The calls -/

/-- A call that asks for the version block or for a block of memory, if it asks for something. -/
def Within : Call → Prop
  | .write command => command = versionCommand ∨ ∃ b, command = readCommand b ∧ InMemory b
  | _ => True

/-- At most `n` calls, none of which asks for memory that the device does not have. -/
structure Modest (n : Nat) (cs : Transcript) : Prop where
  few : cs.length ≤ n
  within : ∀ x ∈ cs, Within x.1

theorem modest_nil (n : Nat) : Modest n [] := ⟨Nat.zero_le n, by simp⟩

theorem Modest.mono {m n : Nat} {cs : Transcript} (h : Modest m cs) (hle : m ≤ n) : Modest n cs :=
  ⟨Nat.le_trans h.few hle, h.within⟩

theorem Modest.append {m n : Nat} {cs cs' : Transcript} (h : Modest m cs) (h' : Modest n cs') :
    Modest (m + n) (cs ++ cs') where
  few := by
    rw [List.length_append]
    exact Nat.add_le_add h.few h'.few
  within x hx := (List.mem_append.1 hx).elim (h.within x) (h'.within x)

section

variable {α β : Type} {m n : Nat} {x : Op σ δ α}

omit [Link σ]

theorem modest_mono (hx : Makes (Modest m) x) (hle : m ≤ n) : Makes (Modest n) x :=
  hx.imp fun _ h => h.mono hle

/-- Programs one behind the other make at most the calls that both may make. -/
theorem modest_bind {f : α → Op σ δ β} (hx : Makes (Modest m) x)
    (hf : ∀ a, Makes (Modest n) (f a)) : Makes (Modest (m + n)) (x >>= f) :=
  hx.seq hf (fun _ h => h.mono (Nat.le_add_right m n)) fun _ _ h h' => h.append h'

end

/-- An exchange makes at most five calls, of which one asks for something. -/
theorem modest_ask {command : Bytes} (h : Within (.write command)) (parameters size : Nat) :
    Makes (Modest 5) (Packet.ask settle command parameters size : Op σ δ Bytes) := by
  apply (Packet.makes_ask settle command parameters size).imp
  intro cs hcs
  cases hcs with
  | cancelled => exact modest_nil 5
  | unraised _ => exact ⟨by simp, by simp [Within]⟩
  | unsent _ _ => exact ⟨by simp, by simpa [Within] using h⟩
  | unlowered _ _ => exact ⟨by simp, by simpa [Within] using h⟩
  | lowered _ _ => exact ⟨by simp, by simpa [Within] using h⟩

theorem modest_readVersion : Makes (Modest 5) (readVersion : Op σ δ Bytes) :=
  modest_bind (modest_ask (.inl rfl) 0 versionSize) fun _ => .pure (modest_nil 0) _

theorem modest_readBlock {b : Block} (hb : InMemory b) :
    Makes (Modest 5) (readBlock b : Op σ δ Bytes) :=
  modest_bind (modest_ask (.inr ⟨b, rfl, hb⟩) rangeParameters b.size) fun _ =>
    .pure (modest_nil 0) _

/-- Each block takes one exchange. -/
theorem modest_readAll : ∀ (bs : List Block) (progress : Option Progress),
    (∀ b ∈ bs, InMemory b) →
      Makes (Modest (bs.length * 5)) (readAll progress bs : Op σ δ (List Bytes)) := by
  intro bs
  induction bs with
  | nil => exact fun _ _ => .pure (modest_nil _) _
  | cons b bs ih =>
    intro progress hbs
    have htell : Makes (Modest 0) (tell (progress.map (·.advance b.size)) : Op σ δ Unit) := by
      cases progress with
      | none => exact .pure (modest_nil 0) _
      | some p => exact .emit (modest_nil 0) _
    have hrest := ih (progress.map (·.advance b.size)) fun c hc =>
      hbs c (List.mem_cons_of_mem b hc)
    have hall := modest_bind (modest_readBlock (hbs b List.mem_cons_self)) fun data =>
      modest_bind htell fun _ => modest_bind hrest fun rest =>
        .pure (modest_nil 0) (data :: rest)
    refine .congr (modest_mono hall ?_) (run_readAll_cons progress b bs)
    rw [List.length_cons, Nat.succ_mul]
    omega

omit [Link σ] in
/-- A ring of `n` bytes is read in at most `n` blocks. -/
theorem length_blocksBefore_le : ∀ (n : Nat) (a : RingAddress),
    (a.blocksBefore blockSize n).length ≤ n := by
  have hm : blockSize ≠ 0 := by decide
  intro n
  induction n using Nat.strongRecOn with
  | _ n ih =>
    intro a
    by_cases hn : n = 0
    · rw [RingAddress.blocksBefore, dif_pos (Or.inr hn)]
      exact Nat.zero_le n
    · obtain ⟨c, size, hle, ⟨-, -, hpos, -⟩, -, heq⟩ := RingAddress.blocksBefore_cons a hm hn
      replace hpos : 0 < size := hpos
      have hrest := ih (n - size) (by omega) c
      rw [heq, List.length_cons]
      omega

theorem modest_readRing (h : RingHeader) :
    Makes (Modest (ringSize * 5)) (readRing h : Op σ δ Bytes) := by
  have hblocks : ∀ b ∈ h.stop.blocksBefore blockSize h.used, InMemory b := fun b hb =>
    inMemory_of_holds (RingAddress.holds_blocksBefore (by decide) h.used h.stop b hb)
  have hcount := Nat.le_trans (length_blocksBefore_le h.used h.stop) h.used_le
  have hcalls := Nat.mul_le_mul_right 5 hcount
  unfold readRing
  refine modest_mono (modest_bind (.emit (modest_nil 0) _) fun _ =>
    modest_bind (modest_readAll _ _ hblocks) fun _ => .pure (modest_nil 0) _) ?_
  omega

/-- **Three exchanges and one for each byte of the ring are more than enough**, and none asks for
memory that the device does not have. -/
theorem modest_foreach (keep : List Dive → Bool) :
    Makes (Modest ((3 + ringSize) * 5)) (foreach keep : Op σ Vyper2 (List Dive)) := by
  have hserial : InMemory serialBlock := by decide
  have hheader : InMemory headerBlock := by decide
  unfold foreach
  refine modest_mono (m := 5 + (5 + (0 + (5 + ringSize * 5)))) (modest_bind modest_readVersion
    fun version => modest_bind (modest_readBlock hserial) fun serial =>
      modest_bind (.emit (modest_nil 0) _) fun _ =>
        modest_bind (modest_readBlock hheader) fun raw => ?_) (by omega)
  cases RingHeader.parse raw with
  | error f => exact .reject (modest_nil _) f
  | ok header =>
    exact modest_bind (n := 0) (modest_readRing header) fun data =>
      modest_bind (n := 0) (.get (modest_nil 0)) fun s => .report (modest_nil 0) _

/-! ### The dives handed out -/

/-- **Each dive handed out takes its part of the bytes in use**: as many as its fingerprint and
those in front of it, from the end on and one in front of the other. -/
theorem consumed_foreach (keep : List Dive → Bool) (s : Session σ Vyper2) :
    ∃ ds, (run (foreach keep) s).2.handed = s.handed ++ ds ∧
      (ds = [] ∨ ∃ version h data t, run download s = (.ok (version, h, data), t) ∧
        data.length = h.used ∧ RingHeader.joined ds <:+ data ∧
        ∀ d ∈ ds, fingerprintOffset version + ringFingerprintSize ≤ d.bytes.length) := by
  have hhanded := (handed_download s).1
  rw [run_foreach]
  rcases hrun : run download s with ⟨e | ⟨version, h, data⟩, t⟩ <;> rw [hrun] at hhanded
  · exact ⟨[], by rw [List.append_nil]; exact hhanded, .inl rfl⟩
  · obtain ⟨es, -, hdownloaded⟩ := downloaded_of_run hrun
    obtain ⟨hlong, hsuffix⟩ := (RingHeader.trusted_walk h (fingerprintOffset version)
      hdownloaded.length).consumes (isKnown t.device.fingerprint) keep
    refine ⟨_, ?_, .inr ⟨version, h, data, t, rfl, hdownloaded.length, hsuffix, hlong⟩⟩
    rw [handed_report]
    exact congrArg (· ++ _) hhanded

/-- **`foreach` is safe on any content of the device.**  No guard stops it, its calls are few and
ask for memory of the device, and each dive handed out takes its part of the bytes in use. -/
theorem foreach_safe (keep : List Dive → Bool) :
    Passes (foreach? keep : OptionT (Op σ Vyper2) (List Dive)) (foreach keep) ∧
    ∀ s : Session σ Vyper2,
      (∃ cs, (run (foreach keep) s).2.calls = s.calls ++ cs ∧ cs.length ≤ (3 + ringSize) * 5 ∧
        ∀ command sent, (.write command, sent) ∈ cs → command = versionCommand ∨
          ∃ b, command = readCommand b ∧ 0 < b.size ∧ b.size ≤ blockSize ∧
            b.address + b.size ≤ memorySize) ∧
      ∃ ds, (run (foreach keep) s).2.handed = s.handed ++ ds ∧
        (ds = [] ∨ ∃ version h data t, run download s = (.ok (version, h, data), t) ∧
          data.length = h.used ∧ RingHeader.joined ds <:+ data ∧
          ∀ d ∈ ds, fingerprintOffset version + ringFingerprintSize ≤ d.bytes.length) := by
  refine ⟨passes_foreach keep, fun s => ⟨?_, consumed_foreach keep s⟩⟩
  obtain ⟨cs, hmade, hfew, hwithin⟩ := modest_foreach keep s
  exact ⟨cs, hmade.calls, hfew, fun command sent hmem => hwithin _ hmem⟩

end Vyper2
end DiveLink
