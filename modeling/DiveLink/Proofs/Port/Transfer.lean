import DiveLink.Port.SerialLine
import Mathlib.Data.List.Basic

/-!
# Transfers piece by piece

A port moves the bytes of a transfer in pieces of its own choice, interrupts calls, and may fall
silent or fail.  A transfer asks again and again for precisely what is left, so that no byte is lost
or moved twice, and it tells by its result how it came to its end.

## Main definitions

* `PortReply.Fits`, `Honest` — what a port may reply at all.
* `PortEntry.incoming`, `PortEntry.outgoing` — the bytes that a call brought in or out.
* `Ports.Transfers` — a transfer call by call.
* `Faithful` — the calls of a transfer and what came of them.

## Main results

* `Ports.transfers` — how a transfer goes on, call by call.
* `Ports.Transfers.faithful` — **a transfer asks for precisely what is left, and its result tells
  how it ended.**
* `Faithful.incoming_read`, `Faithful.outgoing_write` — what came in was read, and what was written
  went out.
-/

namespace DiveLink

/-! ### Ports that keep the contract -/

/-- The reply to a call for bytes moves no more of them than the call asks for. -/
def PortReply.Fits (r : PortReply) : PortCall → Prop
  | .read n => r.received.length ≤ n
  | .write data => r.accepted ≤ data.length
  | _ => True

/-- Each reply of a port moves no more bytes than it was asked for. -/
def Honest (η : Type) [SerialHost η] (port : String) : Prop :=
  ∀ (c : PortCall) (h : η), (SerialHost.call port c h).1.Fits c

namespace PortCall

variable {c : PortCall}

@[simp] theorem behind_zero (c : PortCall) : c.behind 0 = c := by
  cases c <;> simp [behind]

theorem behind_behind (k l : Nat) (c : PortCall) : (c.behind k).behind l = c.behind (k + l) := by
  cases c <;> simp [behind, Nat.sub_sub]

end PortCall

/-- The port moved no byte at a call, or reported that it took too long. -/
def PortReply.Silent (r : PortReply) (c : PortCall) : Prop :=
  match r.failure with
  | none => c.moved r = []
  | some e => e.toIoError.kind = .timedOut

theorem PortError.hard?_eq_some {f : PortError} {e : IoError} :
    f.hard? = some e ↔ f.toIoError = e ∧ e.kind ≠ .timedOut := by
  unfold PortError.hard?
  split
  · next h => exact ⟨fun h' => absurd h' (by simp), by rintro ⟨rfl, h'⟩; exact absurd h h'⟩
  · next h => exact ⟨fun h' => by cases h'; exact ⟨rfl, h⟩, fun h' => congrArg some h'.1⟩

theorem PortReply.failure_of_interrupted {r : PortReply} (h : r.interrupted = true) :
    ∃ e, r.failure = some e ∧ e.toIoError.kind = .interrupted := by
  rw [interrupted, Option.any_eq_true] at h
  obtain ⟨e, he, hkind⟩ := h
  exact ⟨e, he, eq_of_beq hkind⟩

theorem PortReply.not_interrupted {r : PortReply} (h : r.failure = none) :
    r.interrupted = false := by
  rw [interrupted, h]
  rfl

/-! ### The streams of a port -/

namespace PortEntry

/-- The bytes that a call has moved. -/
def moved : PortEntry → Bytes
  | call _ c r => if r.failure = none then c.moved r else []
  | _ => []

theorem moved_call (port : String) (c : PortCall) (r : PortReply) :
    (call port c r).moved = if r.failure = none then c.moved r else [] := rfl

/-- The bytes that a read has brought in. -/
def incoming : PortEntry → Bytes
  | call _ (.read _) r => if r.failure = none then r.received else []
  | _ => []

/-- The bytes that a write has brought out. -/
def outgoing : PortEntry → Bytes
  | call _ (.write data) r => if r.failure = none then data.take r.accepted else []
  | _ => []

/-- A read within the contract brings in what it has moved. -/
theorem incoming_read {port : String} {n : Nat} {r : PortReply} (h : r.Fits (.read n)) :
    (call port (.read n) r).incoming = (call port (.read n) r).moved := by
  have htake : r.received.take n = r.received := List.take_of_length_le h
  simp only [incoming, moved, PortCall.moved, htake]

end PortEntry

namespace Ports

variable {η : Type}

/-- All bytes that came in so far. -/
def incoming (p : Ports η) : Bytes := p.journal.reverse.flatMap PortEntry.incoming

/-- All bytes that went out so far. -/
def outgoing (p : Ports η) : Bytes := p.journal.reverse.flatMap PortEntry.outgoing

variable {p q : Ports η} {es : List PortEntry}

theorem incoming_append (h : q.journal = es.reverse ++ p.journal) :
    q.incoming = p.incoming ++ es.flatMap PortEntry.incoming := by
  rw [incoming, incoming, h, List.reverse_append, List.reverse_reverse, List.flatMap_append]

theorem outgoing_append (h : q.journal = es.reverse ++ p.journal) :
    q.outgoing = p.outgoing ++ es.flatMap PortEntry.outgoing := by
  rw [outgoing, outgoing, h, List.reverse_append, List.reverse_reverse, List.flatMap_append]

theorem outgoing_call [SerialHost η] (port : String) (c : PortCall) (p : Ports η) :
    (p.call port c).2.outgoing =
      p.outgoing ++ [PortEntry.call port c (p.call port c).1].flatMap PortEntry.outgoing :=
  outgoing_append rfl

/-! ### Transfers call by call -/

variable [SerialHost η]

/-- A transfer call by call: from the ports `p` it leads to the ports `q` when the bytes `b` have
moved, with the failure `e` if there is one. -/
inductive Transfers (port : String) :
    PortCall → Ports η → Bytes → Option IoError → Ports η → Prop
  | complete {c p} (hc : c.size = 0) : Transfers port c p [] none p
  | again {c p b e q} (hc : 0 < c.size) (hagain : (p.call port c).1.interrupted = true)
      (rest : Transfers port c (p.call port c).2 b e q) : Transfers port c p b e q
  | piece {c p b e q} (hc : 0 < c.size) (hfailure : (p.call port c).1.failure = none)
      (hmoved : c.moved (p.call port c).1 ≠ [])
      (rest : Transfers port (c.behind (c.moved (p.call port c).1).length) (p.call port c).2 b e
        q) : Transfers port c p (c.moved (p.call port c).1 ++ b) e q
  | silent {c p} (hc : 0 < c.size) (hfailure : (p.call port c).1.failure = none)
      (hmoved : c.moved (p.call port c).1 = []) : Transfers port c p [] none (p.call port c).2
  | failed {c p f} (hc : 0 < c.size) (hfailure : (p.call port c).1.failure = some f)
      (hlast : (p.call port c).1.interrupted = false) :
      Transfers port c p [] f.hard? (p.call port c).2

variable {port : String} {c : PortCall} {b : Bytes} {e : Option IoError}

/-- A transfer that is interrupted begins again. -/
theorem transfer_again (hc : 0 < c.size) (h : (p.call port c).1.interrupted = true) :
    p.transfer port c = (p.call port c).2.transfer port c := by
  have hne : c.size ≠ 0 := Nat.ne_of_gt hc
  rw [transfer, transfer, if_neg hne, if_neg hne, insist, if_pos ⟨hc, h⟩]

/-- A call that is not interrupted is made once. -/
theorem insist_once (h : (p.call port c).1.interrupted = false) :
    p.insist port c = p.call port c := by
  have hlast : ¬ (0 < c.size ∧ (p.call port c).1.interrupted = true) := fun h' =>
    absurd (h.symm.trans h'.2) (by decide)
  rw [insist, if_neg hlast]

/-- A transfer whose first call fails ends there. -/
theorem transfer_failed {f : PortError} (hc : 0 < c.size)
    (hfailure : (p.call port c).1.failure = some f)
    (hlast : (p.call port c).1.interrupted = false) :
    p.transfer port c = (([], f.hard?), (p.call port c).2) := by
  rw [transfer, if_neg (Nat.ne_of_gt hc), insist_once hlast]
  rcases hcall : p.call port c with ⟨reply, q⟩
  rw [hcall] at hfailure
  change reply.failure = some f at hfailure
  simp only [hfailure]

/-- A transfer whose first call moves nothing ends there. -/
theorem transfer_silent (hc : 0 < c.size) (hfailure : (p.call port c).1.failure = none)
    (hmoved : c.moved (p.call port c).1 = []) :
    p.transfer port c = (([], none), (p.call port c).2) := by
  rw [transfer, if_neg (Nat.ne_of_gt hc), insist_once (PortReply.not_interrupted hfailure)]
  rcases hcall : p.call port c with ⟨reply, q⟩
  rw [hcall] at hfailure hmoved
  change reply.failure = none at hfailure
  simp only [hfailure, hmoved, List.length_nil, if_true]

/-- A transfer whose first call moves a piece goes on with what is left. -/
theorem transfer_piece (hc : 0 < c.size) (hfailure : (p.call port c).1.failure = none)
    (hmoved : c.moved (p.call port c).1 ≠ []) :
    p.transfer port c =
      let piece := c.moved (p.call port c).1
      let rest := (p.call port c).2.transfer port (c.behind piece.length)
      ((piece ++ rest.1.1, rest.1.2), rest.2) := by
  rw [transfer, if_neg (Nat.ne_of_gt hc), insist_once (PortReply.not_interrupted hfailure)]
  rcases hcall : p.call port c with ⟨reply, q⟩
  rw [hcall] at hfailure hmoved
  change reply.failure = none at hfailure
  have hpos := List.length_pos_iff.2 hmoved
  simp only [hfailure, Nat.ne_of_gt hpos, if_false]

/-- **How a transfer goes on, call by call.** -/
theorem transfers (port : String) (c : PortCall) (p : Ports η) :
    Transfers port c p (p.transfer port c).1.1 (p.transfer port c).1.2 (p.transfer port c).2 := by
  -- the bytes left count first, and the interruptions in store second
  obtain ⟨n, hn⟩ : ∃ n, n = c.size := ⟨_, rfl⟩
  obtain ⟨k, hk⟩ : ∃ k, k = SerialHost.restless port c p.host := ⟨_, rfl⟩
  induction n using Nat.strongRecOn generalizing c p k with
  | _ n ihsize =>
    induction k using Nat.strongRecOn generalizing p with
    | _ k ihrestless =>
      by_cases hzero : c.size = 0
      · rw [transfer, if_pos hzero]
        exact .complete hzero
      have hc := Nat.pos_of_ne_zero hzero
      cases hinterrupted : (p.call port c).1.interrupted with
      | true =>
        rw [transfer_again hc hinterrupted]
        exact .again hc hinterrupted
          (ihrestless _ (hk ▸ SerialHost.restless_call hc hinterrupted) _ rfl)
      | false =>
        cases hfailure : (p.call port c).1.failure with
        | some f =>
          rw [transfer_failed hc hfailure hinterrupted]
          exact .failed hc hfailure hinterrupted
        | none =>
          by_cases hmoved : c.moved (p.call port c).1 = []
          · rw [transfer_silent hc hfailure hmoved]
            exact .silent hc hfailure hmoved
          · rw [transfer_piece hc hfailure hmoved]
            refine .piece hc hfailure hmoved (ihsize _ ?_ _ _ rfl _ rfl)
            have hpos := List.length_pos_iff.2 hmoved
            rw [PortCall.size_behind]
            omega

end Ports

/-! ### What a transfer asks for -/

/-- The entries `es` are those of a transfer on a port that moved the bytes `b` and ended with the
failure `e`, if there was one. -/
structure Faithful (port : String) (c : PortCall) (es : List PortEntry) (b : Bytes)
    (e : Option IoError) : Prop where
  /-- The pieces make up the bytes. -/
  moved : es.flatMap PortEntry.moved = b
  length_le : b.length ≤ c.size
  /-- Each call asks for precisely what is left. -/
  asked : ∀ before x behind, es = before ++ x :: behind →
    ∃ r, x = .call port (c.behind (before.flatMap PortEntry.moved).length) r
  /-- It ends before all bytes have moved only if the port is silent. -/
  short : e = none → b.length < c.size →
    ∃ r, es.getLast? = some (.call port (c.behind b.length) r) ∧ r.Silent (c.behind b.length)
  /-- A failure is that of the last call, as it is, and no interruption or silence. -/
  failed : ∀ cause, e = some cause → cause.kind ≠ .interrupted ∧ cause.kind ≠ .timedOut ∧
    ∃ r f, es.getLast? = some (.call port (c.behind b.length) r) ∧ r.failure = some f ∧
      f.toIoError = cause
  /-- Whatever fails otherwise than by an interruption or a silence ends the transfer. -/
  ends : ∀ c' r f, .call port c' r ∈ es → r.failure = some f →
    f.toIoError.kind ≠ .interrupted → f.toIoError.kind ≠ .timedOut → e = some f.toIoError

namespace Faithful

variable {port : String} {c : PortCall} {r : PortReply} {es : List PortEntry} {b : Bytes}
  {e : Option IoError}

theorem complete (hc : c.size = 0) : Faithful port c [] [] none where
  moved := rfl
  length_le := Nat.zero_le _
  asked := fun before x behind h => absurd h (by simp)
  short := fun _ h => absurd h (by simp [hc])
  failed := fun _ h => absurd h (by simp)
  ends := fun _ _ _ h => absurd h (by simp)

/-- A call behind which the transfer goes on, and the transfer of what is left. -/
theorem cons (port : String) (c : PortCall) (hr : r.failure = none ∨ r.interrupted = true)
    (hle : (PortEntry.call port c r).moved.length ≤ c.size)
    (h : Faithful port (c.behind (PortEntry.call port c r).moved.length) es b e) :
    Faithful port c (.call port c r :: es) ((PortEntry.call port c r).moved ++ b) e := by
  -- the first call moves bytes, and what is asked for behind it counts from there
  have hlast : ∀ {x : PortEntry}, es.getLast? = some x →
      (PortEntry.call port c r :: es).getLast? = some x := fun hx => by
    rw [List.getLast?_cons, hx, Option.getD_some]
  have hbehind : c.behind ((PortEntry.call port c r).moved ++ b).length =
      (c.behind (PortEntry.call port c r).moved.length).behind b.length := by
    rw [PortCall.behind_behind, List.length_append]
  have hlength := h.length_le
  rw [PortCall.size_behind] at hlength
  constructor
  case moved => rw [List.flatMap_cons, h.moved]
  case length_le => rw [List.length_append]; omega
  case asked =>
    rintro (_ | ⟨y, before⟩) x behind hes
    · -- the first entry asks for all, a later one for what the transfer of the rest asks for
      obtain ⟨rfl, -⟩ := List.cons.inj hes
      exact ⟨r, by rw [List.flatMap_nil, List.length_nil, PortCall.behind_zero]⟩
    · obtain ⟨rfl, hrest⟩ := List.cons.inj hes
      rw [List.flatMap_cons, List.length_append, ← PortCall.behind_behind]
      exact h.asked before x behind hrest
  case short =>
    intro he hshort
    rw [List.length_append] at hshort
    obtain ⟨r', hr', hsilent⟩ := h.short he (by rw [PortCall.size_behind]; omega)
    rw [hbehind]
    exact ⟨r', hlast hr', hsilent⟩
  case failed =>
    intro cause he
    obtain ⟨hinterrupted, htimedOut, r', f, hr', hf⟩ := h.failed cause he
    rw [hbehind]
    exact ⟨hinterrupted, htimedOut, r', f, hlast hr', hf⟩
  case ends =>
    intro c' r' f hmem hf hkind
    -- the first call does not end the transfer: its failure, if any, is an interruption
    rcases List.mem_cons.1 hmem with heq | hmem
    · cases heq
      rcases hr with hr | hr
      · exact absurd (hr.symm.trans hf) (by simp)
      · obtain ⟨f', hf', hkind'⟩ := PortReply.failure_of_interrupted hr
        obtain rfl : f' = f := Option.some.inj (hf'.symm.trans hf)
        exact absurd hkind' hkind
    · exact h.ends c' r' f hmem hf hkind

/-- A call that ends a transfer and moves nothing. -/
theorem last (port : String) (c : PortCall) (hr : r.interrupted = false)
    (hmoved : r.failure = none → c.moved r = []) :
    Faithful port c [.call port c r] [] (r.failure.bind PortError.hard?) := by
  -- a failure moves nothing, and a success moved nothing by assumption
  have hnone : (PortEntry.call port c r).moved = [] := by
    rw [PortEntry.moved_call]
    split
    · next h => exact hmoved h
    · rfl
  constructor
  case moved => rw [List.flatMap_cons, hnone, List.flatMap_nil, List.append_nil]
  case length_le => exact Nat.zero_le _
  case asked =>
    rintro (_ | ⟨y, before⟩) x behind hes
    · obtain ⟨rfl, -⟩ := List.cons.inj hes
      exact ⟨r, by rw [List.flatMap_nil, List.length_nil, PortCall.behind_zero]⟩
    · exact absurd (List.cons.inj hes).2 (by simp)
  case short =>
    intro he _
    refine ⟨r, by rw [List.length_nil, PortCall.behind_zero]; rfl, ?_⟩
    rw [List.length_nil, PortCall.behind_zero]
    unfold PortReply.Silent
    -- a silence is a read of none or a timeout; any other failure would have been told
    cases hf : r.failure with
    | none => exact hmoved hf
    | some f =>
      rw [hf] at he
      exact Decidable.byContradiction fun hkind =>
        absurd (he.symm.trans (PortError.hard?_eq_some.2 ⟨rfl, hkind⟩)) (by simp)
  case failed =>
    intro cause he
    obtain ⟨f, hf, hcause⟩ := Option.bind_eq_some_iff.1 he
    -- interruptions are excluded by assumption, timeouts because they do not count as failures
    obtain ⟨rfl, htimedOut⟩ := PortError.hard?_eq_some.1 hcause
    refine ⟨fun hkind => ?_, htimedOut, r, f, ?_, hf, rfl⟩
    · simp [PortReply.interrupted, hf, hkind] at hr
    · rw [List.length_nil, PortCall.behind_zero]
      rfl
  case ends =>
    intro c' r' f hmem hf _ hkind
    cases List.mem_singleton.1 hmem
    rw [hf]
    exact PortError.hard?_eq_some.2 ⟨rfl, hkind⟩

end Faithful

/-- Each of the entries tells of a call to a port and of the reply that some host gave. -/
def Replied (η : Type) [SerialHost η] (port : String) (es : List PortEntry) : Prop :=
  ∀ c r, .call port c r ∈ es → ∃ h : η, r = (SerialHost.call port c h).1

namespace Ports

variable {η : Type} [SerialHost η] {p q : Ports η} {port : String} {c : PortCall} {b : Bytes}
  {e : Option IoError}

/-- A first call and the entries behind it. -/
theorem replied_cons {es : List PortEntry} (h : Replied η port es) (c : PortCall) (p : Ports η) :
    Replied η port (.call port c (p.call port c).1 :: es) := by
  intro c' r hmem
  rcases List.mem_cons.1 hmem with heq | hmem
  · cases heq
    exact ⟨p.host, rfl⟩
  · exact h c' r hmem

/-- **A transfer asks for precisely what is left, and its result tells how it ended.** -/
theorem Transfers.faithful (h : Transfers port c p b e q) :
    ∃ es, q.journal = es.reverse ++ p.journal ∧ Replied η port es ∧ Faithful port c es b e := by
  -- the journal is latest first, the entries of the transfer are first first
  have hnil : Replied η port [] := fun _ _ h => absurd h (by simp)
  have hjournal : ∀ (es : List PortEntry) {c : PortCall} {p q : Ports η},
      q.journal = es.reverse ++ (p.call port c).2.journal →
        q.journal = (PortEntry.call port c (p.call port c).1 :: es).reverse ++ p.journal := by
    intro es c p q h
    rw [h, List.reverse_cons, List.append_assoc]
    rfl
  induction h with
  | complete hc => exact ⟨[], rfl, hnil, .complete hc⟩
  | @again c p b e q hc hagain rest ih =>
    obtain ⟨es, hes, hreplied, h⟩ := ih
    -- what is interrupted has moved nothing, so the same call is made again
    have hmoved : (PortEntry.call port c (p.call port c).1).moved = [] := by
      obtain ⟨f, hf, -⟩ := PortReply.failure_of_interrupted hagain
      rw [PortEntry.moved_call, hf, if_neg (by simp)]
    have hcons := Faithful.cons port c (.inr hagain)
      (by rw [hmoved]; exact Nat.zero_le _) (by rwa [hmoved, List.length_nil, PortCall.behind_zero])
    rw [hmoved, List.nil_append] at hcons
    exact ⟨_, hjournal es hes, replied_cons hreplied c p, hcons⟩
  | @piece c p b e q hc hfailure hmoved rest ih =>
    obtain ⟨es, hes, hreplied, h⟩ := ih
    -- a piece has moved, and the rest is a transfer of what is left
    have hpiece : (PortEntry.call port c (p.call port c).1).moved = c.moved (p.call port c).1 := by
      rw [PortEntry.moved_call, if_pos hfailure]
    have hcons := Faithful.cons port c (.inl hfailure)
      (by rw [hpiece]; exact PortCall.length_moved_le _ _) (by rwa [hpiece])
    rw [hpiece] at hcons
    exact ⟨_, hjournal es hes, replied_cons hreplied c p, hcons⟩
  -- nothing moved and nothing failed: the port is silent, and the transfer gives up
  | @silent c p hc hfailure hmoved =>
    have h := Faithful.last port c (PortReply.not_interrupted hfailure) fun _ => hmoved
    rw [hfailure] at h
    exact ⟨_, hjournal [] rfl, replied_cons hnil c p, h⟩
  | @failed c p f hc hfailure hlast =>
    have h := Faithful.last port c hlast fun h =>
      absurd (hfailure.symm.trans h) (by simp)
    rw [hfailure] at h
    exact ⟨_, hjournal [] rfl, replied_cons hnil c p, h⟩

/-- What a transfer of some bytes has sent are the first ones of them. -/
theorem Transfers.sent {data : Bytes} (h : Transfers port (.write data) p b e q) : b <+: data := by
  obtain ⟨c, hc⟩ : ∃ c, c = PortCall.write data := ⟨_, rfl⟩
  rw [← hc] at h
  induction h generalizing data with
  | complete => exact List.nil_prefix
  | again _ _ _ ih => exact ih hc
  | @piece c p b e q _ _ _ _ ih =>
    subst hc
    obtain ⟨k, hk⟩ : ∃ k, k = (p.call port (.write data)).1.accepted := ⟨_, rfl⟩
    -- behind a piece, the first bytes of the rest follow
    have hrest : b <+: data.drop (data.take k).length := ih (by rw [hk]; rfl)
    have hsplit : data.take k ++ data.drop (data.take k).length = data := by
      rw [List.length_take]
      rcases Nat.le_total k data.length with hle | hle
      · rw [Nat.min_eq_left hle, List.take_append_drop]
      · rw [Nat.min_eq_right hle, List.take_of_length_le hle, List.drop_length, List.append_nil]
    have hprefix := (List.prefix_append_right_inj (data.take k)).2 hrest
    rw [hsplit] at hprefix
    show data.take (p.call port (.write data)).1.accepted ++ b <+: data
    rwa [← hk]
  | silent => exact List.nil_prefix
  | failed => exact List.nil_prefix

end Ports

/-! ### What a transfer moves -/

namespace Faithful

variable {port : String} {c : PortCall} {es : List PortEntry} {b : Bytes} {e : Option IoError}

/-- Every entry of a transfer is a call for some rest of it. -/
theorem mem (h : Faithful port c es b e) {x : PortEntry} (hx : x ∈ es) :
    ∃ k r, x = .call port (c.behind k) r := by
  obtain ⟨before, behind, rfl⟩ := List.append_of_mem hx
  obtain ⟨r, hr⟩ := h.asked before x behind rfl
  exact ⟨_, r, hr⟩

/-- What came in with a transfer are the bytes that were read. -/
theorem incoming_read {n : Nat} {η : Type} [SerialHost η] (h : Faithful port (.read n) es b e)
    (hport : Honest η port) (hes : Replied η port es) : es.flatMap PortEntry.incoming = b := by
  rw [← h.moved]
  refine List.flatMap_congr fun x hx => ?_
  obtain ⟨k, r, rfl⟩ := h.mem hx
  obtain ⟨host, hr⟩ := hes _ r hx
  exact PortEntry.incoming_read (hr ▸ hport (.read (n - k)) host)

theorem outgoing_read {n : Nat} (h : Faithful port (.read n) es b e) :
    es.flatMap PortEntry.outgoing = [] := by
  rw [List.flatMap_eq_nil_iff]
  intro x hx
  obtain ⟨k, r, rfl⟩ := h.mem hx
  rfl

/-- What went out with a transfer are the bytes that were sent. -/
theorem outgoing_write {data : Bytes} (h : Faithful port (.write data) es b e) :
    es.flatMap PortEntry.outgoing = b := by
  rw [← h.moved]
  refine List.flatMap_congr fun x hx => ?_
  obtain ⟨k, r, rfl⟩ := h.mem hx
  rfl

theorem incoming_write {data : Bytes} (h : Faithful port (.write data) es b e) :
    es.flatMap PortEntry.incoming = [] := by
  rw [List.flatMap_eq_nil_iff]
  intro x hx
  obtain ⟨k, r, rfl⟩ := h.mem hx
  rfl

end Faithful

end DiveLink
