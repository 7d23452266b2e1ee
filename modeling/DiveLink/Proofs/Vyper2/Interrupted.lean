import Mathlib.Data.List.TakeWhile
import DiveLink.Proofs.Vyper2.Exchanging
import DiveLink.Proofs.Vyper2.Reading

/-!
# Operations that are cancelled

The token of a session is looked at in front of each exchange with a Vyper2, and nowhere else.  So
an operation whose token is cancelled at some call goes on as if nothing had happened up to the end
of the exchange, and makes no call behind it.

## Main definitions

* `Interrupted σ` — the link `σ`, on which tokens are cancelled when some more calls were made.
* `Session.under` — a session on such a link.
* `Transcript.severed` — the calls up to the end of the exchange.
* `Vyper2.Cut` — how two runs go together of which one is cancelled.

## Main results

* `Vyper2.cut_ask` — **an exchange takes place as a whole, or not at all.**
* `Device.cancelled_between_packets` — **a cancelled operation ends behind its exchange.**
-/

namespace DiveLink

/-! ### Links on which tokens are cancelled -/

/-- The link `σ`, on which tokens are cancelled when `left` more calls were made, or never. -/
structure Interrupted (σ : Type) where
  link : σ
  left : Option Nat

instance {σ : Type} [Link σ] : Link (Interrupted σ) where
  call c l := ((Link.call c l.link).1, ⟨(Link.call c l.link).2, l.left.map (· - 1)⟩)
  cancelled _ l := l.left == some 0
  now l := Link.now l.link

namespace Session

variable {σ δ : Type}

/-- The session on a link on which tokens are cancelled when `left` calls were made, or never. -/
def under (left : Option Nat) (s : Session σ δ) : Session (Interrupted σ) δ :=
  { s with link := ⟨s.link, left⟩ }

/-- The session with another number of calls that are left. -/
def leaving (left : Option Nat) (s : Session (Interrupted σ) δ) : Session (Interrupted σ) δ :=
  { s with link := ⟨s.link.link, left⟩ }

end Session

/-! ### Calls up to the end of an exchange -/

namespace Transcript

variable {cs cs' : Transcript} {k : Nat}

/-- The call lets the device rest in front of an exchange. -/
def Rests (x : Call × Reply) : Prop := x.1 = .sleep Vyper2.settle

instance : DecidablePred Rests := fun x => inferInstanceAs (Decidable (x.1 = .sleep Vyper2.settle))

/-- Behind the first `k` calls there is another exchange. -/
def GoesOn (k : Nat) (cs : Transcript) : Prop := ∃ x ∈ cs.drop k, Rests x

/-- The first `k` calls, and those up to the end of the exchange that they are in. -/
def severed (k : Nat) (cs : Transcript) : Transcript :=
  cs.take k ++ (cs.drop k).takeWhile fun x => ¬ Rests x

theorem goesOn_append : GoesOn k (cs ++ cs') ↔ GoesOn k cs ∨ GoesOn (k - cs.length) cs' := by
  simp only [GoesOn, List.drop_append, List.mem_append]
  constructor
  · rintro ⟨x, hx | hx, hrests⟩
    · exact .inl ⟨x, hx, hrests⟩
    · exact .inr ⟨x, hx, hrests⟩
  · rintro (⟨x, hx, hrests⟩ | ⟨x, hx, hrests⟩)
    · exact ⟨x, .inl hx, hrests⟩
    · exact ⟨x, .inr hx, hrests⟩

/-- Where no exchange follows, nothing is cut off in front of the next calls. -/
theorem severed_append_of_not (h : ¬ GoesOn k cs) :
    severed k (cs ++ cs') = cs ++ severed (k - cs.length) cs' := by
  have hnone : ∀ x ∈ cs.drop k, decide (¬ Rests x) = true :=
    fun x hx => decide_eq_true fun hrests => h ⟨x, hx, hrests⟩
  rw [severed, severed, List.take_append, List.drop_append, List.takeWhile_append_of_pos hnone]
  rcases Nat.le_total k cs.length with hle | hle
  · rw [Nat.sub_eq_zero_of_le hle, List.take_zero, List.append_nil, ← List.append_assoc,
      List.take_append_drop, List.nil_append]
  · rw [List.drop_eq_nil_of_le hle, List.nil_append, List.take_of_length_le hle,
      List.append_assoc]

theorem severed_of_not (h : ¬ GoesOn k cs) : severed k cs = cs := by
  have happend : severed k (cs ++ []) = cs ++ severed (k - cs.length) [] := severed_append_of_not h
  have hnil : severed (k - cs.length) [] = [] := by simp [severed]
  rwa [hnil, List.append_nil] at happend

/-- What follows the next exchange is cut off with it. -/
theorem severed_append_of_goesOn (h : GoesOn k cs) : severed k (cs ++ cs') = severed k cs := by
  obtain ⟨x, hx, hrests⟩ := h
  have hle : k ≤ cs.length := by
    by_contra hlt
    rw [List.drop_eq_nil_of_le (by omega)] at hx
    exact absurd hx (by simp)
  have hstops : ¬ ((cs.drop k).takeWhile fun x => ¬ Rests x).length = (cs.drop k).length := by
    intro hlength
    have hall := List.takeWhile_eq_self_iff.1 ((List.takeWhile_prefix _).eq_of_length hlength)
    exact of_decide_eq_true (hall x hx) hrests
  rw [severed, severed, List.take_append_of_le_length hle, List.drop_append_of_le_length hle,
    List.takeWhile_append, if_neg hstops]

end Transcript

/-! ### Two runs -/

namespace Vyper2

open Session Transcript

variable {σ α β : Type} [Link σ]

/-- Two runs from the session `s`: one whose token is never cancelled, with the calls `cs`, and one
whose token is cancelled behind its first `k` calls.  The second ends as the first does, or it ends
with `stopped` in front of the next exchange. -/
structure Severed (stopped : Except DeviceError α → Prop) (s : Session (Interrupted σ) Vyper2)
    (k : Nat) (cs : Transcript) (free cut : Except DeviceError α × Session (Interrupted σ) Vyper2) :
    Prop where
  made : Made (s.leaving none) free.2 cs
  uncancelled : free.2.leaving none = free.2
  whole : ¬ GoesOn k cs → cut = (free.1, free.2.leaving (some (k - cs.length)))
  stopped : GoesOn k cs → stopped cut.1 ∧ Made (s.leaving (some k)) cut.2 (severed k cs)

/-- However two runs of a program start alike, if the token of the second is cancelled at some call
they go together as `Severed` says. -/
def Cut (stopped : Except DeviceError α → Prop) (x y : Op (Interrupted σ) Vyper2 α) : Prop :=
  ∀ s k, ∃ cs, Severed stopped s k cs (run x (s.leaving none)) (run y (s.leaving (some k)))

variable {stopped : Except DeviceError α → Prop} {stopped' : Except DeviceError β → Prop}
  {x y : Op (Interrupted σ) Vyper2 α}

omit [Link σ] in
theorem made_leaving {s t : Session (Interrupted σ) Vyper2} {cs : Transcript} (h : Made s t cs)
    (left left' : Option Nat) : Made (s.leaving left) (t.leaving left') cs :=
  ⟨h.calls, h.token⟩

namespace Cut

omit [Link σ] in
/-- Of two programs one behind the other, a cancelled run is stopped in the first or in the
second. -/
theorem seq {X Y : Op (Interrupted σ) Vyper2 β} {f g : α → Op (Interrupted σ) Vyper2 β}
    {fail : DeviceError → Except DeviceError β} (hx : Cut Cancelled x y)
    (hX : Continues x f fail X) (hY : Continues y g fail Y) (hfail : stopped' (fail .cancelled))
    (hf : ∀ a, Cut stopped' (f a) (g a)) : Cut stopped' X Y := by
  intro s k
  obtain ⟨cs, hmade, hfree, hwhole, hstopped⟩ := hx s k
  rcases hrun : run x (s.leaving none) with ⟨r, t⟩
  rw [hrun] at hmade hfree hwhole
  by_cases hgoes : GoesOn k cs
  · -- the first program is stopped, whatever would have come behind it
    obtain ⟨hcancelled, hcut⟩ := hstopped hgoes
    rcases hrun' : run y (s.leaving (some k)) with ⟨r', u⟩
    rw [hrun'] at hcancelled hcut
    obtain rfl : r' = .error .cancelled := hcancelled
    rw [hY.error hrun']
    cases r with
    | error e =>
      rw [hX.error hrun]
      exact ⟨cs, hmade, hfree, fun h => absurd hgoes h, fun _ => ⟨hfail, hcut⟩⟩
    | ok a =>
      rw [hX.ok hrun]
      obtain ⟨cs', hmade', hfree', -, -⟩ := hf a t 0
      rw [show t.leaving none = t from hfree] at hmade' hfree'
      refine ⟨cs ++ cs', hmade.trans hmade', hfree', fun h => ?_, fun _ => ⟨hfail, ?_⟩⟩
      · exact absurd (goesOn_append.2 (.inl hgoes)) h
      · rw [severed_append_of_goesOn hgoes]
        exact hcut
  · have hsame := hwhole hgoes
    cases r with
    | error e =>
      rw [hX.error hrun, hY.error hsame]
      exact ⟨cs, hmade, hfree, fun _ => rfl, fun h => absurd h hgoes⟩
    | ok a =>
      rw [hX.ok hrun, hY.ok hsame]
      obtain ⟨cs', hmade', hfree', hwhole', hstopped'⟩ := hf a t (k - cs.length)
      rw [show t.leaving none = t from hfree] at hmade' hfree' hwhole'
      refine ⟨cs ++ cs', hmade.trans hmade', hfree', fun h => ?_, fun h => ?_⟩
      · rw [goesOn_append, not_or] at h
        rw [List.length_append, ← Nat.sub_sub]
        exact hwhole' h.2
      · obtain ⟨hend, hcut⟩ := hstopped' ((goesOn_append.1 h).resolve_left hgoes)
        refine ⟨hend, ?_⟩
        rw [severed_append_of_not hgoes]
        exact Made.trans (made_leaving hmade (some k) (some (k - cs.length))) hcut

omit [Link σ] in
/-- A result that is put in another form. -/
theorem returning {f : α → β} (hx : Cut stopped x y)
    (hf : ∀ r : Except DeviceError α, stopped r → stopped' (r.map f)) :
    Cut stopped' (f <$> x) (f <$> y) := by
  intro s k
  obtain ⟨cs, hmade, hfree, hwhole, hstopped⟩ := hx s k
  rw [run_map, run_map]
  refine ⟨cs, hmade, hfree, fun h => ?_, fun h => ⟨hf _ (hstopped h).1, (hstopped h).2⟩⟩
  rw [hwhole h]

omit [Link σ] in
theorem congr {x' y' : Op (Interrupted σ) Vyper2 α} (h : Cut stopped x' y')
    (hx : ∀ s, run x s = run x' s) (hy : ∀ s, run y s = run y' s) : Cut stopped x y := by
  intro s k
  rw [hx, hy]
  exact h s k

end Cut

/-! ### One exchange -/

/-- The program `x` makes no call and does not look at the token. -/
def Quiet (x : Op (Interrupted σ) Vyper2 α) : Prop :=
  ∀ s : Session (Interrupted σ) Vyper2, Made s (run x s).2 [] ∧
    ∀ left, run x (s.leaving left) = ((run x s).1, (run x s).2.leaving left)

/-- The program `x` does not look at the token and makes no call that lets the device rest: the run
whose token is cancelled goes on like the other one. -/
def Steady (x : Op (Interrupted σ) Vyper2 α) : Prop :=
  ∀ (s : Session (Interrupted σ) Vyper2) (k : Nat), ∃ cs,
    Made (s.leaving none) (run x (s.leaving none)).2 cs ∧ (∀ c ∈ cs, ¬ Rests c) ∧
    (run x (s.leaving none)).2.leaving none = (run x (s.leaving none)).2 ∧
    run x (s.leaving (some k)) = ((run x (s.leaving none)).1,
      (run x (s.leaving none)).2.leaving (some (k - cs.length)))

namespace Steady

omit [Link σ] in
theorem quiet (h : Quiet x) : Steady x := by
  intro s k
  rw [(h s).2, (h s).2]
  exact ⟨[], made_leaving (h s).1 none none, by simp, rfl, rfl⟩

omit [Link σ] in
theorem pure (a : α) : Steady (pure a : Op (Interrupted σ) Vyper2 α) :=
  quiet fun s => ⟨.refl s, fun _ => rfl⟩

omit [Link σ] in
theorem throw (e : DeviceError) : Steady (throw e : Op (Interrupted σ) Vyper2 α) :=
  quiet fun s => ⟨.refl s, fun _ => rfl⟩

omit [Link σ] in
theorem record (ws : List Warning) :
    Steady (record (ws.map .warning) : Op (Interrupted σ) Vyper2 Unit) :=
  quiet fun s => ⟨made_warned ws s, fun _ => rfl⟩

theorem perform {c : Call} (hc : c ≠ .sleep settle) :
    Steady (perform c : Op (Interrupted σ) Vyper2 Reply) := by
  intro s k
  exact ⟨_, made_called c _, by simpa [Rests] using hc, rfl, rfl⟩

omit [Link σ] in
theorem bind {f : α → Op (Interrupted σ) Vyper2 β} (hx : Steady x) (hf : ∀ a, Steady (f a)) :
    Steady (x >>= f) := by
  intro s k
  obtain ⟨cs, hmade, hnone, hfree, hrun⟩ := hx s k
  rw [run_bind, run_bind, hrun]
  rcases hfirst : run x (s.leaving none) with ⟨e | a, t⟩ <;> rw [hfirst] at hmade hfree
  · exact ⟨cs, hmade, hnone, hfree, rfl⟩
  · obtain ⟨cs', hmade', hnone', hfree', hrun'⟩ := hf a t (k - cs.length)
    rw [show t.leaving none = t from hfree] at hmade' hfree' hrun'
    refine ⟨cs ++ cs', hmade.trans hmade', fun c hc => ?_, hfree', ?_⟩
    · exact (List.mem_append.1 hc).elim (hnone c) (hnone' c)
    · rw [List.length_append, ← Nat.sub_sub]
      exact hrun'

omit [Link σ] in
theorem outcome (hx : Steady x) : Steady (outcome x) := by
  intro s k
  obtain ⟨cs, hmade, hnone, hfree, hrun⟩ := hx s k
  rw [run_outcome, run_outcome, hrun]
  exact ⟨cs, hmade, hnone, hfree, rfl⟩

omit [Link σ] in
theorem warning (w : Warning) (hx : Steady x) : Steady (warning w x) := by
  intro s k
  obtain ⟨cs, hmade, hnone, hfree, hrun⟩ := hx s k
  rw [run_warning, run_warning, hrun]
  rcases hfirst : run x (s.leaving none) with ⟨e | a, t⟩ <;> rw [hfirst] at hmade hfree
  · refine ⟨cs, hmade.quiet (made_warned [w] t), hnone, ?_, rfl⟩
    rw [show t = t.leaving none from hfree.symm]
    rfl
  · exact ⟨cs, hmade, hnone, hfree, rfl⟩

theorem stepwise : Stepwise (σ := Interrupted σ) (δ := Vyper2) (· ≠ .sleep settle)
    fun x => Steady x :=
  ⟨pure, throw, bind, fun _ hc => perform hc⟩

omit [Link σ] in
/-- What goes on is not stopped. -/
theorem cut (hx : Steady x) : Cut stopped x x := by
  intro s k
  obtain ⟨cs, hmade, hnone, hfree, hrun⟩ := hx s k
  exact ⟨cs, hmade, hfree, fun _ => hrun,
    fun ⟨c, hc, hrests⟩ => absurd hrests (hnone c (List.mem_of_mem_drop hc))⟩

end Steady

end Vyper2

namespace Packet

open Session

variable {σ δ : Type} [Link σ]

/-- Raises the line, sends a command, and lowers the line again. -/
def convey (command : Bytes) : Op σ δ Unit := do
  attempt (.rts true)
  warning .send (transmit command)
  attempt (.rts false)

/-- Receives the answer to a command, if that was sent. -/
def await (command : Bytes) (length size : Nat) : Except DeviceError Unit → Op σ δ Receipt
  | .error e => pure (.refused e)
  | .ok () => do
    let answer ← receive length
    match answer.outcome with
    | .error _ =>
      warn .receive
      return answer
    | .ok () =>
      match check command answer.bytes size with
      | .ok () => return answer
      | .error f =>
        record (f.warning.toList.map .warning)
        return { answer with outcome := .error (.protocol f.error) }

theorem exchange_eq (settle : Nat) (command : Bytes) (length size : Nat) :
    (exchange settle command length size : Op σ δ Receipt) =
      outcome (send settle command) >>= await command length size := rfl

/-- Only in front of its rest an exchange looks at the token. -/
theorem run_exchange (settle : Nat) (command : Bytes) (length size : Nat) (s : Session σ δ) :
    run (exchange settle command length size) s =
      if Link.cancelled s.token s.link then (.ok (.refused .cancelled), s)
      else run (outcome (convey command) >>= await command length size)
        (called (.sleep settle) s) := by
  -- the token is looked at in front of all calls of the exchange
  have hsend : run (send settle command) s =
      if Link.cancelled s.token s.link then (.error .cancelled, s)
      else run (convey command) (called (.sleep settle) s) := by
    unfold send
    rw [run_bind_ok (run_isCancelled s)]
    cases Link.cancelled s.token s.link <;> rfl
  rw [exchange_eq, run_bind_ok (run_outcome _ s), run_bind_ok (run_outcome _ _), hsend]
  cases Link.cancelled s.token s.link <;> rfl

end Packet

namespace Vyper2

open Session Transcript

variable {σ α β : Type} [Link σ]

/-- What an exchange does behind its rest goes on. -/
theorem steady_await (command : Bytes) (length size : Nat) :
    Steady (outcome (Packet.convey command) >>= Packet.await command length size :
      Op (Interrupted σ) Vyper2 Receipt) := by
  -- none of the calls behind the rest is a rest, so none is a place to look at the token
  have hconvey : Steady (Packet.convey command : Op (Interrupted σ) Vyper2 Unit) :=
    (Steady.stepwise.attempt (by simp)).bind fun _ =>
      ((Steady.stepwise.transmit (by simp)).warning _).bind fun _ =>
        Steady.stepwise.attempt (by simp)
  refine hconvey.outcome.bind fun sent => ?_
  cases sent with
  | error e => exact .pure _
  | ok =>
    refine (Steady.stepwise.receive (by simp)).bind fun answer => ?_
    cases answer.outcome with
    | error e => exact (Steady.record [.receive]).bind fun _ => .pure _
    | ok =>
      dsimp only
      cases Packet.check command answer.bytes size with
      | ok => exact .pure _
      | error f => exact (Steady.record _).bind fun _ => .pure _

/-- **An exchange takes place as a whole, or not at all.** -/
theorem cut_exchange (command : Bytes) (length size : Nat) :
    Cut (fun r => r.bind (·.outcome) = .error .cancelled)
      (Packet.exchange settle command length size : Op (Interrupted σ) Vyper2 Receipt)
      (Packet.exchange settle command length size) := by
  intro s k
  have hfree : run (Packet.exchange settle command length size) (s.leaving none) =
      run (outcome (Packet.convey command) >>= Packet.await command length size)
        (called (.sleep settle) (s.leaving none)) := by
    rw [Packet.run_exchange]
    rfl
  -- the answer is awaited with one call less to go until the cancellation
  obtain ⟨cs, hmade, hnone, hkept, hrun⟩ :=
    steady_await command length size (called (.sleep settle) (s.leaving none)) (k - 1)
  have hwhole := (made_called (.sleep settle) (s.leaving none)).trans hmade
  rw [hfree]
  refine ⟨_, hwhole, hkept, fun h => ?_, fun h => ?_⟩
  · -- the token is not cancelled yet, since the exchange begins with a rest
    obtain ⟨j, rfl⟩ : ∃ j, k = j + 1 := by
      refine Nat.exists_eq_succ_of_ne_zero ?_
      rintro rfl
      exact h ⟨_, List.mem_cons_self, rfl⟩
    have hgoes : ¬ Link.cancelled (s.leaving (some (j + 1))).token
        (s.leaving (some (j + 1))).link = true := by
      show ¬ (some (j + 1) == some 0) = true
      simp
    have hlength : j + 1 - ([(Call.sleep settle, reply (.sleep settle) (s.leaving none))] ++
        cs).length = j - cs.length := by simp
    rw [Packet.run_exchange, if_neg hgoes, hlength]
    exact hrun
  · -- the token is cancelled at the first rest, since no other call of an exchange is one
    obtain rfl : k = 0 := by
      by_contra hne
      obtain ⟨j, rfl⟩ := Nat.exists_eq_succ_of_ne_zero hne
      obtain ⟨c, hc, hrests⟩ := h
      exact hnone c (List.mem_of_mem_drop hc) hrests
    rw [Packet.run_exchange]
    exact ⟨rfl, .refl _⟩

/-- **An answer is asked for, or the operation ends.** -/
theorem cut_ask (command : Bytes) (parameters size : Nat) :
    Cut Cancelled (Packet.ask settle command parameters size : Op (Interrupted σ) Vyper2 Bytes)
      (Packet.ask settle command parameters size) := by
  intro s k
  obtain ⟨cs, hmade, hfree, hwhole, hstopped⟩ :=
    cut_exchange command (Packet.overhead + parameters + size) size s k
  -- an exchange is asked for, and then its answer is looked at
  have hask : ∀ s : Session (Interrupted σ) Vyper2,
      run (Packet.ask settle command parameters size) s =
        ((run (Packet.exchange settle command (Packet.overhead + parameters + size) size) s).1.bind
          Receipt.toExcept,
          (run (Packet.exchange settle command (Packet.overhead + parameters + size) size) s).2) := by
    intro s
    unfold Packet.ask
    rw [run_bind]
    rcases run (Packet.exchange settle command _ size) s with ⟨e | r, t⟩
    · rfl
    · exact run_lift _ t
  rw [hask, hask]
  -- a whole exchange gives the same answer; one that does not begin leaves its refusal
  refine ⟨cs, hmade, hfree, fun h => by rw [hwhole h], fun h => ⟨?_, (hstopped h).2⟩⟩
  have hend := (hstopped h).1
  generalize (run (Packet.exchange settle command _ size) (s.leaving (some k))).1 = r at hend ⊢
  cases r with
  | error e =>
    cases hend
    rfl
  | ok r =>
    show r.outcome.map _ = _
    rw [show r.outcome = .error .cancelled from hend]
    rfl

omit [Link σ] in
theorem quiet_emit (e : Event) : Quiet (emit e : Op (Interrupted σ) Vyper2 Unit) := by
  intro s
  refine ⟨?_, fun left => ?_⟩
  · rw [run_emit]
    split
    · exact (grows_record [.event e] s).made
    · exact .refl s
  · rw [run_emit, run_emit]
    show (Except.ok (), if s.listening then _ else _) = _
    split <;> rfl

omit [Link σ] in
theorem quiet_report (walk : Vyper2 → Walk) :
    Quiet (get >>= fun s => report (walk s.device) : Op (Interrupted σ) Vyper2 (List Dive)) := by
  intro s
  rw [run_bind_ok (run_get s)]
  refine ⟨⟨by rw [calls_report, List.append_nil], (run_report _ s).2.token⟩, fun left => ?_⟩
  have hdevice : (s.leaving left).device = s.device := rfl
  rw [run_bind_ok (run_get _), hdevice]
  unfold report
  rw [run_bind_ok (run_record _ _), run_bind_ok (run_record _ s)]
  cases (walk s.device).fault <;> rfl

/-- All that an operation does goes together with its cancelled twin. -/
theorem exchanging_cut : Exchanging (σ := Interrupted σ) (ρ := Interrupted σ)
    fun stopped x y => Cut stopped x y where
  congr h hx hy := h.congr hx hy
  pure a := (Steady.pure a).cut
  refuse _ := (Steady.throw _).cut
  seq hx hX hY hstopped hf := hx.seq hX hY hstopped hf
  returning _ hx h := hx.returning h
  record ws := (Steady.record ws).cut
  emit e := (Steady.quiet (quiet_emit e)).cut
  report walk := (Steady.quiet (quiet_report walk)).cut
  ask q _ := cut_ask q.command q.parameters q.size

/-- **Every operation goes together with its cancelled twin.** -/
theorem cut_program (op : Device.Operation) :
    Cut GivenUp (op.program : Op (Interrupted σ) Vyper2 Receipt) op.program := by
  by_cases hop : op = .close
  · -- closing is no exchange, and does not look at the token
    subst hop
    have hclose : Cut Cancelled (Vyper2.close : Op (Interrupted σ) Vyper2 Unit) Vyper2.close :=
      (Steady.stepwise.attempt (by simp)).cut
    exact exchanging_cut.receipt _ hclose
  · exact op.exchanging_program exchanging_cut hop

/-! ### What the caller is left with -/

/-- A download of dives that is cancelled hands out none. -/
theorem handed_of_cancelled {keep : List Dive → Bool} {s : Session σ Vyper2}
    (h : GivenUp (run (Device.Operation.foreach keep).program s).1) :
    (run (Device.Operation.foreach keep).program s).2.handed = s.handed := by
  rw [Device.Operation.program, run_map, run_foreach] at h ⊢
  have hdownload := (handed_download s).1
  rcases hrun : run download s with ⟨e | ⟨version, header, data⟩, t⟩ <;> rw [hrun] at h hdownload
  · exact hdownload
  · -- a walk ends in a fault of the memory, if in any
    exfalso
    dsimp only at h
    rw [(run_report _ t).1] at h
    cases hfault : ((header.walk (fingerprintOffset version) data).cut
        (isKnown t.device.fingerprint) keep).fault <;> rw [hfault] at h <;> cases h

/-- A read fills the front of the buffer with answers for the first blocks of the range. -/
theorem filled_of_read (address : Nat) (buffer : Bytes) (s : Session σ Vyper2) :
    ∃ es i, (run (read address buffer.length) s).2.history = s.history ++ es ∧
      Filled es address i buffer
        ((Receipt.ofRun (run (read address buffer.length) s).1).fill buffer) := by
  rcases h : run (read address buffer.length) s with ⟨r, t⟩
  unfold read at h
  cases hrange : rangeFault address buffer.length with
  -- a range that is refused is refused before anything is read
  | some e =>
    rw [hrange] at h
    cases h
    exact ⟨[], 0, by simp, rfl, fun i hi => absurd hi (Nat.not_lt_zero i), rfl⟩
  -- otherwise the blocks that were answered fill the front of the buffer
  | none =>
    rw [hrange] at h
    obtain ⟨f, u, es, hblocks, hgrows, hobtained, -⟩ :=
      obtained_of_readBlocks (Block.tile blockSize address buffer.length) none s
    rw [run_bind_ok hblocks] at h
    cases h
    exact ⟨es, _, hgrows.history, filled_of_answered (hobtained.imp fun _ _ h => h.answered)⟩

end Vyper2

namespace Device

open Session Transcript

variable {σ : Type} [Link σ]

/-- How an operation whose token is cancelled behind its first `k` calls goes with the same
operation whose token never is, which makes the calls `cs`. -/
structure Interruption (op : Operation) (s : Session σ Vyper2) (k : Nat) (cs : Transcript)
    (free cut : Receipt × Device (Interrupted σ)) : Prop where
  free_calls : free.2.calls = s.calls ++ cs
  uncancelled : free.1.outcome ≠ .error .cancelled
  /-- The exchange that the token is cancelled in goes on to its end, and no call follows it. -/
  calls : cut.2.calls = s.calls ++ cs.severed k
  /-- The operation is cancelled exactly if it would have gone on to another exchange. -/
  cancelled_iff : cut.1.outcome = .error .cancelled ↔ GoesOn k cs
  /-- If not, all is as if the token had not been cancelled. -/
  same : ¬ GoesOn k cs → cut.1 = free.1 ∧ ∃ t, free.2 = .vyper2 t ∧
    cut.2 = .vyper2 (t.leaving (some (k - cs.length)))
  /-- All that was asked for up to the cancellation was answered, and there was more to ask for. -/
  pending : GoesOn k cs → Vyper2.Pending op.requests (cs.severed k)
  undisturbed : GoesOn k cs → ∀ keep, op = .foreach keep → cut.2.handed = s.handed
  /-- A read has filled the front of the buffer with whole blocks. -/
  filled : GoesOn k cs → ∀ address (buffer : Bytes), op = .read address buffer.length →
    ∃ t es i, cut.2 = .vyper2 t ∧ t.history = s.history ++ es ∧
      Vyper2.Filled es address i buffer (cut.1.fill buffer)
  emptied : GoesOn k cs → (∀ address length, op ≠ .read address length) → cut.1.bytes = []

/-- An operation whose token is never cancelled is not cancelled. -/
theorem not_cancelled_of_never (op : Operation) {s : Session (Interrupted σ) Vyper2}
    (h : (Session.run op.program s).2.leaving none = (Session.run op.program s).2) :
    (op.deliver (.vyper2 s)).1.outcome ≠ .error .cancelled := by
  intro hcancelled
  obtain ⟨_, -, hfast⟩ := perform_failsFast op (.vyper2 s)
  rw [Operation.perform_eq] at hfast
  obtain ⟨-, hlink, -⟩ := hfast.cancelled hcancelled
  rw [Operation.deliver_vyper2, ← h] at hlink
  exact absurd hlink Bool.false_ne_true

/-- An operation that was cancelled has made the exchanges that it needs up to one of them. -/
theorem pending_of_cancelled {op : Operation} {s : Session (Interrupted σ) Vyper2} {cs : Transcript}
    (h : (op.deliver (.vyper2 s)).1.outcome = .error .cancelled)
    (hcalls : (op.deliver (.vyper2 s)).2.calls = s.calls ++ cs) :
    Vyper2.Pending op.requests cs := by
  obtain ⟨cs', hcalls', hfast⟩ := perform_failsFast op (.vyper2 s)
  rw [Operation.perform_eq] at hcalls' hfast
  obtain rfl : cs = cs' := List.append_cancel_left (hcalls.symm.trans hcalls')
  exact (hfast.cancelled h).2.2

/-- But for a read, what is delivered is delivered as a whole. -/
theorem whole_of_program {op : Operation} {s t : Session σ Vyper2} {r : Receipt}
    (hop : ∀ address length, op ≠ .read address length)
    (h : Session.run op.program s = (.ok r, t)) : ∃ bytes, r = .whole bytes := by
  -- a program that maps its result to a whole receipt delivers nothing else
  have hmap : ∀ {α : Type} {f : α → Bytes} {x : Op σ Vyper2 α},
      Session.run ((fun a => Receipt.whole (f a)) <$> x) s = (.ok r, t) →
        ∃ bytes, r = .whole bytes := by
    intro α f x hx
    rw [run_map] at hx
    rcases hrun : Session.run x s with ⟨e | a, u⟩ <;> rw [hrun] at hx <;> cases hx
    exact ⟨f a, rfl⟩
  cases op with
  | read address length => exact absurd rfl (hop address length)
  | version room =>
    have h : Session.run (Vyper2.version room) s = (.ok r, t) := h
    unfold Vyper2.version at h
    by_cases hroom : room < Vyper2.versionSize
    · rw [if_pos hroom] at h
      cases h
    · rw [if_neg hroom, bind_pure_comp] at h
      exact hmap h
  | writeInterval seconds => cases h
  | _ => exact hmap h

/-- But for a read, nothing is delivered where an operation is cancelled. -/
theorem bytes_of_cancelled {op : Operation} {s : Session σ Vyper2}
    (h : (op.deliver (.vyper2 s)).1.outcome = .error .cancelled)
    (hop : ∀ address length, op ≠ .read address length) : (op.deliver (.vyper2 s)).1.bytes = [] := by
  rw [Operation.deliver_vyper2] at h ⊢
  rcases hrun : Session.run op.program s with ⟨e | r, t⟩
  · rfl
  · rw [hrun] at h
    obtain ⟨bytes, rfl⟩ := whole_of_program hop hrun
    exact absurd h (by simp [Receipt.ofRun, Receipt.whole])

/-- **A cancelled operation ends behind its exchange.** -/
theorem cancelled_between_packets (op : Operation) (s : Session σ Vyper2) (k : Nat) :
    ∃ cs, Interruption op s k cs (op.deliver (.vyper2 (s.under none)))
      (op.deliver (.vyper2 (s.under (some k)))) := by
  obtain ⟨cs, hmade, hfree, hwhole, hstopped⟩ := Vyper2.cut_program op (s.under none) k
  -- the token is looked at in both runs, but in the first one it is never found cancelled
  have hnever : (op.deliver (.vyper2 (s.under none))).1.outcome ≠ .error .cancelled :=
    not_cancelled_of_never op hfree
  have hstop : GoesOn k cs →
      (op.deliver (.vyper2 (s.under (some k)))).1.outcome = .error .cancelled ∧
        (op.deliver (.vyper2 (s.under (some k)))).2.calls = s.calls ++ cs.severed k := by
    -- the cancelled run behind the place where it is given up
    intro hgoes
    rw [Operation.deliver_vyper2]
    exact ⟨(hstopped hgoes).1, (hstopped hgoes).2.calls⟩
  have hsame : ¬ GoesOn k cs → op.deliver (.vyper2 (s.under (some k))) =
      -- the run that is over before the cancellation is found
      (.ofRun (Session.run op.program (s.under none)).1,
        .vyper2 ((Session.run op.program (s.under none)).2.leaving (some (k - cs.length)))) := by
    intro hgoes
    rw [Operation.deliver_vyper2]
    exact congrArg (fun x => (Receipt.ofRun x.1, Device.vyper2 x.2)) (hwhole hgoes)
  have hfree_eq := Operation.deliver_vyper2 op (s.under none)
  -- the fields of the interruption, in their order
  refine ⟨cs, ?_, hnever, ?_, ⟨fun h => ?_, fun h => (hstop h).1⟩, fun h => ?_, fun h => ?_,
    fun h => ?_, fun h => ?_, fun h hop => bytes_of_cancelled (hstop h).1 hop⟩
  · rw [hfree_eq]
    exact hmade.calls
  · by_cases hgoes : GoesOn k cs
    · exact (hstop hgoes).2
    · rw [hsame hgoes, severed_of_not hgoes]
      exact hmade.calls
  · by_contra hgoes
    rw [hsame hgoes] at h
    rw [hfree_eq] at hnever
    exact hnever h
  · rw [hsame h, hfree_eq]
    exact ⟨rfl, _, rfl, rfl⟩
  · exact pending_of_cancelled (hstop h).1 (hstop h).2
  · rintro keep rfl
    have hcancelled := (hstopped h).1
    rw [Operation.deliver_vyper2]
    exact Vyper2.handed_of_cancelled hcancelled
  · rintro address buffer rfl
    rw [Operation.deliver_vyper2]
    obtain ⟨es, i, hhistory, hfilled⟩ := Vyper2.filled_of_read address buffer (s.under (some k))
    exact ⟨_, es, i, rfl, hhistory, hfilled⟩

/-- The first of two blocks is being read when the token is cancelled: it reaches the buffer, and
the second is not asked for. -/
example :
    let bench := Bench.simulating [0x13, 1, 2, 3] (List.replicate 0x100 0x5A)
    let r := (Operation.read 0x10 130).deliver
      (.vyper2 ((Session.start bench (⟨none⟩ : Vyper2) ⟨0⟩).under (some 3)))
    r.1.bytes = List.replicate 120 0x5A ∧ r.1.outcome.isOk = false ∧ r.2.calls.length = 5 := by
  decide +kernel

end Device
end DiveLink
