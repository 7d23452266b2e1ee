import DiveLink.Bench.Rig
import DiveLink.Proofs.Handle

/-!
# The line that asks to send

A Vyper2 talks on a half-duplex line: while the line that asks to send is raised the interface
drives the wire, and the device cannot answer.  An exchange raises the line, sends its command, and
lowers the line again — unless the command was not accepted as a whole.  Then the exchange ends at
once, and the line stays raised.  In no other way is it left so.

## Main definitions

* `Vyper2.Bracketed` — where a call on the send line may stand among its neighbours.
* `Vyper2.LeftRaised` — the line was raised and not lowered again.

## Main results

* `Vyper2.bracketed_ask` — what an exchange does with the line, however it ends.
* `Device.left_raised_iff` — an operation leaves the line raised exactly if it ends on a command
  that was not accepted.
* `Device.lowered_iff_accepted` — **the line is lowered exactly behind the commands that were
  accepted.**
-/

namespace DiveLink

namespace Vyper2

open Session Transcript

/-! ### The rule -/

/-- Where a call may stand, given the calls in front of it and those behind it. -/
def Bracketed (pre : Transcript) (x : Call × Reply) (post : Transcript) : Prop :=
  match x with
  /- Behind a line that was raised comes a command, and behind that, if all of it was accepted, the
  line is lowered. -/
  | (.rts true, raised) => raised.failure = none → ∃ command sent rest,
      post = (.write command, sent) :: rest ∧ ((Call.write command).fault sent = none →
        ∃ lowered rest', rest = (.rts false, lowered) :: rest')
  -- The line is lowered only behind a command that was accepted while it was raised.
  | (.rts false, _) => ∃ front raised command sent,
      pre = front ++ [(.rts true, raised), (.write command, sent)] ∧
        raised.failure = none ∧ (Call.write command).fault sent = none
  | _ => True

theorem local_bracketed : Local Bracketed := by
  rintro front pre ⟨c, r⟩ post back h
  cases c with
  -- a pulse that stands in a part stands in the whole, with the same neighbours
  | rts level =>
    cases level with
    | false =>
      obtain ⟨front', raised, command, sent, rfl, hraise, hsent⟩ := h
      exact ⟨front ++ front', raised, command, sent, by rw [List.append_assoc], hraise, hsent⟩
    | true =>
      intro hraise
      obtain ⟨command, sent, rest, rfl, hlower⟩ := h hraise
      refine ⟨command, sent, rest ++ back, rfl, fun hsent => ?_⟩
      obtain ⟨lowered, rest', rfl⟩ := hlower hsent
      exact ⟨lowered, rest' ++ back, rfl⟩
  | _ => trivial

theorem additive_bracketed : Additive (Everywhere Bracketed) := local_bracketed.additive

/-- The line was raised, and no call behind that lowers it. -/
def LeftRaised (cs : Transcript) : Prop :=
  ∃ pre raised post, cs = pre ++ (.rts true, raised) :: post ∧ raised.failure = none ∧
    ∀ lowered, (.rts false, lowered) ∉ post

/-- Where the rule is kept, the line is lowered behind a command exactly if that was accepted. -/
theorem lowered_iff {cs pre rest : Transcript} {raised sent : Reply} {command : Bytes}
    (h : Everywhere Bracketed cs)
    (heq : cs = pre ++ (.rts true, raised) :: (.write command, sent) :: rest)
    (hraise : raised.failure = none) :
    (∃ lowered rest', rest = (.rts false, lowered) :: rest') ↔
      (Call.write command).fault sent = none := by
  constructor
  · -- the lowering is where it is only behind a command that was sent
    rintro ⟨lowered, rest', rfl⟩
    have hplaced := h (pre ++ [(.rts true, raised), (.write command, sent)]) (.rts false, lowered)
      rest' (by simp [heq])
    obtain ⟨front, raised', command', sent', hpre, -, hsent⟩ := hplaced
    obtain ⟨-, hlast⟩ := List.append_inj' hpre rfl
    cases hlast
    exact hsent
  · -- the raising is followed by its command, and by a lowering if that was sent
    intro hsent
    obtain ⟨command', sent', rest', hpost, hlower⟩ := h pre _ _ heq hraise
    cases hpost
    exact hlower hsent

/-! ### Exchanges -/

/-- A call that does not touch the line. -/
def OffLine (c : Call) : Prop := ∀ level, c ≠ .rts level

theorem bracketed_single {c : Call} (hc : OffLine c) (r : Reply) :
    Everywhere Bracketed [(c, r)] := by
  refine everywhere_singleton.2 ?_
  cases c with
  | rts level => exact absurd rfl (hc level)
  | _ => trivial

variable {raised sent lowered : Reply} {command : Bytes}

/-- A line that could not be raised is not lowered. -/
theorem bracketed_unraised {e : IoError} (h : raised.failure = some e) :
    Everywhere Bracketed [(.rts true, raised)] :=
  everywhere_singleton.2 fun hraise => absurd (h.symm.trans hraise) (by simp)

/-- Behind a command that was not accepted the line stays raised. -/
theorem bracketed_unsent {e : DeviceError} (h : (Call.write command).fault sent = some e) :
    Everywhere Bracketed [(.rts true, raised), (.write command, sent)] := by
  have hraised : Bracketed [] (.rts true, raised) [(.write command, sent)] :=
    fun _ => ⟨command, sent, [], rfl, fun hsent => absurd (h.symm.trans hsent) (by simp)⟩
  rw [everywhere_cons, everywhere_singleton]
  exact ⟨hraised, trivial⟩

/-- Behind a command that was accepted the line is lowered. -/
theorem bracketed_sent (hraise : raised.failure = none)
    (hsent : (Call.write command).fault sent = none) :
    Everywhere Bracketed [(.rts true, raised), (.write command, sent), (.rts false, lowered)] := by
  have hraised : Bracketed [] (.rts true, raised) [(.write command, sent), (.rts false, lowered)] :=
    fun _ => ⟨command, sent, _, rfl, fun _ => ⟨lowered, [], rfl⟩⟩
  have hlowered :
      Bracketed [(.rts true, raised), (.write command, sent)] (.rts false, lowered) [] :=
    ⟨[], raised, command, sent, rfl, hraise, hsent⟩
  rw [everywhere_cons, everywhere_cons, everywhere_singleton]
  exact ⟨hraised, trivial, hlowered⟩

variable {σ δ : Type} [Link σ]

/-- What an exchange does with the line, however it ends. -/
theorem bracketed_ask (settle : Nat) (command : Bytes) (parameters size : Nat) :
    Makes (Everywhere Bracketed) (Packet.ask settle command parameters size : Op σ δ Bytes) := by
  have happend : ∀ {cs cs' : Transcript}, Everywhere Bracketed cs → Everywhere Bracketed cs' →
      Everywhere Bracketed (cs ++ cs') := additive_bracketed.append
  have hrest : ∀ r, Everywhere Bracketed [(.sleep settle, r)] :=
    bracketed_single (by simp [OffLine])
  have hread : ∀ n r, Everywhere Bracketed [(.read n, r)] :=
    fun n => bracketed_single (by simp [OffLine])
  apply (Packet.makes_ask settle command parameters size).imp
  intro cs hcs
  -- an exchange takes one of five courses; each is put together from pieces that are bracketed
  cases hcs with
  | cancelled => exact additive_bracketed.nil
  | unraised hraise => exact happend (hrest _) (bracketed_unraised hraise)
  | unsent _ hsent => exact happend (hrest _) (bracketed_unsent hsent)
  | unlowered hraise hsent => exact happend (hrest _) (bracketed_sent hraise hsent)
  | lowered hraise hsent =>
    exact happend (hrest _) (happend (bracketed_sent hraise hsent) (hread _ _))

/-! ### Operations -/

/-- What is additive and holds of each exchange is kept where exchanges are put together. -/
theorem exchanging_makes {G : Transcript → Prop} (hG : Additive G)
    (hask : ∀ q : Request, Makes G
      (Packet.ask settle q.command q.parameters q.size : Op σ Vyper2 Bytes)) :
    Exchanging (σ := σ) (ρ := σ) fun _ x _ => Makes G x where
  congr h hx _ := h.congr hx
  pure a := .pure hG.nil a
  refuse _ := .throw hG.nil _
  -- the calls of the first part, then those of the second if there is one
  seq := by
    intro α β stopped x y f g fail X Y hx hX _ _ hf s
    obtain ⟨cs, hmade, hcs⟩ := hx s
    rcases hrun : run x s with ⟨e | a, t⟩ <;> rw [hrun] at hmade
    · rw [hX.error hrun]
      exact ⟨cs, hmade, hcs⟩
    · obtain ⟨cs', hmade', hcs'⟩ := hf a t
      rw [hX.ok hrun]
      exact ⟨cs ++ cs', hmade.trans hmade', hG.append hcs hcs'⟩
  returning _ h _ := h.map
  record ws := .record hG.nil ws
  emit e := .emit hG.nil e
  report walk := .bind hG (.get hG.nil) fun _ => .report hG.nil _
  ask q _ := hask q

theorem bracketed_program (op : Device.Operation) :
    Makes (Everywhere Bracketed) (op.program : Op σ Vyper2 Receipt) := by
  by_cases hop : op = .close
  · rw [hop, Device.Operation.program]
    exact ((stepwise_makes additive_bracketed fun _ hc => bracketed_single hc).attempt
      (c := .close) (by simp [OffLine])).map
  · exact Device.Operation.exchanging_program (exchanging_makes additive_bracketed fun q =>
      bracketed_ask settle q.command q.parameters q.size) hop

/-- The line is left alone while a device is set up. -/
theorem offLine_openLine :
    Makes (fun cs => ∀ x ∈ cs, OffLine x.1) (openLine : Op σ Vyper2 Unit) := by
  have hG : Additive fun cs => ∀ x ∈ cs, OffLine x.1 := additive_forall _
  have hstep : Stepwise (σ := σ) (δ := Vyper2) OffLine fun x =>
      Makes (fun cs => ∀ x ∈ cs, OffLine x.1) x :=
    stepwise_makes hG fun c hc r => by simpa using hc
  apply (hstep.attempt (by simp [OffLine])).warning.bind hG
  intro _
  apply (hstep.attempt (by simp [OffLine])).warning.bind hG
  intro _
  apply (hstep.attempt (by simp [OffLine])).warning.bind hG
  intro _
  apply (hstep.pause (by simp [OffLine])).bind hG
  intro _
  apply (hstep.attempt (by simp [OffLine])).bind hG
  intro _
  exact hstep.attempt (by simp [OffLine])

end Vyper2

namespace Device

open Session Transcript

variable {σ : Type} [Link σ]

theorem bracketed_perform (op : Operation) (d : Device σ) (hd : d.family = .vyper2) :
    ∃ cs, (op.perform d).2.calls = d.calls ++ cs ∧ Everywhere Vyper2.Bracketed cs := by
  cases d with
  | sensusPro s => exact absurd hd (by simp [family])
  | vyper2 s =>
    obtain ⟨cs, hmade, hcs⟩ := Vyper2.bracketed_program op s
    rw [Operation.perform_eq, Operation.deliver_vyper2]
    exact ⟨cs, hmade.calls, hcs⟩

/-- **An operation leaves the line raised exactly if it ends on a command that was not accepted**,
and then it fails with the error of that command. -/
theorem left_raised_iff (op : Operation) (s : Session σ Vyper2) :
    ∃ cs, (op.perform (vyper2 s)).2.calls = s.calls ++ cs ∧
      (Vyper2.LeftRaised cs ↔ ∃ front raised command sent e,
        cs = front ++ [(.rts true, raised), (.write command, sent)] ∧ raised.failure = none ∧
          (Call.write command).fault sent = some e ∧ (op.perform (vyper2 s)).1 = .error e) := by
  obtain ⟨cs, hcalls, hbracketed⟩ := bracketed_perform op (vyper2 s) rfl
  obtain ⟨cs', hcalls', hfails⟩ := perform_failsFast op (vyper2 s)
  obtain rfl : cs = cs' := List.append_cancel_left (hcalls.symm.trans hcalls')
  refine ⟨cs, hcalls, ?_⟩
  constructor
  · rintro ⟨pre, raised, post, rfl, hraise, hnot⟩
    obtain ⟨command, sent, rest, rfl, hlower⟩ := hbracketed pre _ _ rfl hraise
    cases hsent : (Call.write command).fault sent with
    | none =>
      obtain ⟨lowered, rest', rfl⟩ := hlower hsent
      exact absurd (by simp) (hnot lowered)
    | some e =>
      -- a command that is not accepted is the last call
      have hlast := hfails.last (pre ++ [(.rts true, raised)]) (.write command) sent rest e
        (by simp) hsent (by simp)
      obtain ⟨rfl, hresult⟩ := hlast
      exact ⟨pre, raised, command, sent, e, rfl, hraise, hsent, hresult⟩
  · rintro ⟨front, raised, command, sent, e, rfl, hraise, -, -⟩
    exact ⟨front, raised, [(.write command, sent)], rfl, hraise, by simp⟩

/-- **The line is lowered exactly behind the commands that were accepted.** -/
theorem lowered_iff_accepted :
    (∀ (link : σ) (token : CancelToken) (level : Bool) (r : Reply),
      (.rts level, r) ∉ (openLink .vyper2 link token).calls) ∧
    (∀ (s : Session σ Vyper2) (as : List (Action σ)),
      ∃ cs, (after as (vyper2 s)).calls = s.calls ++ cs ∧
        (∀ pre raised post, cs = pre ++ (.rts true, raised) :: post → raised.failure = none →
          ∃ command sent rest, post = (.write command, sent) :: rest ∧
            ((∃ lowered rest', rest = (.rts false, lowered) :: rest') ↔
              (Call.write command).fault sent = none)) ∧
        ∀ pre lowered post, cs = pre ++ (.rts false, lowered) :: post →
          ∃ front raised command sent,
            pre = front ++ [(.rts true, raised), (.write command, sent)] ∧
              raised.failure = none ∧ (Call.write command).fault sent = none) ∧
    ∀ (op : Operation) (s : Session σ Vyper2),
      ∃ cs, (op.perform (vyper2 s)).2.calls = s.calls ++ cs ∧
        (Vyper2.LeftRaised cs ↔ ∃ front raised command sent e,
          cs = front ++ [(.rts true, raised), (.write command, sent)] ∧ raised.failure = none ∧
            (Call.write command).fault sent = some e ∧ (op.perform (vyper2 s)).1 = .error e) := by
  refine ⟨?_, ?_, left_raised_iff⟩
  · -- opening makes no call to the line
    intro link token level r hmem
    have hoff : ∀ x ∈ (openLink .vyper2 link token).calls, Vyper2.OffLine x.1 :=
      calls_openSession (fun _ => rfl) Vyper2.offLine_openLine link ⟨none⟩ token
    exact hoff _ hmem level rfl
  · -- the calls of a run of actions are bracketed as a whole
    intro s as
    obtain ⟨cs, hcalls, hbracketed⟩ :=
      calls_after Vyper2.additive_bracketed bracketed_perform as (vyper2 s) rfl
    refine ⟨cs, hcalls, fun pre raised post heq hraise => ?_, fun pre lowered post heq => ?_⟩
    · obtain ⟨command, sent, rest, rfl, -⟩ := hbracketed pre _ _ heq hraise
      exact ⟨command, sent, rest, rfl, Vyper2.lowered_iff hbracketed heq hraise⟩
    · exact hbracketed pre _ _ heq

/-- A command of which the link takes two bytes: the operation ends, and the line stays raised. -/
theorem left_raised_behind_short_command :
    let bench : Bench.LinkBench :=
      { rig := { waiting := [], script := { faults := [⟨⟨"write", 1⟩, .short 2⟩] } },
        around := { now := 1600000000 } }
    ∃ d, openLink .vyper2 bench ⟨0⟩ = .opened d ∧
      ((Operation.version 4).perform d).1 = .error .timeout ∧
      ∃ cs, ((Operation.version 4).perform d).2.calls = d.calls ++ cs ∧
        cs.map Prod.fst = [.sleep 600, .rts true, .write [0x0F, 0x00, 0x00, 0x0F]] ∧
        Vyper2.LeftRaised cs := by
  intro bench
  -- the run is evaluated in parts: the opening, the result and the calls
  obtain ⟨d, hd⟩ : ∃ d, d = vyper2 (Session.run Vyper2.openLine (.start bench ⟨none⟩ ⟨0⟩)).2 :=
    ⟨_, rfl⟩
  have hopen : openLink .vyper2 bench ⟨0⟩ = .opened d := by
    rw [hd]
    rfl
  have hresult : ((Operation.version 4).perform d).1 = .error .timeout := by
    rw [hd]
    decide +kernel
  have hcalls : ((Operation.version 4).perform d).2.calls = d.calls ++
      [(.sleep 600, ⟨[], 0, none⟩), (.rts true, ⟨[], 0, none⟩),
        (.write [0x0F, 0x00, 0x00, 0x0F], ⟨[], 2, none⟩)] := by
    rw [hd]
    decide +kernel
  exact ⟨d, hopen, hresult, _, hcalls, rfl, [(.sleep 600, ⟨[], 0, none⟩)], ⟨[], 0, none⟩, _, rfl,
    rfl, by simp⟩

end Device
end DiveLink
