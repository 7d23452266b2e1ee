import DiveLink.Proofs.Port.Transfer
import DiveLink.Session

/-!
# Reads and writes of a serial line

A read hands its caller the next bytes that come in, and a write brings the first of its bytes out,
each of them once and in order.  How the port cuts them up makes no difference, and so it is over
any number of calls, whatever calls lie between them.

## Main definitions

* `SerialLine.Adds`, `SerialLine.Moves` — what was added to the journal from one line to another,
  and the bytes that came in and went out.
* `SerialLine.Quiet` — a program that moves no bytes.
* `SerialLine.Reads`, `SerialLine.Writes` — what a read and a write make of the port.
* `Link.calls`, `Call.sent` — calls one after the other, and the bytes that one of them has sent.

## Main results

* `SerialLine.reads`, `SerialLine.writes` — **a read brings the next bytes that come in, and a write
  sends the first of its bytes.**
* `SerialLine.moves_calls` — **over any number of calls the bytes that were read are those that
  came in, and the bytes that were written are those that went out.**
-/

namespace DiveLink

/-- Whether a call moves bytes. -/
def PortCall.isTransfer : PortCall → Bool
  | read _ | write _ => true
  | _ => false

/-- The bytes that a call has sent, if it did not fail. -/
def Call.sent (r : Reply) : Call → Bytes
  | write data => data.take r.accepted
  | _ => []

/-- Calls one after the other: their replies, and the link behind them. -/
def Link.calls {σ : Type} [Link σ] : List Call → σ → List Reply × σ
  | [], x => ([], x)
  | c :: cs, x =>
    let (r, x) := Link.call c x
    let (rs, x) := Link.calls cs x
    (r :: rs, x)

namespace SerialLine

variable {η : Type} {α β : Type} {line line' line'' : SerialLine η} {es es' : List PortEntry}

/-! ### Programs on a line -/

theorem bind_ok {x : Op η α} {a : α} (h : x line = .ok a line') (f : α → Op η β) :
    (x >>= f) line = f a line' := by
  simp only [Bind.bind, EStateM.bind, h]

theorem bind_error {x : Op η α} {e : IoError} (h : x line = .error e line') (f : α → Op η β) :
    (x >>= f) line = .error e line' := by
  simp only [Bind.bind, EStateM.bind, h]

/-! ### The journal of a line -/

/-- From the first line to the second the entries `es` were added to the journal. -/
structure Adds (es : List PortEntry) (line line' : SerialLine η) : Prop where
  name : line'.name = line.name
  journal : line'.ports.journal = es.reverse ++ line.ports.journal

theorem Adds.refl (line : SerialLine η) : Adds [] line line := ⟨rfl, rfl⟩

theorem Adds.trans (h : Adds es line line') (h' : Adds es' line' line'') :
    Adds (es ++ es') line line'' :=
  ⟨h'.name.trans h.name, by rw [h'.journal, h.journal, List.reverse_append, List.append_assoc]⟩

theorem Adds.incoming (h : Adds es line line') :
    line'.ports.incoming = line.ports.incoming ++ es.flatMap PortEntry.incoming :=
  Ports.incoming_append h.journal

theorem Adds.outgoing (h : Adds es line line') :
    line'.ports.outgoing = line.ports.outgoing ++ es.flatMap PortEntry.outgoing :=
  Ports.outgoing_append h.journal

/-- From the first line to the second, `received` came in and `sent` went out. -/
structure Moves (received sent : Bytes) (line line' : SerialLine η) : Prop where
  name : line'.name = line.name
  incoming : line'.ports.incoming = line.ports.incoming ++ received
  outgoing : line'.ports.outgoing = line.ports.outgoing ++ sent

theorem Moves.refl (line : SerialLine η) : Moves [] [] line line :=
  ⟨rfl, (List.append_nil _).symm, (List.append_nil _).symm⟩

theorem Moves.trans {received received' sent sent' : Bytes} (h : Moves received sent line line')
    (h' : Moves received' sent' line' line'') :
    Moves (received ++ received') (sent ++ sent') line line'' where
  name := h'.name.trans h.name
  incoming := by rw [h'.incoming, h.incoming, List.append_assoc]
  outgoing := by rw [h'.outgoing, h.outgoing, List.append_assoc]

/-- No byte has moved with the entries. -/
structure Still (es : List PortEntry) : Prop where
  incoming : es.flatMap PortEntry.incoming = []
  outgoing : es.flatMap PortEntry.outgoing = []

theorem Still.nil : Still [] := ⟨rfl, rfl⟩

theorem Still.append (h : Still es) (h' : Still es') : Still (es ++ es') :=
  ⟨by rw [List.flatMap_append, h.incoming, h'.incoming, List.append_nil],
    by rw [List.flatMap_append, h.outgoing, h'.outgoing, List.append_nil]⟩

/-- A call that is no transfer moves no byte. -/
theorem Still.call {c : PortCall} (hc : c.isTransfer = false) (port : String) (r : PortReply) :
    Still [.call port c r] := by
  cases c with
  | read n => exact Bool.noConfusion hc
  | write data => exact Bool.noConfusion hc
  | _ => exact ⟨rfl, rfl⟩

theorem Still.moves (h : Still es) (hadds : Adds es line line') : Moves [] [] line line' where
  name := hadds.name
  incoming := by rw [hadds.incoming, h.incoming]
  outgoing := by rw [hadds.outgoing, h.outgoing]

/-- The line behind a program, whichever way it ends. -/
def behind (x : Op η α) (line : SerialLine η) : SerialLine η :=
  match x line with
  | .ok _ line => line
  | .error _ line => line

/-- The program moves no byte, whatever else it does. -/
def Quiet (x : Op η α) : Prop := ∀ line, ∃ es, Adds es line (behind x line) ∧ Still es

namespace Quiet

theorem pure (a : α) : Quiet (pure a : Op η α) := fun line => ⟨[], .refl line, .nil⟩

theorem throw (e : IoError) : Quiet (throw e : Op η α) := fun line => ⟨[], .refl line, .nil⟩

theorem get : Quiet (get : Op η (SerialLine η)) := fun line => ⟨[], .refl line, .nil⟩

theorem modify {f : SerialLine η → SerialLine η} (hname : ∀ line, (f line).name = line.name)
    (hports : ∀ line, (f line).ports = line.ports) : Quiet (modify f : Op η PUnit) :=
  fun line => ⟨[], ⟨hname line, congrArg Ports.journal (hports line)⟩, .nil⟩

theorem bind {x : Op η α} {f : α → Op η β} (hx : Quiet x) (hf : ∀ a, Quiet (f a)) :
    Quiet (x >>= f) := by
  intro line
  obtain ⟨es, hes, hstill⟩ := hx line
  unfold behind at hes ⊢
  cases hrun : x line with
  | error e line' =>
    -- a failure ends the program, so nothing is added to what the first part did
    rw [hrun] at hes
    rw [bind_error hrun]
    exact ⟨es, hes, hstill⟩
  | ok a line' =>
    rw [hrun] at hes
    obtain ⟨es', hes', hstill'⟩ := hf a line'
    rw [bind_ok hrun]
    exact ⟨es ++ es', hes.trans hes', hstill.append hstill'⟩

variable [SerialHost η]

theorem sleep (us : Nat) : Quiet (sleep us : Op η Unit) := by
  intro line
  by_cases hus : us = 0
  · refine ⟨[], ⟨rfl, ?_⟩, .nil⟩
    show (line.ports.sleep us).journal = _
    rw [Ports.sleep, if_pos hus]
    rfl
  · refine ⟨[.slept us], ⟨rfl, ?_⟩, rfl, rfl⟩
    show (line.ports.sleep us).journal = _
    rw [Ports.sleep, if_neg hus]
    rfl

theorem perform {c : PortCall} (hc : c.isTransfer = false) :
    Quiet (perform c : Op η PortReply) :=
  fun line => ⟨[.call line.name c (line.ports.call line.name c).1], ⟨rfl, rfl⟩, .call hc _ _⟩

theorem attempt {c : PortCall} (hc : c.isTransfer = false) :
    Quiet (attempt c : Op η PortReply) := by
  refine (perform hc).bind fun reply => ?_
  cases reply.failure with
  | none => exact .pure reply
  | some e => exact .throw e.toIoError

end Quiet

/-! ### Reads and writes -/

/-- A read of `n` bytes, which adds the entries `es` to the journal. -/
structure Reads (n : Nat) (line : SerialLine η) (es : List PortEntry) (reply : Reply)
    (line' : SerialLine η) : Prop where
  adds : Adds es line line'
  faithful : Faithful line.name (.read n) es reply.received reply.failure
  /-- What came in is what was read. -/
  incoming : es.flatMap PortEntry.incoming = reply.received
  outgoing : es.flatMap PortEntry.outgoing = []

/-- A write of some bytes, of which the bytes `sent` are sent until there is the failure `e`, if
there is one: it adds the entries `es` to the journal, and behind them the entries `rest` of waiting
for the wire. -/
structure Writes (data : Bytes) (line : SerialLine η) (es rest : List PortEntry) (sent : Bytes)
    (e : Option IoError) (reply : Reply) (line' : SerialLine η) : Prop where
  adds : Adds (es ++ rest) line line'
  faithful : Faithful line.name (.write data) es sent e
  /-- What went out is what was sent, and it is the first of what was to be sent. -/
  outgoing : es.flatMap PortEntry.outgoing = sent
  first : sent <+: data
  incoming : es.flatMap PortEntry.incoming = []
  still : Still rest
  /-- A write that succeeds tells how many bytes were sent. -/
  accepted : reply.failure = none → e = none ∧ reply.accepted = sent.length
  /-- The failure of the transfer is that of the write. -/
  failed : ∀ cause, e = some cause → reply.failure = some cause
  /-- Where the transfer does not fail, a failure is that of waiting, as it is. -/
  unwaited : e = none → ∀ cause, reply.failure = some cause → line.halfDuplex = true ∧
    ∃ r f, rest = [.call line.name .flush r] ∧ r.failure = some f ∧ f.toIoError = cause

theorem Reads.moves {n : Nat} {reply : Reply} (h : Reads n line es reply line') :
    Moves reply.received [] line line' where
  name := h.adds.name
  incoming := by rw [h.adds.incoming, h.incoming]
  outgoing := by rw [h.adds.outgoing, h.outgoing]

theorem Writes.moves {data sent : Bytes} {e : Option IoError} {reply : Reply}
    {rest : List PortEntry} (h : Writes data line es rest sent e reply line') :
    Moves [] sent line line' where
  name := h.adds.name
  incoming := by
    rw [h.adds.incoming, List.flatMap_append, h.incoming, h.still.incoming, List.append_nil]
  outgoing := by
    rw [h.adds.outgoing, List.flatMap_append, h.outgoing, h.still.outgoing, List.append_nil]

/-- A write that succeeds has sent as many of its bytes as it says. -/
theorem Writes.sent_eq {data sent : Bytes} {e : Option IoError} {reply : Reply}
    {rest : List PortEntry} (h : Writes data line es rest sent e reply line')
    (hreply : reply.failure = none) : sent = data.take reply.accepted := by
  rw [(h.accepted hreply).2]
  exact List.prefix_iff_eq_take.1 h.first

/-- A call of which only the failure is of interest delivers no byte. -/
theorem replyOf_silently (x : Op η α) (line : SerialLine η) :
    (replyOf (silently x) line).1.received = [] ∧
      (replyOf (silently x) line).2 = behind x line := by
  unfold replyOf behind silently
  cases hrun : x line with
  | ok a line' =>
    rw [bind_ok hrun]
    exact ⟨rfl, rfl⟩
  | error e line' =>
    rw [bind_error hrun]
    exact ⟨rfl, rfl⟩

/-! ### Transfers -/

variable [SerialHost η]

theorem attempt_eq (c : PortCall) (line : SerialLine η) :
    attempt c line =
      match (line.ports.call line.name c).1.failure with
      | none => .ok (line.ports.call line.name c).1
          { line with ports := (line.ports.call line.name c).2 }
      | some e => .error e.toIoError { line with ports := (line.ports.call line.name c).2 } := by
  obtain ⟨x, hx⟩ : ∃ x, x = line.ports.call line.name c := ⟨_, rfl⟩
  have hperform : perform c line = .ok x.1 { line with ports := x.2 } := by
    rw [hx]
    rfl
  rw [← hx, attempt, bind_ok hperform]
  cases x.1.failure <;> rfl

/-- Sending is a transfer of the port, whose failure ends it. -/
theorem send_eq (data : Bytes) (line : SerialLine η) :
    send data line =
      match line.ports.transfer line.name (.write data) with
      | ((sent, none), ports) => .ok sent { line with ports }
      | ((_, some e), ports) => .error e { line with ports } := by
  obtain ⟨x, hx⟩ : ∃ x, x = line.ports.transfer line.name (.write data) := ⟨_, rfl⟩
  have htransfer : transfer (.write data) line = .ok x.1 { line with ports := x.2 } := by
    rw [hx]
    rfl
  rw [← hx, send, bind_ok htransfer]
  obtain ⟨⟨b, _ | e⟩, q⟩ := x <;> rfl

theorem write_error {data : Bytes} {e : IoError} (h : send data line = .error e line') :
    write data line = .error e line' :=
  (bind_ok rfl _).trans (bind_error h _)

/-- A write that was sent waits for the wire. -/
theorem write_sent {data sent : Bytes} (h : send data line = .ok sent line') :
    write data line =
      match drain (SerialHost.clock line.ports.host) sent.length line' with
      | .ok _ line'' => .ok sent.length line''
      | .error e line'' => .error e line'' := by
  refine (bind_ok rfl _).trans ((bind_ok h _).trans ?_)
  cases hdrain : drain (SerialHost.clock line.ports.host) sent.length line' with
  | ok _ line'' => exact bind_ok hdrain _
  | error e line'' => exact bind_error hdrain _

theorem call_write (data : Bytes) (line : SerialLine η) :
    Link.call (.write data) line =
      match write data line with
      | .ok n line' => ({ accepted := n }, line')
      | .error e line' => ({ failure := some e }, line') := by
  show replyOf (write data >>= fun n => pure { accepted := n }) line = _
  unfold replyOf
  cases hwrite : write data line with
  | ok n line' => rw [bind_ok hwrite]; rfl
  | error e line' => rw [bind_error hwrite]

theorem quiet_drain (start n : Nat) : Quiet (drain start n : Op η Unit) := by
  refine Quiet.get.bind fun line => ?_
  cases line.halfDuplex with
  | false => exact .pure ()
  | true =>
    have hclock : Quiet (clock : Op η Nat) := Quiet.get.bind fun line => .pure _
    exact (Quiet.attempt rfl).bind fun _ => hclock.bind fun _ => .sleep _

/-- A line that waits fails where the port does, and as it does. -/
theorem drain_error {start n : Nat} {e : IoError} (h : drain start n line = .error e line') :
    line.halfDuplex = true ∧ ∃ r f, line'.ports.journal =
      .call line.name .flush r :: line.ports.journal ∧ r.failure = some f ∧ f.toIoError = e := by
  have hget : (get : Op η (SerialLine η)) line = .ok line line := rfl
  rw [drain, bind_ok hget] at h
  cases hduplex : line.halfDuplex with
  -- without half-duplex mode nothing is waited for, and nothing can fail
  | false =>
    rw [hduplex] at h
    exact absurd h (by simp [pure, EStateM.pure])
  | true =>
    refine ⟨rfl, ?_⟩
    rw [hduplex, if_pos rfl] at h
    have hflush := attempt_eq .flush line
    cases hfailure : (line.ports.call line.name .flush).1.failure with
    -- behind a flush that succeeds there is only a sleep, which does not fail
    | none =>
      rw [hfailure] at hflush
      rw [bind_ok hflush] at h
      change EStateM.Result.ok _ _ = _ at h
      cases h
    | some f =>
      rw [hfailure] at hflush
      rw [bind_error hflush] at h
      cases h
      exact ⟨_, f, rfl, hfailure, rfl⟩

/-! ### What a read and a write make of the port -/

/-- **A read brings the next bytes that come in**, and tells why it is short. -/
theorem reads (hport : Honest η line.name) (n : Nat) :
    ∃ es, Reads n line es (Link.call (.read n) line).1 (Link.call (.read n) line).2 := by
  obtain ⟨es, hjournal, hreplied, h⟩ := (Ports.transfers line.name (.read n) line.ports).faithful
  exact ⟨es, ⟨rfl, hjournal⟩, h, h.incoming_read hport hreplied, h.outgoing_read⟩

/-- **A write sends the first of its bytes**, and tells why these are not all. -/
theorem writes (data : Bytes) (line : SerialLine η) : ∃ es rest sent e,
    Writes data line es rest sent e (Link.call (.write data) line).1
      (Link.call (.write data) line).2 := by
  have htransfers := Ports.transfers line.name (.write data) line.ports
  have hsend := send_eq data line
  obtain ⟨⟨⟨sent, e⟩, q⟩, hq⟩ : ∃ x, x = line.ports.transfer line.name (.write data) := ⟨_, rfl⟩
  rw [← hq] at htransfers hsend
  obtain ⟨es, hjournal, -, h⟩ := htransfers.faithful
  have hadds : Adds es line { line with ports := q } := ⟨rfl, hjournal⟩
  rw [call_write]
  cases e with
  | some cause =>
    rw [write_error hsend]
    refine ⟨es, [], sent, some cause, ?_, h, h.outgoing_write, htransfers.sent, h.incoming_write,
      .nil, fun h => absurd h (by simp), fun _ h => h, fun h => absurd h (by simp)⟩
    rwa [List.append_nil]
  | none =>
    rw [write_sent hsend]
    obtain ⟨rest, hrest, hstill⟩ :=
      quiet_drain (SerialHost.clock line.ports.host) sent.length { line with ports := q }
    unfold behind at hrest
    cases hdrain : drain (SerialHost.clock line.ports.host) sent.length
        { line with ports := q } with
    | ok _ line' =>
      rw [hdrain] at hrest
      exact ⟨es, rest, sent, none, hadds.trans hrest, h, h.outgoing_write, htransfers.sent,
        h.incoming_write, hstill, fun _ => ⟨rfl, rfl⟩, fun _ h => absurd h (by simp),
        fun _ _ h => absurd h (by simp)⟩
    | error cause line' =>
      rw [hdrain] at hrest
      obtain ⟨hduplex, r, f, hflush, hfailure, rfl⟩ := drain_error hdrain
      -- the only entry of a line that waits in vain is the one that says so
      have heq : rest = [.call line.name .flush r] := by
        have hreverse : rest.reverse = [.call line.name .flush r] :=
          List.append_cancel_right (hrest.journal.symm.trans hflush)
        exact List.reverse_eq_iff.1 hreverse
      refine ⟨es, rest, sent, none, hadds.trans hrest, h, h.outgoing_write, htransfers.sent,
        h.incoming_write, hstill, fun h => absurd h (by simp), fun _ h => absurd h (by simp),
        fun _ cause h => ?_⟩
      cases h
      exact ⟨hduplex, r, f, heq, hfailure, rfl⟩

/-! ### Any number of calls -/

theorem quiet_configure (s : LineSettings) : Quiet (configure s : Op η Unit) :=
  (Quiet.attempt rfl).bind fun _ => (Quiet.attempt rfl).bind fun _ => (Quiet.attempt rfl).bind
    fun _ => (Quiet.attempt rfl).bind fun _ => (Quiet.attempt rfl).bind fun _ =>
      .modify (fun _ => rfl) fun _ => rfl

/-- What a call has read came in, and what it has written went out. -/
theorem moves_call (hport : Honest η line.name) (c : Call) :
    ∃ sent, Moves (Link.call c line).1.received sent line (Link.call c line).2 ∧
      ((Link.call c line).1.failure = none → sent = c.sent (Link.call c line).1) := by
  -- a call that moves no byte adds entries that leave the bytes in and out as they are
  have hquiet : ∀ {α : Type} {x : Op η α}, Quiet x → program c = silently x →
      c.sent (Link.call c line).1 = [] →
        ∃ sent, Moves (Link.call c line).1.received sent line (Link.call c line).2 ∧
          ((Link.call c line).1.failure = none → sent = c.sent (Link.call c line).1) := by
    intro α x hx hprogram hsent
    have hcall : Link.call c line = replyOf (silently x) line := by rw [← hprogram]; rfl
    obtain ⟨hreceived, hbehind⟩ := replyOf_silently x line
    obtain ⟨es, hadds, hstill⟩ := hx line
    rw [hsent, hcall, hreceived, hbehind]
    exact ⟨[], hstill.moves hadds, fun _ => rfl⟩
  -- only a read and a write move bytes
  cases c with
  | read n =>
    obtain ⟨es, h⟩ := reads hport n
    exact ⟨[], h.moves, fun _ => rfl⟩
  | write data =>
    obtain ⟨es, rest, sent, e, h⟩ := writes data line
    have hreceived : (Link.call (.write data) line).1.received = [] := by
      rw [call_write]
      cases write data line <;> rfl
    rw [hreceived]
    exact ⟨sent, h.moves, fun hreply => h.sent_eq hreply⟩
  | configure s => exact hquiet (quiet_configure s) rfl rfl
  | timeout ms => exact hquiet (.attempt rfl) rfl rfl
  | breakLine level => exact hquiet (.attempt rfl) rfl rfl
  | dtr level => exact hquiet (.attempt rfl) rfl rfl
  | rts level => exact hquiet (.attempt rfl) rfl rfl
  | halfDuplex enable =>
    exact hquiet (.modify (f := fun line => { line with halfDuplex := enable }) (fun _ => rfl)
      fun _ => rfl) rfl rfl
  | flush queue => exact hquiet (.attempt rfl) rfl rfl
  | sleep ms => exact hquiet (.sleep _) rfl rfl
  | close => exact ⟨[], .refl line, fun _ => rfl⟩

/-- **Over any number of calls, what was read came in, and what was written went out**, each byte
once and in order. -/
theorem moves_calls (cs : List Call) {line : SerialLine η} (hport : Honest η line.name) :
    ∃ sent, Moves ((Link.calls cs line).1.flatMap Reply.received) sent line (Link.calls cs line).2 ∧
      ((∀ r ∈ (Link.calls cs line).1, r.failure = none) →
        sent = (cs.zip (Link.calls cs line).1).flatMap fun x => x.1.sent x.2) := by
  induction cs generalizing line with
  | nil => exact ⟨[], .refl line, fun _ => rfl⟩
  | cons c cs ih =>
    obtain ⟨sent, hmoves, hsent⟩ := moves_call hport c
    have hport' : Honest η (Link.call c line).2.name := by rwa [hmoves.name]
    obtain ⟨sent', hmoves', hsent'⟩ := ih hport'
    refine ⟨sent ++ sent', hmoves.trans hmoves', fun h => ?_⟩
    rw [hsent (h _ List.mem_cons_self), hsent' fun r hr => h r (List.mem_cons_of_mem _ hr)]
    rfl

end SerialLine
end DiveLink
