import DiveLink.Proofs.Dump

/-!
# What a Sensus Pro says when it is woken

A handshake is accepted if the break condition was raised and ended, and a whole frame has arrived
in between that ends in its check.  Then the host remembers what the frame says and what time it is,
and reports both; in any other case nothing is remembered and nothing reported.  Whether the
operation behind it ends well makes no difference.

## Main definitions

* `Greeting` — what an accepted frame says, and when it was there.
* `Greeting.first?`, `Greeting.heard` — the greetings that some calls to a link have brought.
* `SensusPro.Attended s t es` — between two sessions each greeting was remembered and reported.
* `SensusPro.Attends` — a program that remembers and reports each greeting, and changes nothing
  else.

## Main results

* `SensusPro.greeted` — **a handshake delivers a greeting, or leaves no trace of one.**
* `SensusPro.attends_wake`, `SensusPro.attends_dump`, `SensusPro.attends_writeInterval` — programs
  that attend to greetings.
-/

namespace DiveLink

/-- The link behind some calls. -/
def Link.behind {σ : Type} [Link σ] (calls : List Call) (link : σ) : σ :=
  calls.foldl (fun l c => (Link.call c l).2) link

/-- What the frame of an accepted handshake says, and the time of the host when it was there. -/
structure Greeting where
  payload : Bytes
  time : Nat
  deriving DecidableEq, Repr

namespace Greeting

/-- The clocks at the handshake: that of the device stands in four bytes from the seventh on. -/
def clock (g : Greeting) : Clock := ⟨g.time, Bytes.le32 (g.payload.drop 6)⟩

/-- What is reported of a greeting. -/
def events (g : Greeting) : List Event := [.clock g.clock, .devInfo (SensusPro.identity g.payload)]

/-! ### Greetings among calls -/

/-- The calls of a handshake. -/
def knock : List Call := [.breakLine true, .read 12, .breakLine false]

variable {σ : Type} [Link σ]

/-- The greeting that the first calls to a link have brought: they are those of a handshake, none of
them failed, all bytes have arrived, and these are ten and their check. -/
def first? (link : σ) : Transcript → Option Greeting
  | (c₁, raised) :: (c₂, got) :: (c₃, lowered) :: _ =>
    if [c₁, c₂, c₃] = knock ∧ raised.failure = none ∧ got.failure = none ∧
        got.received.length = 12 ∧ lowered.failure = none ∧
        got.received = Checksum.withCrc16 (got.received.take 10) then
      some ⟨got.received.take 10, (Link.now (Link.behind knock link)).toNat⟩
    else none
  | _ => none

/-- The greetings that some calls to a link have brought. -/
def heard (link : σ) : Transcript → List Greeting
  | [] => []
  | c :: cs => (first? link (c :: cs)).toList ++ heard (Link.call c.1 link).2 cs

variable {link : σ} {x y z : Call × Reply} {cs quiet : Transcript}

theorem first?_eq_none (h : [x.1, y.1, z.1] ≠ knock) : first? link (x :: y :: z :: cs) = none :=
  if_neg fun hall => h hall.1

/-- The calls have nothing to do with a break condition. -/
def Unbroken (cs : Transcript) : Prop := ∀ x ∈ cs, ∀ level, x.1 ≠ .breakLine level

/-- Without a break condition no handshake is completed. -/
theorem first?_append (h : Unbroken quiet) : ∀ cs : Transcript,
    first? link (cs ++ quiet) = first? link cs := by
  -- the third call of a handshake ends the break condition
  have hthird : ∀ x y : Call × Reply, ∀ q, Unbroken q → first? link (x :: y :: q) = none := by
    intro x y q hq
    rcases q with _ | ⟨z, q⟩
    · rfl
    · refine first?_eq_none fun hknock => hq z List.mem_cons_self false ?_
      exact (List.cons.inj (List.cons.inj (List.cons.inj hknock).2).2).1
  intro cs
  rcases cs with _ | ⟨x, _ | ⟨y, _ | ⟨z, cs⟩⟩⟩
  · rcases quiet with _ | ⟨x, _ | ⟨y, q⟩⟩
    · rfl
    · rfl
    · exact hthird x y q fun z hz => h z (List.mem_cons_of_mem x (List.mem_cons_of_mem y hz))
  · rcases quiet with _ | ⟨y, q⟩
    · rfl
    · exact hthird x y q fun z hz => h z (List.mem_cons_of_mem y hz)
  · exact hthird x y quiet h
  · rfl

theorem heard_unbroken : ∀ {cs : Transcript} (link : σ), Unbroken cs → heard link cs = [] := by
  intro cs
  induction cs with
  | nil => exact fun _ _ => rfl
  | cons x cs ih =>
    intro link h
    have hnone : first? link ([] ++ x :: cs) = none := first?_append h []
    rw [List.nil_append] at hnone
    rw [heard, hnone, ih _ fun y hy => h y (List.mem_cons_of_mem x hy)]
    rfl

/-- What follows without a break condition brings no greeting. -/
theorem heard_append (h : Unbroken quiet) : ∀ (cs : Transcript) (link : σ),
    heard link (cs ++ quiet) = heard link cs := by
  intro cs
  induction cs with
  | nil => exact fun link => heard_unbroken link h
  | cons x cs ih =>
    intro link
    rw [List.cons_append, heard, ← List.cons_append, first?_append h, ih, heard]

end Greeting

/-! ### Entries of a greeting -/

/-- The report of a greeting that an entry tells of. -/
def Entry.introduction? : Entry → Option Event
  | .event (.clock c) => some (.clock c)
  | .event (.devInfo i) => some (.devInfo i)
  | _ => none

/-- The entry belongs to no handshake. -/
structure Entry.Plain (e : Entry) : Prop where
  call : ∀ level r, e ≠ .call (.breakLine level) r
  event : e.introduction? = none

theorem Entry.plain_call {c : Call} (h : ∀ level, c ≠ .breakLine level) (r : Reply) :
    (Entry.call c r).Plain :=
  ⟨fun level _ heq => h level (Entry.call.inj heq).1, rfl⟩

theorem Entry.plain_warning (w : Warning) : (Entry.warning w).Plain := ⟨by simp, rfl⟩

theorem Entry.plain_progress (p : Progress) : (Entry.event (.progress p)).Plain := ⟨by simp, rfl⟩

theorem Entry.plain_dive (d : Dive) : (Entry.dive d).Plain := ⟨by simp, rfl⟩

variable {es : List Entry}

theorem Entry.unbroken_of_plain (h : ∀ e ∈ es, e.Plain) :
    Greeting.Unbroken (es.filterMap Entry.call?) := by
  intro x hx level hlevel
  obtain ⟨e, he, hcall⟩ := List.mem_filterMap.1 hx
  cases e with
  | call c r =>
    obtain rfl : (c, r) = x := Option.some.inj hcall
    exact (h _ he).call level r (by rw [← hlevel])
  | _ => exact absurd hcall (by simp [Entry.call?])

theorem Entry.introduction?_of_plain (h : ∀ e ∈ es, e.Plain) :
    es.filterMap Entry.introduction? = [] :=
  List.filterMap_eq_nil_iff.2 fun e he => (h e he).event

open Session

theorem stepwise_plain {σ δ : Type} [Link σ] :
    Stepwise (σ := σ) (δ := δ) (fun c => ∀ level, c ≠ .breakLine level)
      fun x => Records Entry.Plain x :=
  stepwise_records fun _ => Entry.plain_call

/-! ### Handshakes -/

namespace SensusPro

section Handshake

variable {σ δ : Type} [Link σ]

theorem heard_knocking (s : Session σ δ) : Greeting.heard s.link (knocking 10 s) =
    (Greeting.first? s.link (knocking 10 s)).toList := by
  unfold Greeting.heard
  exact List.append_nil _

/-- The calls of a handshake bring a greeting exactly if each of them went well and the frame ends
in its check. -/
theorem first?_knocking (s : Session σ δ) : Greeting.first? s.link (knocking 10 s) =
    if (reply (.breakLine true) s).failure = none ∧ (frameReply 10 s).failure = none ∧
        (frameReply 10 s).received.length = 12 ∧ (lowerReply 10 s).failure = none ∧
        (frameReply 10 s).received = Checksum.withCrc16 ((frameReply 10 s).received.take 10) then
      some ⟨(frameReply 10 s).received.take 10, (Link.now (knocked 10 s).link).toNat⟩
    else none := by
  unfold knocking Greeting.first?
  simp only [Greeting.knock, true_and]
  rfl

/-- Either a handshake delivers the payload of its greeting, or it fails, makes no greeting and
reports nothing. -/
inductive Greeted (s : Session σ δ) : Except DeviceError Bytes → Session σ δ → Prop
  | refused {e : DeviceError} {t : Session σ δ} {es : List Entry} (hgrows : Grows s t es)
      (hheard : Greeting.heard s.link (es.filterMap Entry.call?) = [])
      (hsilent : es.filterMap Entry.introduction? = []) : Greeted s (.error e) t
  | accepted {payload : Bytes} (hfirst : Greeting.first? s.link (knocking 10 s) =
      some ⟨payload, (Link.now (knocked 10 s).link).toNat⟩) : Greeted s (.ok payload) (knocked 10 s)

/-- A handshake that makes all of its calls without a greeting, and may warn of that. -/
theorem Greeted.warned (s : Session σ δ) (e : DeviceError) (ws : List Warning)
    (hfirst : Greeting.first? s.link (knocking 10 s) = none) :
    Greeted s (.error e) (warned ws (knocked 10 s)) := by
  refine .refused ((grows_knocked 10 s).trans (grows_warned ws _)) ?_ ?_
  · -- the warnings are no calls, so what the device was heard to say is what it was
    have hcalls : (((knocking 10 s).map fun x => Entry.call x.1 x.2) ++
        ws.map Entry.warning).filterMap Entry.call? = knocking 10 s := by
      have hnone : (ws.map Entry.warning).filterMap Entry.call? = [] := by
        rw [List.filterMap_map]
        exact List.filterMap_eq_nil_iff.2 fun _ _ => rfl
      rw [List.filterMap_append, hnone, List.append_nil]
      rfl
    rw [hcalls, heard_knocking, hfirst]
    rfl
  · rw [List.filterMap_append, List.filterMap_map, List.filterMap_map]
    exact List.append_eq_nil_iff.2 ⟨rfl, List.filterMap_eq_nil_iff.2 fun _ _ => rfl⟩

/-- **A handshake delivers a greeting, or leaves no trace of one.** -/
theorem greeted (s : Session σ δ) :
    Greeted s (run (handshake handshakeSize) s).1 (run (handshake handshakeSize) s).2 := by
  have hends := handshaking 10 s
  have hfirst := first?_knocking s
  unfold handshakeSize
  rcases hrun : run (handshake 10) s with ⟨r, t⟩
  rw [hrun] at hends
  cases hends with
  -- the line could not be raised, and no frame was read
  | unraised hraise => exact .refused (grows_called _ s) rfl rfl
  -- in each other failure, one of the conditions of a greeting does not hold
  | unlowered hraise hlower =>
    refine .warned s _ [] (hfirst.trans (if_neg fun h => ?_))
    exact absurd (hlower.symm.trans h.2.2.2.1) (by simp)
  | unreceived hraise hlower hread =>
    refine .warned s _ _ (hfirst.trans (if_neg fun h => ?_))
    exact absurd (hread.symm.trans (Reply.fault_eq_none.2 ⟨h.2.1, h.2.2.1⟩)) (by simp)
  | unfit hraise hlower hread hcrc =>
    refine .warned s _ _ (hfirst.trans (if_neg fun h => ?_))
    rw [h.2.2.2.2, Checksum.stripCrc16?_withCrc16] at hcrc
    exact absurd hcrc (by simp)
  -- the frame that fits is its payload followed by the check
  | @fit payload hraise hlower hread hframe =>
    obtain ⟨hgot, hlength⟩ := Reply.fault_eq_none.1 hread
    have hpayload : (frameReply 10 s).received.take 10 = payload := by
      rw [hframe, Checksum.length_withCrc16] at hlength
      rw [hframe, Checksum.withCrc16, List.take_left' (by omega)]
    rw [hpayload, if_pos ⟨hraise, hgot, hlength, hlower, hframe⟩] at hfirst
    exact .accepted hfirst

end Handshake

variable {σ α β : Type} [Link σ] {s t u : Session σ SensusPro} {es es' : List Entry}
  {x : Op σ SensusPro α}

/-! ### Programs that attend to greetings -/

/-- From the session `s` to the session `t` the entries `es` were added.  Each greeting among the
calls was remembered, and reported if the caller wants events; nothing else was. -/
structure Attended (s t : Session σ SensusPro) (es : List Entry) : Prop where
  history : t.history = s.history ++ es
  listening : t.listening = s.listening
  timestamp : t.device.timestamp = s.device.timestamp
  frame : t.device.frame =
    ((Greeting.heard s.link (es.filterMap Entry.call?)).getLast?.map Greeting.payload).getD
      s.device.frame
  clock : t.device.clock =
    ((Greeting.heard s.link (es.filterMap Entry.call?)).getLast?.map Greeting.clock).or
      s.device.clock
  introduced : es.filterMap Entry.introduction? = if s.listening then
    (Greeting.heard s.link (es.filterMap Entry.call?)).flatMap Greeting.events else []

/-- What brings no greeting and reports none leaves what is remembered alone. -/
theorem attended_of_silent (hgrows : Grows s t es)
    (hheard : Greeting.heard s.link (es.filterMap Entry.call?) = [])
    (hsilent : es.filterMap Entry.introduction? = []) : Attended s t es where
  history := hgrows.history
  listening := hgrows.listening
  timestamp := congrArg SensusPro.timestamp hgrows.device
  frame := by rw [hheard, hgrows.device]; rfl
  clock := by rw [hheard, hgrows.device]; rfl
  introduced := by rw [hheard, hsilent]; split <;> rfl

theorem attended_of_plain (hgrows : Grows s t es) (hes : ∀ e ∈ es, e.Plain) : Attended s t es :=
  attended_of_silent hgrows (Greeting.heard_unbroken _ (Entry.unbroken_of_plain hes))
    (Entry.introduction?_of_plain hes)

theorem Attended.append_plain (h : Attended s t es) (hgrows : Grows t u es')
    (hes : ∀ e ∈ es', e.Plain) : Attended s u (es ++ es') := by
  have hheard : Greeting.heard s.link ((es ++ es').filterMap Entry.call?) =
      Greeting.heard s.link (es.filterMap Entry.call?) := by
    rw [List.filterMap_append, Greeting.heard_append (Entry.unbroken_of_plain hes)]
  refine ⟨?_, hgrows.listening.trans h.listening, ?_, ?_, ?_, ?_⟩
  · rw [hgrows.history, h.history, List.append_assoc]
  · rw [hgrows.device, h.timestamp]
  · rw [hheard, hgrows.device, h.frame]
  · rw [hheard, hgrows.device, h.clock]
  · rw [hheard, List.filterMap_append, Entry.introduction?_of_plain hes, List.append_nil,
      h.introduced]

/-- The program remembers and reports each greeting, and changes nothing else about the device. -/
def Attends (x : Op σ SensusPro α) : Prop := ∀ s, ∃ es, Attended s (run x s).2 es

theorem attends_of_plain (h : Records Entry.Plain x) : Attends x := by
  intro s
  obtain ⟨es, hgrows, hes⟩ := h s
  exact ⟨es, attended_of_plain hgrows hes⟩

theorem Attends.bind {f : α → Op σ SensusPro β} (hx : Attends x)
    (hf : ∀ a, Records Entry.Plain (f a)) : Attends (x >>= f) := by
  intro s
  obtain ⟨es, hattended⟩ := hx s
  rw [run_bind]
  rcases hrun : run x s with ⟨e | a, t⟩ <;> rw [hrun] at hattended
  · exact ⟨es, hattended⟩
  · obtain ⟨es', hgrows, hes⟩ := hf a t
    exact ⟨es ++ es', hattended.append_plain hgrows hes⟩

/-- A report of progress may come first. -/
theorem Attends.behind_progress (hx : Attends x) (p : Progress) :
    Attends (emit (.progress p) >>= fun _ => x) := by
  intro s
  rw [run_bind_ok (run_emit _ s)]
  split
  · have hreported := grows_record [.event (.progress p)] s
    obtain ⟨es, h⟩ := hx { s with past := .event (.progress p) :: s.past }
    refine ⟨.event (.progress p) :: es, ?_, h.listening, h.timestamp, h.frame, h.clock,
      h.introduced⟩
    rw [h.history]
    exact (congrArg (· ++ es) hreported.history).trans (List.append_assoc _ _ _)
  · exact hx s

/-- Behind an accepted frame its greeting is remembered, and reported if the caller wants events. -/
theorem attended_of_accepted {g : Greeting} {t u v : Session σ SensusPro}
    (hfirst : Greeting.first? s.link (knocking 10 s) = some g)
    (ht : t = { knocked 10 s with device.frame := g.payload, device.clock := some g.clock })
    (hu : u = (run (emit (.clock g.clock)) t).2)
    (hv : v = (run (emit (.devInfo (identity g.payload))) u).2) :
    ∃ es, Attended s (called (.sleep settle) v) es := by
  have hclock := hu ▸ grows_emit (.clock g.clock) t
  have hinfo := hv ▸ grows_emit (.devInfo (identity g.payload)) u
  have hknocked := grows_knocked 10 s
  have hrest := (hclock.trans hinfo).trans (grows_called (.sleep settle) v)
  -- whether somebody listens is the same all the time
  have htold : t.listening = s.listening := by rw [ht]; exact hknocked.listening
  rw [hclock.listening, htold] at hrest
  obtain ⟨es, hes⟩ : ∃ es, es = ((if s.listening then [Entry.event (.clock g.clock)] else []) ++
    if s.listening then [.event (.devInfo (identity g.payload))] else []) ++
      [.call (.sleep settle) (reply (.sleep settle) v)] := ⟨_, rfl⟩
  rw [← hes] at hrest
  have hrested : es.filterMap Entry.call? = [(.sleep settle, reply (.sleep settle) v)] := by
    rw [hes]
    cases s.listening <;> rfl
  have hheard : Greeting.heard s.link ((((knocking 10 s).map fun x => Entry.call x.1 x.2) ++
      es).filterMap Entry.call?) = [g] := by
    have hunbroken : Greeting.Unbroken [(.sleep settle, reply (.sleep settle) v)] := by
      simp [Greeting.Unbroken]
    have hcalls : ((knocking 10 s).map fun x => Entry.call x.1 x.2).filterMap Entry.call? =
        knocking 10 s := rfl
    rw [List.filterMap_append, hrested, hcalls, Greeting.heard_append hunbroken, heard_knocking,
      hfirst]
    rfl
  refine ⟨((knocking 10 s).map fun x => .call x.1 x.2) ++ es, ?_, hrest.listening.trans htold, ?_, ?_,
    ?_, ?_⟩
  · have hhistory : t.history = (knocked 10 s).history := by rw [ht]; rfl
    rw [hrest.history, hhistory, hknocked.history, List.append_assoc]
  · rw [hrest.device, ht]
    rfl
  · rw [hheard, hrest.device, ht]
    rfl
  · rw [hheard, hrest.device, ht]
    rfl
  · rw [hheard, hes]
    cases s.listening <;> rfl

/-- **Waking a device attends to what it says.** -/
theorem attends_wake : Attends (wake : Op σ SensusPro Unit) := by
  intro s
  have hends := greeted s
  rcases hrun : run (handshake handshakeSize) s with ⟨r, t⟩
  rw [hrun] at hends
  cases hends with
  | refused hgrows hheard hsilent =>
    unfold wake
    rw [run_bind_error hrun]
    exact ⟨_, attended_of_silent hgrows hheard hsilent⟩
  | @accepted payload hfirst =>
    -- each state between two steps gets a name, so that the steps can be followed one by one
    obtain ⟨g, hg⟩ : ∃ g : Greeting, g = ⟨payload, (Link.now (knocked 10 s).link).toNat⟩ := ⟨_, rfl⟩
    obtain ⟨t, ht⟩ : ∃ t, t = { knocked 10 s with
      device.frame := g.payload, device.clock := some g.clock } := ⟨_, rfl⟩
    obtain ⟨u, hu⟩ : ∃ u, u = (run (emit (.clock g.clock)) t).2 := ⟨_, rfl⟩
    obtain ⟨v, hv⟩ : ∃ v, v = (run (emit (.devInfo (identity g.payload))) u).2 := ⟨_, rfl⟩
    -- waking remembers the payload and the clock, tells both, and rests
    have hwake : run (wake : Op σ SensusPro Unit) s = (.ok (), called (.sleep settle) v) := by
      have hremember : run (modify fun s => { s with
          device.frame := g.payload, device.clock := some g.clock } : Op σ SensusPro Unit)
            (knocked 10 s) = (.ok (), t) := by
        rw [ht]
        rfl
      unfold wake
      rw [run_bind_ok hrun, run_bind_ok (a := Link.now (knocked 10 s).link) (t := knocked 10 s) rfl]
      have hsame : (⟨(Link.now (knocked 10 s).link).toNat, Bytes.le32 (payload.drop 6)⟩ : Clock) =
          g.clock := by rw [hg]; rfl
      have hpayload : payload = g.payload := by rw [hg]
      dsimp only
      rw [hsame, hpayload, run_bind_ok hremember, run_bind_ok (run_emit_ok _ t), ← hu,
        run_bind_ok (run_emit_ok _ u), ← hv, run_pause_eq]
    rw [hwake]
    exact attended_of_accepted (hg ▸ hfirst) ht hu hv

/-! ### Operations -/

theorem attends_command (c : UInt8) : Attends (command c : Op σ SensusPro Unit) :=
  attends_wake.bind fun _ => (stepwise_plain.transmit (by simp)).warning
    (Entry.plain_warning _)

/-- A stream belongs to no handshake. -/
theorem plain_receiveStream : ∀ (bs : List Block) (progress : Progress),
    Records Entry.Plain (receiveStream progress bs : Op σ SensusPro Bytes) := by
  intro bs
  induction bs with
  | nil => exact fun _ => .pure _
  | cons b bs ih =>
    intro progress
    rw [receiveStream]
    refine (stepwise_plain.receive (by simp)).bind fun chunk => ?_
    split
    · exact (Records.record (by simp [Entry.plain_warning])).bind fun _ => .throw _
    · exact (Records.emit (Entry.plain_progress _)).bind fun _ => (ih _).bind fun _ => .pure _

theorem attends_dump : Attends (dump : Op σ SensusPro Bytes) := by
  refine ((attends_command _).bind fun _ => (plain_receiveStream _ _).bind fun stream => ?_
    ).behind_progress _
  cases Checksum.stripCrc16? stream with
  | some image => exact .pure _
  | none => exact (Records.record (by simp [Entry.plain_warning])).bind fun _ => .throw _

theorem attends_foreach (keep : List Dive → Bool) :
    Attends (foreach keep : Op σ SensusPro (List Dive)) :=
  attends_dump.bind fun _ => Records.get.bind fun _ =>
    .report Entry.plain_dive Entry.plain_warning _

theorem attends_writeInterval (seconds : Nat) :
    Attends (writeInterval seconds : Op σ SensusPro Unit) := by
  have hwrite : Attends (do
      command intervalCommand
      pause settle
      warning .sendValue (transmit [UInt8.ofNat seconds]) : Op σ SensusPro Unit) :=
    (attends_command _).bind fun _ => (stepwise_plain.pause (by simp)).bind fun _ =>
      (stepwise_plain.transmit (by simp)).warning (Entry.plain_warning _)
  unfold writeInterval
  split
  · exact attends_of_plain (.throw _)
  · exact hwrite

theorem attends_close : Attends (close : Op σ SensusPro Unit) :=
  attends_of_plain (stepwise_plain.attempt (by simp))

end SensusPro

end DiveLink
