import DiveLink.Bench.Rig
import DiveLink.Proofs.Greeting
import DiveLink.Proofs.Vyper2.Exchanging

/-!
# What a handle remembers

A handle on a device is used for one thing after the other, and some of it fails.  What the handle
remembers is always the last greeting that was accepted, and the last setting of the newest known
dive that was accepted; whatever else is done with it, and whatever its link does meanwhile, changes
nothing of that.

## Main definitions

* `Cutoff` — what was asked for about dives that are known already.
* `Device.Action`, `Device.after` — what is done with a handle, and the handle behind it.
* `Device.along` — what comes about in the course of it.
* `Device.Recalls` — what one handle remembers, given what another did and what came about since.
* `Device.foreachSince` — a download up to the first dive of which it is known beforehand.

## Main results

* `Device.recalls_act`, `Device.recalls_after` — a handle remembers the last greeting and the last
  cutoff, behind one action and behind a run of them.
* `Device.remembers_last` — **a handle that was opened remembers what came last**, reports each
  greeting once, and its next download ends at the last cutoff.
-/

namespace DiveLink

/-! ### Cutoffs -/

/-- What was asked for about the dives that are known already. -/
inductive Cutoff
  /-- No dive is known. -/
  | nothing
  | fingerprint (data : Bytes)
  | timestamp (t : Nat)
  deriving DecidableEq, Repr

namespace Cutoff

/-- An empty fingerprint is one of no dive. -/
def ofFingerprint (data : Bytes) : Cutoff := if data = [] then nothing else fingerprint data

/-- The dives that are known by a cutoff: to a Sensus Pro a fingerprint is a timestamp, and the
dives that are not newer are known; a Vyper2 knows the one dive with the fingerprint. -/
def covers : Family → Cutoff → Dive → Bool
  | _, nothing, _ => false
  | .sensusPro, fingerprint data, d => decide (d.timestamp ≤ data.le32)
  | .vyper2, fingerprint data, d => data == d.fingerprint
  | _, timestamp t, d => decide (d.timestamp ≤ t)

end Cutoff

namespace Device

open Session

variable {σ β : Type}

/-- Whether the caller of a device wants events. -/
def listening : Device σ → Bool
  | sensusPro s => s.listening
  | vyper2 s => s.listening

/-- The clocks and identities that were reported on a device, first things first. -/
def introductions (d : Device σ) : List Event := d.past.reverse.filterMap Entry.introduction?

/-- What is done with a handle on a device, and what becomes of its surroundings. -/
inductive Action (σ : Type)
  /-- Something that uses the link. -/
  | operate (op : Operation)
  | setFingerprint (data : Bytes)
  | setTimestamp (t : Nat)
  | extract (image : Bytes) (keep : List Dive → Bool)
  | handshake (room : Nat)
  | clock
  /-- The link has changed by itself. -/
  | setLink (link : σ)
  | setToken (token : CancelToken)
  | listen (listening : Bool)
  /-- The user was told something. -/
  | note (text : String)

variable [Link σ]

namespace Action

/-- How an action ends, and the device behind it. -/
def act : Action σ → Device σ → Except DeviceError Unit × Device σ
  | operate op, d => op.perform d
  | setFingerprint data, d => d.setFingerprint data
  | setTimestamp t, d => d.setTimestamp t
  | extract image keep, d => (d.extract image keep).map (Except.map fun _ => ()) id
  | handshake room, d => (d.handshake room).map Receipt.outcome id
  | clock, d => d.clock.map (Except.map fun _ => ()) id
  | setLink link, d => (.ok (), d.setLink link)
  | setToken token, d => (.ok (), d.setToken token)
  | listen listening, d => (.ok (), d.listen listening)
  | note text, d => (.ok (), d.note text)

/-- The greetings that an action brings. -/
def greetings (a : Action σ) (d : Device σ) : List Greeting :=
  Greeting.heard d.link ((a.act d).2.calls.drop d.calls.length)

/-- What is to be reported in the course of an action. -/
def introductions (a : Action σ) (d : Device σ) : List Event :=
  if d.listening then (a.greetings d).flatMap Greeting.events else []

/-- What an action asks for about known dives, if anything. -/
def request? : Action σ → Option Cutoff
  | setFingerprint data => some (.ofFingerprint data)
  | setTimestamp t => some (.timestamp t)
  | _ => none

/-- The cutoff that an action sets, if it asks for one and is not rejected. -/
def cutoffs (a : Action σ) (d : Device σ) : List Cutoff :=
  match (a.act d).1 with
  | .ok () => a.request?.toList
  | .error _ => []

end Action

/-- The device behind some actions. -/
def after : List (Action σ) → Device σ → Device σ
  | [], d => d
  | a :: as, d => after as (a.act d).2

/-- What comes about in the course of some actions, one after the other. -/
def along (f : Action σ → Device σ → List β) : List (Action σ) → Device σ → List β
  | [], _ => []
  | a :: as, d => f a d ++ along f as (a.act d).2

/-! ### Recollections -/

/-- From the first handle to the second the greetings `gs` have come, the events `es` were reported
of them, and the cutoffs `cs` were set.  The second one remembers the last of these, and where there
is none it remembers what the first one does. -/
inductive Recalls (gs : List Greeting) (es : List Event) (cs : List Cutoff) :
    Device σ → Device σ → Prop
  | sensusPro {s t : Session σ SensusPro}
      (frame : t.device.frame = (gs.getLast?.map Greeting.payload).getD s.device.frame)
      (clock : t.device.clock = (gs.getLast?.map Greeting.clock).or s.device.clock)
      (introduced : (Device.sensusPro t).introductions = (Device.sensusPro s).introductions ++ es)
      (known : (Device.sensusPro t).knows =
        (cs.getLast?.map (Cutoff.covers .sensusPro)).getD (Device.sensusPro s).knows) :
      Recalls gs es cs (.sensusPro s) (.sensusPro t)
  | vyper2 {s t : Session σ Vyper2}
      (known : (Device.vyper2 t).knows =
        (cs.getLast?.map (Cutoff.covers .vyper2)).getD (Device.vyper2 s).knows) :
      Recalls gs es cs (.vyper2 s) (.vyper2 t)

variable {d e f : Device σ} {gs gs' : List Greeting} {es es' : List Event} {cs cs' : List Cutoff}

omit [Link σ] in
theorem Recalls.refl (d : Device σ) : Recalls [] [] [] d d := by
  cases d with
  | sensusPro s => exact .sensusPro rfl rfl (List.append_nil _).symm rfl
  | vyper2 s => exact .vyper2 rfl

omit [Link σ] in
theorem Recalls.trans (h : Recalls gs es cs d e) (h' : Recalls gs' es' cs' e f) :
    Recalls (gs ++ gs') (es ++ es') (cs ++ cs') d f := by
  cases h with
  | sensusPro frame clock introduced known =>
    cases h' with
    | sensusPro frame' clock' introduced' known' =>
      refine .sensusPro ?_ ?_ ?_ ?_
      · rw [frame', frame, List.getLast?_append, Option.map_or, Option.getD_or]
      · rw [clock', clock, List.getLast?_append, Option.map_or, Option.or_assoc]
      · rw [introduced', introduced, List.append_assoc]
      · rw [known', known, List.getLast?_append, Option.map_or, Option.getD_or]
  | vyper2 known =>
    cases h' with
    | vyper2 known' =>
      refine .vyper2 ?_
      rw [known', known, List.getLast?_append, Option.map_or, Option.getD_or]

omit [Link σ] in
/-- The dives that the second handle knows are those of the last cutoff. -/
theorem Recalls.knows (h : Recalls gs es cs d e) :
    e.knows = (cs.getLast?.map (Cutoff.covers d.family)).getD d.knows := by
  cases h with
  | sensusPro _ _ _ known => exact known
  | vyper2 known => exact known

/-! ### One action -/

/-- Where an operation makes no call it brings no greeting. -/
theorem Action.greetings_of_calls {a : Action σ} (h : (a.act d).2.calls = d.calls) :
    a.greetings d = [] := by
  rw [greetings, h, List.drop_length]
  rfl

theorem Action.introductions_of_greetings {a : Action σ} (h : a.greetings d = []) :
    a.introductions d = [] := by
  rw [introductions, h]
  split <;> rfl

/-- An action that asks for no cutoff sets none. -/
theorem Action.cutoffs_of_request {a : Action σ} (h : a.request? = none) : a.cutoffs d = [] := by
  rw [cutoffs, h]
  cases (a.act d).1 <;> rfl

/-- What attends to greetings and sets no cutoff is remembered. -/
theorem recalls_of_attended {a : Action σ} {s t : Session σ SensusPro} {entries : List Entry}
    (h : SensusPro.Attended s t entries) (hact : (a.act (sensusPro s)).2 = sensusPro t)
    (hrequest : a.request? = none) :
    Recalls (a.greetings (sensusPro s)) (a.introductions (sensusPro s)) (a.cutoffs (sensusPro s))
      (sensusPro s) (sensusPro t) := by
  have hgreetings : a.greetings (sensusPro s) =
      Greeting.heard s.link (entries.filterMap Entry.call?) := by
    have hcalls : (sensusPro t).calls = (sensusPro s).calls ++ entries.filterMap Entry.call? := by
      show t.history.filterMap Entry.call? = s.history.filterMap Entry.call? ++ _
      rw [h.history, List.filterMap_append]
    rw [Action.greetings, hact, hcalls, List.drop_left]
    rfl
  rw [Action.cutoffs_of_request hrequest, Action.introductions, hgreetings]
  refine .sensusPro h.frame h.clock ?_ (congrArg MarkerLayout.isOld h.timestamp)
  show t.history.filterMap Entry.introduction? = s.history.filterMap Entry.introduction? ++ _
  rw [h.history, List.filterMap_append, h.introduced]
  rfl

/-- What is rejected leaves all that a handle remembers alone. -/
theorem recalls_of_rejected {a : Action σ} {error : DeviceError}
    (hact : a.act d = (.error error, d)) :
    Recalls (a.greetings d) (a.introductions d) (a.cutoffs d) d d := by
  have hgreetings : a.greetings d = [] := Action.greetings_of_calls (by rw [hact])
  have hcutoffs : a.cutoffs d = [] := by rw [Action.cutoffs, hact]
  rw [hgreetings, Action.introductions_of_greetings hgreetings, hcutoffs]
  exact .refl d

/-- What leaves the history of a handle alone brings neither greetings nor events. -/
theorem recalls_of_history {a : Action σ} {s t : Session σ SensusPro}
    (hact : (a.act (sensusPro s)).2 = sensusPro t) (hframe : t.device.frame = s.device.frame)
    (hclock : t.device.clock = s.device.clock) (hpast : t.past = s.past)
    (hknown : (sensusPro t).knows =
      ((a.cutoffs (sensusPro s)).getLast?.map (Cutoff.covers .sensusPro)).getD
        (sensusPro s).knows) :
    Recalls (a.greetings (sensusPro s)) (a.introductions (sensusPro s)) (a.cutoffs (sensusPro s))
      (sensusPro s) (sensusPro t) := by
  have hcalls : (sensusPro t).calls = (sensusPro s).calls := by
    show t.past.reverse.filterMap _ = s.past.reverse.filterMap _
    rw [hpast]
  have hgreetings : a.greetings (sensusPro s) = [] :=
    Action.greetings_of_calls (by rw [hact, hcalls])
  rw [hgreetings, Action.introductions_of_greetings hgreetings]
  refine .sensusPro hframe hclock ?_ hknown
  show t.past.reverse.filterMap _ = s.past.reverse.filterMap _ ++ []
  rw [hpast, List.append_nil]

/-- An operation on a Sensus Pro attends to greetings. -/
theorem attended_perform (op : Operation) (s : Session σ SensusPro) :
    ∃ t entries, (op.perform (sensusPro s)).2 = sensusPro t ∧ SensusPro.Attended s t entries := by
  cases op with
  | dump vector =>
    obtain ⟨entries, h⟩ := SensusPro.attends_dump s
    refine ⟨_, entries, ?_, h⟩
    show ((sensusPro s).dumpInto vector).2 = _
    rw [dumpInto_eq, dump_sensusPro]
  | foreach keep =>
    obtain ⟨entries, h⟩ := SensusPro.attends_foreach keep s
    exact ⟨_, entries, rfl, h⟩
  | writeInterval seconds =>
    obtain ⟨entries, h⟩ := SensusPro.attends_writeInterval seconds s
    exact ⟨_, entries, rfl, h⟩
  | close =>
    obtain ⟨entries, h⟩ := SensusPro.attends_close s
    exact ⟨_, entries, rfl, h⟩
  | _ => exact ⟨s, [], rfl, SensusPro.attended_of_plain (.refl s) (by simp)⟩

/-- An operation on a Vyper2 leaves the fingerprint alone. -/
theorem exchanging_fingerprint : Vyper2.Exchanging (σ := σ) (ρ := σ)
    fun _ x _ => ∀ s, (Session.run x s).2.device = s.device where
  congr h hx _ s := by rw [hx, h]
  pure _ _ := rfl
  refuse _ _ := rfl
  seq := by
    intro α β stopped x y f g fail X Y hx hX _ _ hf s
    have hs := hx s
    rcases hrun : Session.run x s with ⟨e | a, t⟩ <;> rw [hrun] at hs
    · rw [hX.error hrun]
      exact hs
    · rw [hX.ok hrun, hf a t]
      exact hs
  returning f h _ s := by rw [run_map]; exact h s
  record ws s := rfl
  emit e s := by rw [run_emit]; split <;> rfl
  report walk s := by rw [run_bind_ok (run_get s)]; exact (run_report _ s).2.device
  ask q _ s := by
    obtain ⟨es, h, -⟩ := (compositional_records (P := fun _ => True) (fun _ _ => trivial)
      (fun _ => trivial) fun _ => trivial).ask Vyper2.settle q.command q.parameters q.size s
    exact h.device

theorem device_perform (op : Operation) (s : Session σ Vyper2) :
    ∃ t, (op.perform (vyper2 s)).2 = vyper2 t ∧ t.device = s.device := by
  rw [Operation.perform_eq, Operation.deliver_vyper2]
  refine ⟨_, rfl, ?_⟩
  by_cases hop : op = .close
  · rw [hop, Operation.program, run_map]
    exact congrArg (fun r => r.2.device) (run_attempt_eq .close s)
  · exact Operation.exchanging_program exchanging_fingerprint hop s

/-- A fingerprint is remembered unless it is rejected. -/
theorem recalls_setFingerprint (data : Bytes) (d : Device σ) :
    Recalls ((Action.setFingerprint data).greetings d) ((Action.setFingerprint data).introductions d)
      ((Action.setFingerprint data).cutoffs d) d (d.setFingerprint data).2 := by
  by_cases hempty : data = []
  · subst hempty
    cases d with
    | sensusPro s => exact recalls_of_history rfl rfl rfl rfl rfl
    | vyper2 s => exact .vyper2 rfl
  -- what is not empty is a request for a cutoff, whatever its length
  have hlength : data.length ≠ 0 := fun h => hempty (List.eq_nil_of_length_eq_zero h)
  have hcutoff : (Action.setFingerprint data : Action σ).request? = some (.fingerprint data) := by
    rw [Action.request?, Cutoff.ofFingerprint, if_neg hempty]
  cases d with
  | sensusPro s =>
    by_cases hsize : data.length = SensusPro.fingerprintSize
    · have hrun : setFingerprint data (sensusPro s) =
          (.ok (), sensusPro { s with device.timestamp := some data.le32 }) := by
        rw [setFingerprint, run_sensusPro, SensusPro.setFingerprint, if_neg hlength, if_pos hsize]
        rfl
      rw [hrun]
      refine recalls_of_history (congrArg Prod.snd hrun) rfl rfl rfl ?_
      rw [Action.cutoffs, Action.act, hrun, hcutoff]
      rfl
    · -- a length that no fingerprint has is refused, and the cutoff stays
      have hrun : setFingerprint data (sensusPro s) = (.error (.invalidArgument
          (.fingerprintSize SensusPro.fingerprintSize data.length)), sensusPro s) := by
        rw [setFingerprint, run_sensusPro, SensusPro.setFingerprint, if_neg hlength, if_neg hsize]
        rfl
      rw [hrun]
      exact recalls_of_rejected hrun
  | vyper2 s =>
    by_cases hsize : data.length = ringFingerprintSize
    · have hrun : setFingerprint data (vyper2 s) =
          (.ok (), vyper2 { s with device.fingerprint := some data }) := by
        rw [setFingerprint, run_vyper2, Vyper2.setFingerprint, if_neg hlength, if_pos hsize]
        rfl
      rw [hrun]
      refine .vyper2 ?_
      rw [Action.cutoffs, Action.act, hrun, hcutoff]
      rfl
    · have hrun : setFingerprint data (vyper2 s) = (.error (.invalidArgument
          (.fingerprintSize ringFingerprintSize data.length)), vyper2 s) := by
        rw [setFingerprint, run_vyper2, Vyper2.setFingerprint, if_neg hlength, if_neg hsize]
        rfl
      rw [hrun]
      exact recalls_of_rejected hrun

/-- **A handle remembers the last greeting and the last cutoff behind an action.** -/
theorem recalls_act (a : Action σ) (d : Device σ) :
    Recalls (a.greetings d) (a.introductions d) (a.cutoffs d) d (a.act d).2 := by
  cases d with
  | sensusPro s =>
    -- what does not use the link is read off, and what does is attended to
    cases a with
    | operate op =>
      obtain ⟨t, entries, hact, h⟩ := attended_perform op s
      show Recalls _ _ _ _ (op.perform (sensusPro s)).2
      rw [hact]
      exact recalls_of_attended h hact rfl
    | setFingerprint data => exact recalls_setFingerprint data (sensusPro s)
    | setTimestamp t => exact recalls_of_history rfl rfl rfl rfl rfl
    | extract image keep =>
      -- the image is the caller's, so that the device is not woken
      have h : SensusPro.Attends (SensusPro.extract image keep : Op σ SensusPro (List Dive)) :=
        SensusPro.attends_of_plain (Records.get.bind fun _ =>
          .report Entry.plain_dive Entry.plain_warning _)
      obtain ⟨entries, h⟩ := h s
      exact recalls_of_attended h rfl rfl
    | handshake room =>
      have h : SensusPro.Attends (SensusPro.lastHandshake room : Op σ SensusPro Receipt) := by
        unfold SensusPro.lastHandshake
        split
        · exact SensusPro.attends_of_plain ((Records.record (by simp [Entry.plain_warning])).bind
            fun _ => .throw _)
        · exact SensusPro.attends_of_plain (Records.get.bind fun _ => .pure _)
      have hact : ((Action.handshake room).act (sensusPro s)).2 =
          sensusPro (Session.run (SensusPro.lastHandshake room) s).2 := by
        show (fill (SensusPro.lastHandshake room) _ (sensusPro s)).2 = _
        rw [fill, run_sensusPro]
        rcases Session.run (SensusPro.lastHandshake room) s with ⟨e | r, t⟩ <;> rfl
      obtain ⟨entries, h⟩ := h s
      rw [hact]
      exact recalls_of_attended h hact rfl
    | clock => exact recalls_of_history rfl rfl rfl rfl rfl
    | setLink link => exact recalls_of_history rfl rfl rfl rfl rfl
    | setToken token => exact recalls_of_history rfl rfl rfl rfl rfl
    | listen listening => exact recalls_of_history rfl rfl rfl rfl rfl
    | note text =>
      have hplain : ∀ e ∈ [Entry.note text], e.Plain := by
        intro e he
        rw [List.mem_singleton.1 he]
        exact ⟨by simp, rfl⟩
      exact recalls_of_attended (SensusPro.attended_of_plain
        (grows_record [.note text] s) hplain) rfl rfl
  | vyper2 s =>
    -- a Vyper2 greets nobody, so that only its cutoff is at stake
    cases a with
    | operate op =>
      obtain ⟨t, hact, hdevice⟩ := device_perform op s
      show Recalls _ _ _ _ (op.perform (vyper2 s)).2
      rw [hact]
      refine .vyper2 ?_
      rw [Action.cutoffs_of_request rfl]
      exact congrArg (fun d : Vyper2 => Vyper2.isKnown d.fingerprint) hdevice
    | setFingerprint data => exact recalls_setFingerprint data (vyper2 s)
    | _ => exact .vyper2 rfl

/-- **A handle remembers the last greeting and the last cutoff behind a run of actions.** -/
theorem recalls_after : ∀ (as : List (Action σ)) (d : Device σ),
    Recalls (along Action.greetings as d) (along Action.introductions as d)
      (along Action.cutoffs as d) d (after as d) := by
  intro as
  induction as with
  | nil => exact Recalls.refl
  | cons a as ih => exact fun d => (recalls_act a d).trans (ih _)

/-! ### A handle that was opened -/

omit [Link σ] in
theorem eq_of_openSession {δ : Type} {wrap : Session σ δ → Device σ}
    {setUp : Op σ δ Unit} {s : Session σ δ} (h : openSession wrap setUp s = .opened d) :
    d = wrap (Session.run setUp s).2 := by
  unfold openSession at h
  rcases hrun : Session.run setUp s with ⟨e | ⟨⟩, t⟩ <;> rw [hrun] at h
  · exact absurd h (by simp)
  · exact (Opening.opened.inj h).symm

/-- A handle on a Sensus Pro that was opened has heard nothing and knows no dive. -/
theorem opened_sensusPro {link : σ} {token : CancelToken}
    (h : openLink .sensusPro link token = .opened d) :
    ∃ s : Session σ SensusPro, d = sensusPro s ∧ s.device = SensusPro.fresh ∧
      d.introductions = [] := by
  have hplain : Records Entry.Plain (SensusPro.openLine : Op σ SensusPro Unit) :=
    ((stepwise_plain.attempt (by simp)).warning (Entry.plain_warning _)).bind fun _ =>
      ((stepwise_plain.attempt (by simp)).warning (Entry.plain_warning _)).bind fun _ =>
        stepwise_plain.attempt (by simp)
  obtain rfl := eq_of_openSession h
  obtain ⟨entries, hgrows, hentries⟩ := hplain (.start link SensusPro.fresh token)
  refine ⟨_, rfl, hgrows.device, ?_⟩
  show (Session.history _).filterMap _ = []
  rw [hgrows.history]
  exact Entry.introduction?_of_plain hentries

/-- A handle on a Vyper2 that was opened knows no dive. -/
theorem opened_vyper2 {link : σ} {token : CancelToken}
    (h : openLink .vyper2 link token = .opened d) :
    ∃ s : Session σ Vyper2, d = vyper2 s ∧ s.device = ⟨none⟩ := by
  have hQ : Compositional (σ := σ) (δ := Vyper2) fun x => Records (fun _ => True) x :=
    compositional_records (fun _ _ => trivial) (fun _ => trivial) fun _ => trivial
  obtain rfl := eq_of_openSession h
  have hsetup : Records (fun _ => True) (Vyper2.openLine : Op σ Vyper2 Unit) :=
    hQ.bind (hQ.warning _ (hQ.attempt _)) fun _ => hQ.bind (hQ.warning _ (hQ.attempt _)) fun _ =>
      hQ.bind (hQ.warning _ (hQ.attempt _)) fun _ => hQ.bind (hQ.pause _) fun _ =>
        hQ.bind (hQ.attempt _) fun _ => hQ.attempt _
  obtain ⟨entries, hgrows, -⟩ := hsetup (.start link ⟨none⟩ token)
  exact ⟨_, rfl, hgrows.device⟩

/-- A handle that was opened knows no dive. -/
theorem knows_of_openLink {family : Family} {link : σ} {token : CancelToken}
    (h : openLink family link token = .opened d) :
    d.family = family ∧ d.knows = Cutoff.nothing.covers family := by
  cases family with
  | sensusPro =>
    obtain ⟨s, rfl, hfresh, -⟩ := opened_sensusPro h
    exact ⟨rfl, congrArg (fun d : SensusPro => MarkerLayout.isOld d.timestamp) hfresh⟩
  | vyper2 =>
    obtain ⟨s, rfl, hfresh⟩ := opened_vyper2 h
    exact ⟨rfl, congrArg (fun d : Vyper2 => Vyper2.isKnown d.fingerprint) hfresh⟩

/-! ### The next download -/

/-- A download up to the first dive that is `known`, whatever the handle remembers. -/
def foreachSince (known : Dive → Bool) (keep : List Dive → Bool) :
    Device σ → Except DeviceError (List Dive) × Device σ :=
  run (SensusPro.dump >>= fun image => report ((SensusPro.layout.walk image).cut known keep))
    (Vyper2.download >>= fun x =>
      report ((x.2.1.walk (Vyper2.fingerprintOffset x.1) x.2.2).cut known keep))

omit [Link σ] in
/-- A program that reports what is in front of the dives it remembers to be known reports what is in
front of the dives known before it. -/
theorem run_bind_knows {δ α : Type} {x : Op σ δ α} (w : α → Walk) (knows : δ → Dive → Bool)
    (hsame : ∀ s, knows (Session.run x s).2.device = knows s.device)
    (keep : List Dive → Bool) (s : Session σ δ) :
    Session.run (x >>= fun a => get >>= fun r => report ((w a).cut (knows r.device) keep)) s =
      Session.run (x >>= fun a => report ((w a).cut (knows s.device) keep)) s := by
  have hs := hsame s
  rcases hrun : Session.run x s with ⟨e | a, t⟩ <;> rw [hrun] at hs
  · exact (run_bind_error hrun _).trans (run_bind_error hrun _).symm
  · have hknows : knows t.device = knows s.device := hs
    rw [run_bind_ok hrun, run_bind_ok hrun, run_bind_ok (run_get t), hknows]

/-- **A download ends at the dives that the handle remembers to be known.** -/
theorem foreach_eq_foreachSince (d : Device σ) (keep : List Dive → Bool) :
    d.foreach keep = d.foreachSince d.knows keep := by
  cases d with
  | sensusPro s =>
    have hrun := run_bind_knows SensusPro.layout.walk
      (fun d : SensusPro => MarkerLayout.isOld d.timestamp)
      (fun s : Session σ SensusPro => congrArg MarkerLayout.isOld (SensusPro.timestamp_dump s))
      keep s
    rw [foreach, foreachSince, run_sensusPro, run_sensusPro, SensusPro.foreach_eq, hrun]
    rfl
  | vyper2 s =>
    have hrun := run_bind_knows
      (fun x : Bytes × RingHeader × Bytes => x.2.1.walk (Vyper2.fingerprintOffset x.1) x.2.2)
      (fun d : Vyper2 => Vyper2.isKnown d.fingerprint)
      (fun s : Session σ Vyper2 => congrArg (fun d : Vyper2 => Vyper2.isKnown d.fingerprint)
        (Vyper2.handed_download s).2) keep s
    rw [foreach, foreachSince, run_vyper2, run_vyper2, Vyper2.foreach_eq, hrun]
    rfl

/-- **A handle remembers what came last.**  After any run of actions on a handle that was opened, a
Sensus Pro tells the payload and the clocks of the last greeting, ten zeros and no clocks before the
first one, and has reported each greeting once while its caller wanted events; and the next download
ends at the cutoff that was set last, or nowhere. -/
theorem remembers_last {family : Family} {link : σ} {token : CancelToken}
    (hopen : openLink family link token = .opened d) (as : List (Action σ)) :
    (family = .sensusPro →
      (∀ room, 10 ≤ room → ((after as d).handshake room).1 =
        .whole (((along Action.greetings as d).getLast?.map Greeting.payload).getD
          (List.replicate 10 0))) ∧
      (after as d).clock.1 = .ok ((along Action.greetings as d).getLast?.map Greeting.clock) ∧
      (after as d).introductions = along Action.introductions as d) ∧
    ∀ keep, (after as d).foreach keep = (after as d).foreachSince
      (((along Action.cutoffs as d).getLast?.getD .nothing).covers family) keep := by
  have hrecalls := recalls_after as d
  refine ⟨?_, fun keep => ?_⟩
  · rintro rfl
    obtain ⟨s, rfl, hfresh, hsilent⟩ := opened_sensusPro hopen
    rcases hafter : after as (sensusPro s) with t | t <;> rw [hafter] at hrecalls
    · cases hrecalls with
      -- nothing is remembered when the handle is new, and all that comes is from the greetings
      | sensusPro frame clock introduced known =>
        rw [hfresh] at frame clock
        rw [hsilent, List.nil_append] at introduced
        refine ⟨fun room hroom => ?_, ?_, introduced⟩
        · have hrun : Session.run (SensusPro.lastHandshake room) t =
              (.ok (.whole t.device.frame), t) := by
            have hfits : ¬ room < SensusPro.handshakeSize := Nat.not_lt.2 hroom
            unfold SensusPro.lastHandshake
            rw [if_neg hfits]
            rfl
          rw [handshake, fill, run_sensusPro, hrun, frame]
          rfl
        · have hrun : (Device.clock (sensusPro t)).1 = .ok t.device.clock := rfl
          rw [hrun, clock]
          exact congrArg Except.ok (Option.or_none)
    · cases hrecalls
  · obtain ⟨hfamily, hknows⟩ := knows_of_openLink hopen
    rw [foreach_eq_foreachSince, hrecalls.knows, hfamily, hknows]
    -- without a cutoff every dive is new, which is what the initial one says
    cases (along Action.cutoffs as d).getLast? with
    | none => rfl
    | some c => rfl

/-- A device is woken three times: at 1000 all goes well, at 2000 the command does not go out behind
the handshake, and at 3000 the check of the frame is wrong.  Then a fingerprint is set, and another
one rejected because it is too short. -/
theorem remembers_last_woken_thrice :
    let first : Bytes := [0x02, 0x15, 0x00, 0x00, 0x39, 0x30, 0x10, 0x27, 0x00, 0x00]
    let second : Bytes := [0x02, 0x15, 0x00, 0x00, 0x39, 0x30, 0x20, 0x27, 0x00, 0x00]
    let bench : Bytes → List Bench.Fault → Int → Bench.LinkBench := fun waiting faults now =>
      { rig := { waiting, script := { faults } }, around := { now } }
    let as : List (Action Bench.LinkBench) :=
      [.listen true, .operate (.writeInterval 10),
        .setLink (bench (Checksum.withCrc16 second) [⟨⟨"write", 1⟩, .short 0⟩] 2000),
        .operate (.writeInterval 20),
        .setLink (bench (first ++ [0, 0]) [] 3000), .operate (.writeInterval 30),
        .setFingerprint [0x64, 0x00, 0x00, 0x00], .setFingerprint [0x01, 0x02, 0x03]]
    ∃ d, openLink .sensusPro (bench (Checksum.withCrc16 first) [] 1000) ⟨0⟩ = .opened d ∧
      ((after as d).handshake 10).1 = .whole second ∧
      (after as d).clock.1 = .ok (some ⟨2000, 10016⟩) ∧
      (after as d).introductions = [.clock ⟨1000, 10000⟩, .devInfo ⟨2, 21, 12345⟩,
        .clock ⟨2000, 10016⟩, .devInfo ⟨2, 21, 12345⟩] ∧
      ∀ keep, (after as d).foreach keep =
        (after as d).foreachSince (fun dive => decide (dive.timestamp ≤ 100)) keep := by
  intro first second bench as
  obtain ⟨d, hd⟩ : ∃ d, d = sensusPro (Session.run SensusPro.openLine (.start
    (bench (Checksum.withCrc16 first) [] 1000) SensusPro.fresh ⟨0⟩)).2 := ⟨_, rfl⟩
  have hopen : openLink .sensusPro (bench (Checksum.withCrc16 first) [] 1000) ⟨0⟩ = .opened d := by
    rw [hd]
    rfl
  -- the second handshake is accepted although its command fails, and the third is damaged
  have hgreetings : along Action.greetings as d = [⟨first, 1000⟩, ⟨second, 2000⟩] := by
    rw [hd]
    decide +kernel
  have hintroductions : along Action.introductions as d =
      [.clock ⟨1000, 10000⟩, .devInfo ⟨2, 21, 12345⟩, .clock ⟨2000, 10016⟩,
        .devInfo ⟨2, 21, 12345⟩] := by
    rw [hd]
    decide +kernel
  have hcutoffs : along Action.cutoffs as d = [.fingerprint [0x64, 0x00, 0x00, 0x00]] := by
    rw [hd]
    decide +kernel
  have hclocks : Greeting.clock ⟨second, 2000⟩ = ⟨2000, 10016⟩ := by decide
  have hnumber : Bytes.le32 [0x64, 0x00, 0x00, 0x00] = 100 := by decide
  have hcovers : (Cutoff.fingerprint [0x64, 0x00, 0x00, 0x00]).covers .sensusPro =
      fun dive => decide (dive.timestamp ≤ 100) := by
    funext dive
    rw [Cutoff.covers, hnumber]
  -- what was remembered is the last of these, read off the theorem
  obtain ⟨htold, hknown⟩ := remembers_last hopen as
  obtain ⟨hhandshake, hclock, hreported⟩ := htold rfl
  rw [hgreetings] at hhandshake hclock
  rw [hintroductions] at hreported
  rw [hcutoffs] at hknown
  have hlast : ([⟨first, 1000⟩, ⟨second, 2000⟩] : List Greeting).getLast? = some ⟨second, 2000⟩ := rfl
  rw [hlast, Option.map_some] at hhandshake hclock
  rw [hclocks] at hclock
  rw [List.getLast?_singleton, Option.getD_some, hcovers] at hknown
  exact ⟨d, hopen, hhandshake 10 (Nat.le_refl 10), hclock, hreported, hknown⟩

end Device
end DiveLink
