import DiveLink.Bench.Host
import DiveLink.Proofs.Guarded
import DiveLink.Proofs.Port.Line
import DiveLink.Proofs.Preserved

/-!
# Writes that outlast the line

On a half-duplex line the direction is changed as soon as a write returns, so a write must last at
least as long as its bytes are on the wire.  It waits until the port has passed them on, and then
for as long as the settings of the line say that bytes take, less the time that has gone by.  The
settings are those of the last configuration that was taken as a whole.

## Main definitions

* `Call.configured?`, `Link.configurations` — the settings of configurations that succeeded.
* `SerialLine.Steady`, `SerialLine.Commits` — programs that leave the settings alone, and those that
  change them when they succeed as a whole.
* `SerialLine.Outlasts`, `SerialLine.Breaks` — what a write in half-duplex mode leaves behind.
* `LineSettings.transmitTime?` — the time on the wire, computed in words of sixty-four bits.

## Main results

* `SerialLine.settings_calls` — **the settings are those of the last configuration that
  succeeded.**
* `SerialLine.outlasts_of_ok`, `SerialLine.breaks_of_error` — what becomes of a write.
* `LineSettings.transmitTime?_eq` — the time on the wire does not overflow.
* `SerialLine.write_outlasts` — **a write in half-duplex mode outlasts the line**, or fails at once.
-/

namespace DiveLink

/-! ### Time on the wire -/

namespace LineSettings

theorem bitsPerByte_le (s : LineSettings) : s.bitsPerByte ≤ 12 := by
  have hdata : s.dataBits.count ≤ 8 := by cases s.dataBits <;> decide
  have hparity : s.parity.count ≤ 1 := by cases s.parity <;> decide
  have hstop : s.stopBits.count ≤ 2 := by cases s.stopBits <;> decide
  unfold bitsPerByte
  omega

/-- `transmitTime` with a guard in front of each product. -/
def transmitTime? (s : LineSettings) (n : Nat) : Option Nat := do
  let bits ← Guarded.mul? n s.bitsPerByte
  return (← Guarded.mul? bits 1000000) / max s.baud 1

/-- **The time on the wire does not overflow**, up to a terabyte. -/
theorem transmitTime?_eq (s : LineSettings) {n : Nat} (h : n ≤ 0x10000000000) :
    s.transmitTime? n = some (s.transmitTime n) := by
  have hbits : n * s.bitsPerByte ≤ 0x10000000000 * 12 := Nat.mul_le_mul h s.bitsPerByte_le
  rw [transmitTime?, Guarded.mul?_eq (by omega), Option.bind_eq_bind, Option.bind_some,
    Guarded.mul?_eq (by omega)]
  rfl

end LineSettings

/-! ### Configurations -/

/-- The settings that a call has set up, if it is a configuration that succeeded. -/
def Call.configured? : Call → Reply → Option LineSettings
  | configure s, r => if r.failure = none then some s else none
  | _, _ => none

/-- The settings of all configurations among some calls that succeeded, first things first. -/
def Link.configurations (cs : List Call) (rs : List Reply) : List LineSettings :=
  (cs.zip rs).filterMap fun x => x.1.configured? x.2

namespace SerialLine

variable {η : Type} {α β : Type} {line line' : SerialLine η}

/-- The program leaves the settings of the line as they are, whichever way it ends. -/
abbrev Steady (x : Op η α) : Prop := Preserves SerialLine.settings x

/-- The settings are `s` if the program succeeds, and as before if it fails. -/
def Commits (s : LineSettings) (x : Op η Unit) : Prop := ∀ line,
  match x line with
  | .ok _ line' => line'.settings = s
  | .error _ line' => line'.settings = line.settings

namespace Steady

theorem silently {x : Op η α} (hx : Steady x) : Steady (silently x) := hx.bind fun _ => .pure _

variable [SerialHost η]

theorem attempt (c : PortCall) : Steady (attempt c : Op η PortReply) := by
  have hperform : Steady (perform c : Op η PortReply) := fun _ => rfl
  refine hperform.bind fun reply => ?_
  cases reply.failure with
  | none => exact .pure reply
  | some e => exact .throw e.toIoError

theorem clock : Steady (clock : Op η Nat) := Preserves.get.bind fun _ => .pure _

theorem sleep (us : Nat) : Steady (sleep us : Op η Unit) := .modify fun _ => rfl

theorem transfer (c : PortCall) : Steady (transfer c : Op η (Bytes × Option IoError)) :=
  fun _ => rfl

theorem send (data : Bytes) : Steady (send data : Op η Bytes) := by
  refine (transfer (.write data)).bind fun result => ?_
  obtain ⟨sent, _ | e⟩ := result
  · exact .pure sent
  · exact .throw e

theorem drain (start n : Nat) : Steady (drain start n : Op η Unit) := by
  refine Preserves.get.bind fun line => ?_
  cases line.halfDuplex with
  | false => exact .pure ()
  | true => exact (attempt .flush).bind fun _ => clock.bind fun _ => sleep _

theorem write (data : Bytes) : Steady (write data : Op η Nat) :=
  clock.bind fun start => (send data).bind fun _ => (drain start _).bind fun _ => .pure _

end Steady

namespace Commits

variable {s : LineSettings}

theorem behind {x : Op η α} {y : Op η Unit} (hx : Steady x) (hy : Commits s y) :
    Commits s (x >>= fun _ => y) := by
  intro line
  have hx := hx line
  unfold stateBehind at hx
  cases hrun : x line with
  | error e line' =>
    rw [hrun] at hx
    rw [bind_error hrun]
    exact hx
  | ok a line' =>
    rw [hrun] at hx
    rw [bind_ok hrun]
    have hy := hy line'
    cases hrest : y line' with
    | ok _ line'' => rwa [hrest] at hy
    -- the first part left the settings alone, so the failure of the second finds them as they were
    | error e line'' =>
      rw [hrest] at hy
      exact hy.trans hx

/-- **A configuration counts once all of its settings are taken.** -/
theorem configure [SerialHost η] (s : LineSettings) : Commits s (configure s : Op η Unit) :=
  .behind (.attempt _) <| .behind (.attempt _) <| .behind (.attempt _) <| .behind (.attempt _) <|
    .behind (.attempt _) fun _ => rfl

end Commits

variable [SerialHost η]

/-- Every call but a configuration leaves the settings as they are. -/
theorem steady_program {c : Call} (hc : ∀ s, c ≠ .configure s) :
    Steady (program c : Op η Reply) := by
  cases c with
  | configure s => exact absurd rfl (hc s)
  | timeout ms => exact (Steady.attempt _).silently
  | breakLine level => exact (Steady.attempt _).silently
  | dtr level => exact (Steady.attempt _).silently
  | rts level => exact (Steady.attempt _).silently
  -- the mode is no part of the settings
  | halfDuplex enable =>
    have hmodify : Steady (modify fun line => { line with halfDuplex := enable } : Op η PUnit) :=
      .modify fun _ => rfl
    exact hmodify.silently
  | flush queue => exact (Steady.attempt _).silently
  | sleep ms => exact (Steady.sleep _).silently
  | read n => exact (Steady.transfer _).bind fun _ => .pure _
  | write data => exact (Steady.write data).bind fun _ => .pure _
  | close => exact .pure _

theorem call_eq_stateBehind (c : Call) (line : SerialLine η) :
    (Link.call c line).2 = stateBehind (program c) line := by
  show (replyOf (program c) line).2 = _
  unfold replyOf stateBehind
  cases program c line <;> rfl

/-- What one call does to the settings. -/
theorem settings_call (c : Call) (line : SerialLine η) :
    (Link.call c line).2.settings =
      (c.configured? (Link.call c line).1).getD line.settings := by
  -- only a configuration touches the settings, and only one that succeeds as a whole
  cases c with
  | configure s =>
    have hcommits := Commits.configure s line
    have hcall : Link.call (.configure s) line = replyOf (silently (configure s)) line := rfl
    rw [hcall]
    unfold replyOf silently
    cases hrun : configure s line with
    | ok _ line' =>
      rw [hrun] at hcommits
      rw [bind_ok hrun]
      exact hcommits
    | error e line' =>
      rw [hrun] at hcommits
      rw [bind_error hrun]
      exact hcommits
  | _ =>
    rw [call_eq_stateBehind]
    exact steady_program (fun _ h => Call.noConfusion h) line

/-- **The settings are those of the last configuration that succeeded**, or as they were. -/
theorem settings_calls (cs : List Call) (line : SerialLine η) :
    (Link.calls cs line).2.settings =
      (Link.configurations cs (Link.calls cs line).1).getLast?.getD line.settings := by
  induction cs generalizing line with
  | nil => rfl
  -- the last of the configurations is one of the later ones, or else that of the first call
  | cons c cs ih =>
    have hcons : Link.configurations (c :: cs) (Link.calls (c :: cs) line).1 =
        (c.configured? (Link.call c line).1).toList ++
          Link.configurations cs (Link.calls cs (Link.call c line).2).1 := by
      show List.filterMap _ ((c, (Link.call c line).1) :: cs.zip _) = _
      rw [List.filterMap_cons]
      cases c.configured? (Link.call c line).1 <;> rfl
    have hlast : (Link.calls (c :: cs) line).2 = (Link.calls cs (Link.call c line).2).2 := rfl
    rw [hlast, ih, hcons, settings_call, List.getLast?_append]
    cases (Link.configurations cs (Link.calls cs (Link.call c line).2).1).getLast? with
    | some s => rfl
    | none => cases c.configured? (Link.call c line).1 <;> rfl

/-! ### What a write leaves behind -/

/-- A write in half-duplex mode that succeeds with `n` bytes: the entries `es` are those of its
transfer, behind them the port is flushed, which leaves the ports `flushed`, and then the line
sleeps for `us` microseconds. -/
structure Outlasts (data : Bytes) (s : LineSettings) (line : SerialLine η) (n : Nat)
    (line' : SerialLine η) (es : List PortEntry) (flush : PortReply) (flushed : Ports η)
    (us : Nat) : Prop where
  /-- Each call of the transfer writes what is left of the data. -/
  pieces : ∀ x ∈ es, ∃ k r, x = .call line.name (.write (data.drop k)) r
  /-- As many bytes went out as the write says. -/
  sent : es.flatMap PortEntry.outgoing = data.take n ∧ n ≤ data.length
  /-- The port is flushed once, behind the last byte. -/
  journal : flushed.journal =
    .call line.name .flush flush :: (es.reverse ++ line.ports.journal)
  /-- Nothing failed but for interruptions and silence. -/
  soft : flush.failure = none ∧ ∀ c r f, .call line.name c r ∈ es → r.failure = some f →
    f.toIoError.kind = .interrupted ∨ f.toIoError.kind = .timedOut
  slept : line'.ports = flushed.sleep us
  /-- The time that has gone by and the sleep are as long as the bytes are on the wire, if not
  longer. -/
  time : SerialHost.clock flushed.host - SerialHost.clock line.ports.host + us =
    max (SerialHost.clock flushed.host - SerialHost.clock line.ports.host)
      (n * s.bitsPerByte * 1000000 / max s.baud 1)

/-- A write that fails as `e`: the entries `es` are those of its calls. -/
structure Breaks (data : Bytes) (line : SerialLine η) (e : IoError) (line' : SerialLine η)
    (es : List PortEntry) : Prop where
  journal : line'.ports.journal = es.reverse ++ line.ports.journal
  /-- The port was asked to write or to flush, and the line did not sleep. -/
  calls : ∀ x ∈ es, ∃ c r, x = .call line.name c r ∧ (c = .flush ∨ ∃ k, c = .write (data.drop k))
  /-- The failure is that of the last call. -/
  last : ∃ c r f, es.getLast? = some (.call line.name c r) ∧ r.failure = some f ∧ f.toIoError = e
  /-- Each failure but interruptions and silence is the one that the write tells. -/
  hard : ∀ c r f, .call line.name c r ∈ es → r.failure = some f →
    f.toIoError.kind ≠ .interrupted → f.toIoError.kind ≠ .timedOut → f.toIoError = e

/-- Waiting for the wire: the port is flushed, and the line sleeps for the time that is left. -/
theorem drain_halfDuplex {line : SerialLine η} (h : line.halfDuplex = true) (start n : Nat) :
    drain start n line =
      match (line.ports.call line.name .flush).1.failure with
      | some e => .error e.toIoError { line with ports := (line.ports.call line.name .flush).2 }
      | none =>
        let q := (line.ports.call line.name .flush).2
        let elapsed := SerialHost.clock q.host - start
        .ok () { line with ports := q.sleep (line.settings.transmitTime n - elapsed) } := by
  have hflush := attempt_eq .flush line
  have hget : (get : Op η (SerialLine η)) line = .ok line line := rfl
  rw [drain, bind_ok hget, if_pos h]
  cases hfailure : (line.ports.call line.name .flush).1.failure with
  | none =>
    rw [hfailure] at hflush
    rw [bind_ok hflush]
    rfl
  | some e =>
    rw [hfailure] at hflush
    rw [bind_error hflush]

/-- A write in half-duplex mode: the transfer, and behind it the flush and the sleep. -/
theorem write_halfDuplex {line : SerialLine η} (h : line.halfDuplex = true) (data : Bytes) :
    write data line =
      match line.ports.transfer line.name (.write data) with
      | ((_, some e), q) => .error e { line with ports := q }
      | ((sent, none), q) =>
        match (q.call line.name .flush).1.failure with
        | some e => .error e.toIoError { line with ports := (q.call line.name .flush).2 }
        | none =>
          let flushed := (q.call line.name .flush).2
          let elapsed := SerialHost.clock flushed.host - SerialHost.clock line.ports.host
          .ok sent.length { line with
            ports := flushed.sleep (line.settings.transmitTime sent.length - elapsed) } := by
  have hsend := send_eq data line
  rcases htransfer : line.ports.transfer line.name (.write data) with ⟨⟨sent, e⟩, q⟩
  rw [htransfer] at hsend
  cases e with
  | some e => exact write_error hsend
  | none =>
    -- the transfer leaves the mode as it is, so the line is drained
    have hq : ({ line with ports := q } : SerialLine η).halfDuplex = true := h
    have hdrain := drain_halfDuplex hq (SerialHost.clock line.ports.host) sent.length
    refine (write_sent hsend).trans ?_
    dsimp only at hdrain ⊢
    cases hfailure : (q.call line.name .flush).1.failure with
    | some e =>
      rw [hfailure] at hdrain
      rw [hdrain]
    | none =>
      rw [hfailure] at hdrain
      rw [hdrain]

/-- **A write that succeeds outlasts the line.** -/
theorem outlasts_of_ok {data : Bytes} {n : Nat} (hduplex : line.halfDuplex = true)
    (h : write data line = .ok n line') :
    ∃ es flush flushed us, Outlasts data line.settings line n line' es flush flushed us := by
  have htransfers := Ports.transfers line.name (.write data) line.ports
  rw [write_halfDuplex hduplex] at h
  rcases hq : line.ports.transfer line.name (.write data) with ⟨⟨sent, _ | e⟩, q⟩
  · rw [hq] at htransfers h
    -- what was sent is what the entries of the transfer have moved, in front of the flush
    obtain ⟨es, hjournal, -, hfaithful⟩ := htransfers.faithful
    dsimp only at h
    cases hfailure : (q.call line.name .flush).1.failure with
    | some f =>
      rw [hfailure] at h
      exact absurd h (by simp)
    | none =>
      rw [hfailure] at h
      cases h
      have hfirst := htransfers.sent
      refine ⟨es, (q.call line.name .flush).1, (q.call line.name .flush).2, _, ?_,
        ⟨?_, hfirst.length_le⟩, ?_, ⟨hfailure, ?_⟩, rfl, ?_⟩
      · intro x hx
        obtain ⟨k, r, rfl⟩ := hfaithful.mem hx
        exact ⟨k, r, rfl⟩
      · rw [hfaithful.outgoing_write]
        exact List.prefix_iff_eq_take.1 hfirst
      · rw [← hjournal]
        rfl
      · -- no call of the transfer failed for good, since the write succeeded
        intro c r f hmem hf
        by_contra hnot
        obtain ⟨hinterrupted, htimedOut⟩ := not_or.1 hnot
        exact absurd (hfaithful.ends c r f hmem hf hinterrupted htimedOut) (by simp)
      · -- the sleep is what is missing from the transmission time, if anything is
        unfold LineSettings.transmitTime
        omega
  · rw [hq] at h
    exact absurd h (by simp)

/-- **A write that fails tells the failure of the port, and does not sleep.** -/
theorem breaks_of_error {data : Bytes} {e : IoError} (hduplex : line.halfDuplex = true)
    (h : write data line = .error e line') : ∃ es, Breaks data line e line' es := by
  have htransfers := Ports.transfers line.name (.write data) line.ports
  rw [write_halfDuplex hduplex] at h
  rcases hq : line.ports.transfer line.name (.write data) with ⟨⟨sent, cause⟩, q⟩
  rw [hq] at htransfers h
  obtain ⟨es, hjournal, -, hfaithful⟩ := htransfers.faithful
  have hcalls : ∀ x ∈ es, ∃ c r, x = .call line.name c r ∧
      (c = .flush ∨ ∃ k, c = .write (data.drop k)) := by
    intro x hx
    obtain ⟨k, r, rfl⟩ := hfaithful.mem hx
    exact ⟨_, r, rfl, .inr ⟨k, rfl⟩⟩
  cases cause with
  | some cause =>
    cases h
    obtain ⟨-, -, r, f, hlast, hf, hcause⟩ := hfaithful.failed e rfl
    refine ⟨es, hjournal, hcalls, ⟨_, r, f, hlast, hf, hcause⟩, ?_⟩
    intro c r f hmem hf hinterrupted htimedOut
    exact (Option.some.inj (hfaithful.ends c r f hmem hf hinterrupted htimedOut)).symm
  | none =>
    dsimp only at h
    cases hfailure : (q.call line.name .flush).1.failure with
    | none =>
      rw [hfailure] at h
      exact absurd h (by simp)
    | some f =>
      rw [hfailure] at h
      cases h
      -- the flush is the one call behind the transfer
      refine ⟨es ++ [.call line.name .flush (q.call line.name .flush).1], ?_, ?_, ?_, ?_⟩
      · rw [List.reverse_append, List.append_assoc, ← hjournal]
        rfl
      · intro x hx
        rcases List.mem_append.1 hx with hx | hx
        · exact hcalls x hx
        · exact ⟨_, _, List.mem_singleton.1 hx, .inl rfl⟩
      · exact ⟨_, _, f, List.getLast?_concat .., hfailure, rfl⟩
      · intro c r g hmem hg hinterrupted htimedOut
        rcases List.mem_append.1 hmem with hmem | hmem
        · exact absurd (hfaithful.ends c r g hmem hg hinterrupted htimedOut) (by simp)
        · cases List.mem_singleton.1 hmem
          rw [Option.some.inj (hfailure.symm.trans hg)]

/-- A line that is opened has the settings of the rate that the port tells. -/
theorem openNamed_ok {name : String} {force : Bool} {p q : Ports η}
    (h : openNamed name force p = (.ok line, q)) :
    ∃ r, line.ports.journal.head? = some (.call line.name .getBaud r) ∧ r.failure = none ∧
      line.settings = .n81 r.baud := by
  unfold openNamed at h
  rcases hport : p.openNamed name force with ⟨e | port, p'⟩
  · rw [hport] at h
    exact absurd h (by simp)
  · rw [hport] at h
    dsimp only at h
    -- the rate is the last thing that is asked for, so it is the latest entry
    cases hfailure : (p'.call port .getBaud).1.failure with
    | some e =>
      rw [hfailure] at h
      exact absurd h (by simp)
    | none =>
      rw [hfailure] at h
      cases h
      exact ⟨_, rfl, hfailure, rfl⟩

/-- **A write in half-duplex mode outlasts the line.**  The port is flushed once, behind the last
byte that it took, and the time that has gone by and the sleep behind it are as long as the bytes
are on the wire, if not longer.  That time is computed from the last configuration that was taken as
a whole, or from the rate that the port had when it was opened, and it does not overflow.  A write
that fails tells how, and does not sleep. -/
theorem write_outlasts {name : String} {force : Bool} {p q : Ports η} (cs : List Call)
    (data : Bytes) (hopen : openNamed name force p = (.ok line, q))
    (hduplex : (Link.calls cs line).2.halfDuplex = true) :
    ∃ r, line.ports.journal.head? = some (.call line.name .getBaud r) ∧ r.failure = none ∧
      let used := (Link.calls cs line).2
      let s := (Link.configurations cs (Link.calls cs line).1).getLast?.getD (.n81 r.baud)
      (∀ n line', write data used = .ok n line' →
        ∃ es flush flushed us, Outlasts data s used n line' es flush flushed us) ∧
      (∀ e line', write data used = .error e line' → ∃ es, Breaks data used e line' es) ∧
      ∀ n, n ≤ 0x10000000000 →
        s.transmitTime? n = some (n * s.bitsPerByte * 1000000 / max s.baud 1) := by
  obtain ⟨r, hhead, hfailure, hsettings⟩ := openNamed_ok hopen
  refine ⟨r, hhead, hfailure, ?_⟩
  rw [← hsettings, ← settings_calls cs line]
  exact ⟨fun n line' h => outlasts_of_ok hduplex h, fun e line' h => breaks_of_error hduplex h,
    fun n hn => LineSettings.transmitTime?_eq _ hn⟩

/-- A host with a port that takes two bytes at a time, and three hundred microseconds for them. -/
def twoByTwo : Ports Bench.Host :=
  ⟨{ ports := [("port", { writeMost := some 2, writeTime := 300 })], around := { now := 0 } }, []⟩

/-- Settings by which a byte takes eleven bits. -/
def elevenBits : LineSettings := ⟨4800, .seven, .even, .two, .none⟩

/-- Five bytes of eleven bits at 4800 baud are 11458 microseconds on the wire.  The port takes 900
of them, and the line sleeps for the rest. -/
theorem write_outlasts_two_by_two :
    ∃ line q, openNamed "port" false twoByTwo = (.ok line, q) ∧
      let used := (Link.calls [.configure elevenBits, .halfDuplex true] line).2
      used.halfDuplex = true ∧ ∃ line', write [1, 2, 3, 4, 5] used = .ok 5 line' ∧
        line'.ports.journal.head? = some (.slept 10558) ∧
        ∃ es flush flushed us,
          Outlasts [1, 2, 3, 4, 5] elevenBits used 5 line' es flush flushed us := by
  obtain ⟨cs, hcs⟩ : ∃ cs : List Call, cs = [.configure elevenBits, .halfDuplex true] := ⟨_, rfl⟩
  -- the run is evaluated once, and the theorem applied to what it leaves
  obtain ⟨line, q, hopen, hduplex, hconfigured, hwritten⟩ : ∃ line q,
      openNamed "port" false twoByTwo = (.ok line, q) ∧
        (Link.calls cs line).2.halfDuplex = true ∧
        Link.configurations cs (Link.calls cs line).1 = [elevenBits] ∧
        (match write [1, 2, 3, 4, 5] (Link.calls cs line).2 with
          | .ok n line' => n == 5 && line'.ports.journal.head? == some (.slept 10558)
          | .error _ _ => false) = true := by
    subst hcs
    exact ⟨_, _, rfl, rfl, rfl, by decide +kernel⟩
  obtain ⟨r, -, -, houtlasts, -⟩ := write_outlasts cs [1, 2, 3, 4, 5] hopen hduplex
  rw [hconfigured] at houtlasts
  refine ⟨line, q, hopen, ?_⟩
  rw [← hcs]
  cases hwrite : write [1, 2, 3, 4, 5] (Link.calls cs line).2 with
  | error e line' =>
    rw [hwrite] at hwritten
    cases hwritten
  | ok n line' =>
    rw [hwrite] at hwritten
    obtain ⟨hn, hslept⟩ := Bool.and_eq_true_iff.1 hwritten
    obtain rfl : n = 5 := eq_of_beq hn
    exact ⟨hduplex, line', hwrite, eq_of_beq hslept, houtlasts 5 line' hwrite⟩

end SerialLine
end DiveLink
