import DiveLink.Proofs.Lockstep
import DiveLink.Proofs.Port.Cutter

/-!
# Fragmentation makes no difference

A serial port hands over bytes in pieces of its own choice and interrupts calls.  A line on it makes
whole transfers of them, and so two ports that cut the same wire in different ways serve a device in
the same way.

## Main results

* `SerialLine.lockstep` — two lines on one wire answer alike.
* `Device.fragmentation_invisible` — **each byte is moved once and in order, and whatever is done
  with a device is the same on all ports that cut one wire.**
-/

namespace DiveLink

open SerialLine (Reads Writes Moves Shares)
open Session (Ended)

variable {η η' τ : Type} [SerialHost η] [SerialHost η'] [Wire τ] {R : η → τ → Prop}
  {R' : η' → τ → Prop} {T : Nat → Nat → Prop}

/-- Two lines on one wire answer alike, at the times that their hosts have. -/
theorem SerialLine.lockstep {port port' : String} {out out' : Bytes} (hR : Cuts port R)
    (hR' : Cuts port' R') (hnow : ∀ h h' t, R h t → R' h' t →
      T (SerialHost.now h).toNat (SerialHost.now h').toNat) :
    Lockstep (Shares port port' R R' out out') T where
  call c h := h.call hR hR' c
  cancelled token h := by
    obtain ⟨t, ht, ht'⟩ := h.wire
    exact (hR.cancelled token ht).trans (hR'.cancelled token ht').symm
  now h := by
    obtain ⟨t, ht, ht'⟩ := h.wire
    exact hnow _ _ t ht ht'

namespace Device

/-- **Fragmentation makes no difference.**  On a port that keeps its contract each byte is moved
once and in order, whatever pieces it is moved in, and a transfer is short only where the port is
silent.  So whatever is done with a device leaves the same with the caller, reports the same and
sends the same bytes on all ports that cut one wire, but for the time of the host. -/
theorem fragmentation_invisible :
    (∀ {η : Type} [SerialHost η] (line : SerialLine η), Honest η line.name →
      (∀ n, ∃ es, Reads n line es (Link.call (.read n) line).1 (Link.call (.read n) line).2) ∧
      (∀ (buffer : Bytes) (outcome : Except DeviceError Unit),
        let got := (Link.call (.read buffer.length) line).1.received
        let filled := (Receipt.mk got outcome).fill buffer
        filled.length = buffer.length ∧ filled.take got.length = got ∧
          filled.drop got.length = buffer.drop got.length) ∧
      (∀ data, ∃ es rest sent e, Writes data line es rest sent e (Link.call (.write data) line).1
        (Link.call (.write data) line).2) ∧
      ∀ cs, ∃ sent, Moves ((Link.calls cs line).1.flatMap Reply.received) sent line
          (Link.calls cs line).2 ∧
        ((∀ r ∈ (Link.calls cs line).1, r.failure = none) →
          sent = (cs.zip (Link.calls cs line).1).flatMap fun x => x.1.sent x.2)) ∧
    ∀ {η η' τ : Type} [SerialHost η] [SerialHost η'] [Wire τ] {R : η → τ → Prop}
      {R' : η' → τ → Prop} {T : Nat → Nat → Prop} {line : SerialLine η} {line' : SerialLine η'}
      {t : τ},
      Cuts line.name R → Cuts line'.name R' →
      (∀ h h' t, R h t → R' h' t → T (SerialHost.now h).toNat (SerialHost.now h').toNat) →
      R line.ports.host t → R' line'.ports.host t → line.halfDuplex = line'.halfDuplex →
      let S := Shares line.name line'.name R R' line.ports.outgoing line'.ports.outgoing
      (∀ family token, Opening.Alike S T (openLink family line token)
        (openLink family line' token)) ∧
      ∀ (d : Device (SerialLine η)) (d' : Device (SerialLine η')), Device.Alike S T d d' →
        ∀ as : List (Action Empty),
          let e := after (as.map Action.elsewhere) d
          let e' := after (as.map Action.elsewhere) d'
          receipts (as.map Action.elsewhere) d = receipts (as.map Action.elsewhere) d' ∧
            List.Forall₂ (Entry.Alike T) e.history e'.history ∧
            Ended (Option.Rel (Clock.Alike T)) e.clock.1 e'.clock.1 ∧
            (∃ sent, e.link.ports.outgoing = line.ports.outgoing ++ sent ∧
              e'.link.ports.outgoing = line'.ports.outgoing ++ sent) ∧
            Device.Alike S T e e' := by
  -- for one line the transfers are whole, and two lines are in step by their wires
  refine ⟨fun line hport => ⟨SerialLine.reads hport, fun buffer outcome => ?_,
    fun data => SerialLine.writes data line, fun cs => SerialLine.moves_calls cs hport⟩, ?_⟩
  · intro got filled
    obtain ⟨es, hreads⟩ := SerialLine.reads hport buffer.length
    have hle : got.length ≤ buffer.length := hreads.faithful.length_le
    refine ⟨?_, List.take_left, List.drop_left⟩
    show (got ++ buffer.drop got.length).length = buffer.length
    rw [List.length_append, List.length_drop]
    omega
  · intro η η' τ _ _ _ R R' T line line' t hR hR' hnow hline hline' hduplex S
    have hlink : Lockstep S T := SerialLine.lockstep hR hR' hnow
    refine ⟨fun family token => alike_openLink hlink family token (.start hline hline' hduplex),
      fun d d' h as => ?_⟩
    obtain ⟨hreceipts, halike⟩ := alike_after hlink as h
    exact ⟨hreceipts, halike.history, (same_clock halike).result, halike.link.sent, halike⟩

/-- A version block that comes in pieces with an interruption between them, and one that comes as a
whole. -/
theorem fragmentation_invisible_version :
    let line := Cutter.line [0x0F, 0x00, 0x04, 0x14, 0x01, 0x02, 0x03, 0x1F] [1, 0, 1] false
    let line' := Cutter.line [0x0F, 0x00, 0x04, 0x14, 0x01, 0x02, 0x03, 0x1F] [] true
    (Link.call (.read 3) line).1.received = [0x0F, 0x00, 0x04] ∧
      (∃ es, Reads 3 line es (Link.call (.read 3) line).1 (Link.call (.read 3) line).2) ∧
      ∃ d d', openLink .vyper2 line ⟨0⟩ = .opened d ∧ openLink .vyper2 line' ⟨0⟩ = .opened d' ∧
        receipts [.operate (.version 4)] d = receipts [.operate (.version 4)] d' := by
  intro line line'
  obtain ⟨htransfers, hdevices⟩ := fragmentation_invisible
  have hcuts : Cuts line.name fun (h : Cutter) (t : Tape) => h.tape = t := Cutter.cuts _
  have hcuts' : Cuts line'.name fun (h : Cutter) (t : Tape) => h.tape = t := Cutter.cuts _
  have hread : (Link.call (.read 3) line).1.received = [0x0F, 0x00, 0x04] := by
    obtain ⟨stop, t, hmoves, -⟩ :=
      (Ports.transfers line.name (.read 3) line.ports).carried hcuts rfl
    exact (congrArg (fun x => x.1.1) hmoves).symm
  refine ⟨hread, (htransfers line (Cutter.honest _)).1 3, ?_⟩
  obtain ⟨hopen, hafter⟩ := hdevices (T := Eq) hcuts hcuts' (fun _ _ _ _ _ => rfl) rfl rfl rfl
  have halike := hopen .vyper2 ⟨0⟩
  rcases hline : openLink .vyper2 line ⟨0⟩ with d | ⟨e, x, past⟩
  · rcases hline' : openLink .vyper2 line' ⟨0⟩ with d' | ⟨e, x, past⟩
    · rw [hline, hline'] at halike
      cases halike with
      | opened h => exact ⟨d, d', rfl, rfl, (hafter d d' h [.operate (.version 4)]).1⟩
    · cases hline'
  · cases hline

end Device
end DiveLink
