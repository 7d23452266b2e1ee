import DiveLink.Bench.Directory
import DiveLink.Bench.Host
import DiveLink.Main
import DiveLink.Proofs.Bench
import DiveLink.Proofs.Block
import DiveLink.Proofs.BreakLine
import DiveLink.Proofs.Checksum
import DiveLink.Proofs.CommandLine.AllOrNothing
import DiveLink.Proofs.CommandLine.HexArgument
import DiveLink.Proofs.CommandLine.Number
import DiveLink.Proofs.Corruption
import DiveLink.Proofs.Dump
import DiveLink.Proofs.FailFast
import DiveLink.Proofs.Fragmentation
import DiveLink.Proofs.Greedy
import DiveLink.Proofs.Greeting
import DiveLink.Proofs.Guarded
import DiveLink.Proofs.Handle
import DiveLink.Proofs.Heedless
import DiveLink.Proofs.Incremental
import DiveLink.Proofs.Lockstep
import DiveLink.Proofs.Memory
import DiveLink.Proofs.Overlooked
import DiveLink.Proofs.Overrun
import DiveLink.Proofs.Packet
import DiveLink.Proofs.Packet.Acceptance
import DiveLink.Proofs.Packet.Damage
import DiveLink.Proofs.Parallel
import DiveLink.Proofs.Port.Cutter
import DiveLink.Proofs.Port.HalfDuplex
import DiveLink.Proofs.Port.Line
import DiveLink.Proofs.Port.Selection
import DiveLink.Proofs.Port.Transfer
import DiveLink.Proofs.Port.Wire
import DiveLink.Proofs.Preserved
import DiveLink.Proofs.Progressing
import DiveLink.Proofs.Recollection
import DiveLink.Proofs.Records
import DiveLink.Proofs.Rejection
import DiveLink.Proofs.Ring.Distance
import DiveLink.Proofs.Ring.Guarded
import DiveLink.Proofs.Ring.Stored
import DiveLink.Proofs.Ring.Walk
import DiveLink.Proofs.Sample.FlagWord
import DiveLink.Proofs.Session.Alike
import DiveLink.Proofs.Session.Announced
import DiveLink.Proofs.Session.Compositional
import DiveLink.Proofs.Session.Decided
import DiveLink.Proofs.Session.Discipline
import DiveLink.Proofs.Session.Exchange
import DiveLink.Proofs.Session.Growth
import DiveLink.Proofs.Session.Pattern
import DiveLink.Proofs.Session.Traced
import DiveLink.Proofs.Stream
import DiveLink.Proofs.Text.Digits
import DiveLink.Proofs.Verified
import DiveLink.Proofs.Vyper2.Agreement
import DiveLink.Proofs.Vyper2.Carried
import DiveLink.Proofs.Vyper2.Dialogue
import DiveLink.Proofs.Vyper2.Download
import DiveLink.Proofs.Vyper2.Exchanging
import DiveLink.Proofs.Vyper2.Guarded
import DiveLink.Proofs.Vyper2.Interrupted
import DiveLink.Proofs.Vyper2.Ranges
import DiveLink.Proofs.Vyper2.Reading
import DiveLink.Proofs.Vyper2.Recovery
import DiveLink.Proofs.Vyper2.Requests
import DiveLink.Proofs.Vyper2.RoundTrip
import DiveLink.Proofs.Vyper2.SendLine
import DiveLink.Proofs.Vyper2.Simulator
import DiveLink.Proofs.Vyper2.Soundness
import DiveLink.Proofs.Vyper2.Wired
import DiveLink.Proofs.Vyper2.Writing
import DiveLink.Sample
import DiveLink.Session.Run
