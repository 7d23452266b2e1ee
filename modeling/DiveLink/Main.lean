import DiveLink.CommandLine.Tool

/-!
# The program

The tool on a host whose serial ports are out of reach: each listing is empty, and no port can be
opened.
-/

namespace DiveLink

/-- A host without serial ports. -/
structure BareHost where
  deriving Inhabited

instance : SerialHost BareHost where
  available _ := .ok []
  glob _ _ := some []
  readLink _ _ := none
  call _ _ h := ({ failure := some ⟨.noDevice, "No such file or directory"⟩ }, h)
  sleep _ h := h
  clock _ := 0
  cancelled _ _ := false
  now _ := 0
  restless _ _ _ := 0
  restless_call _ h := absurd h Bool.false_ne_true

/-- Files that are still to be written, latest first. -/
structure Outbox where
  files : List (String × Bytes)
  deriving Inhabited

instance : FileStore Outbox where
  write name b o := (.ok (), ⟨(name, b) :: o.files⟩)

/-- Runs the tool and does what it asks for. -/
def program (words : List String) : IO UInt32 := do
  let (outcome, _, outbox) := Tool.run words (Ports.mk (BareHost.mk) []) (Outbox.mk [])
  for (name, b) in outbox.files.reverse do
    IO.FS.writeBinFile name (ByteArray.mk b.toArray)
  for line in outcome.log do
    IO.eprintln line.shown
  unless outcome.output.isEmpty do
    IO.println outcome.output
  return outcome.status.toUInt32

end DiveLink

/-- Runs the tool with the words of the command line. -/
def main (words : List String) : IO UInt32 := DiveLink.program words
