import DiveLink.CommandLine.HexArgument
import DiveLink.CommandLine.Level
import DiveLink.CommandLine.Number
import DiveLink.Family
import DiveLink.Port.Selection

/-!
# Command lines

What a command line asks for.

## Main definitions

* `Command`, `Invocation` — a command, and the choices that go with it.
* `Invocation.parse` — the meaning of the words of a command line.
-/

namespace DiveLink

/-- What is to be done. -/
inductive Command
  | families
  | version
  | read (address count : Nat)
  | write (address : Nat) (values : Bytes)
  | dump (file : String)
  | dives (fingerprint : Option Bytes)
  | handshake
  | setInterval (seconds : Nat)
  | resetMaxDepth
  deriving DecidableEq, Repr, Inhabited

/-- A command and the choices that go with it. -/
structure Invocation where
  force : Bool
  debug : Bool
  json : Bool
  port : String
  family : Option Family
  command : Command
  deriving DecidableEq, Repr, Inhabited

namespace Command

/-- Asks for help. -/
def helpSwitch : Switch := ⟨"help", some 'h', .help⟩

/-- The fingerprint of the newest dive already known. -/
def fingerprintSwitch : Switch := ⟨"fingerprint", none, .value⟩

/-- Operands and nothing else; `required` of them have to be there. -/
def operands (required : Nat) (more : Bool) (words : List String) :
    Except UsageError (List String) := do
  let level : Level := { switches := [helpSwitch], operands := required, more }
  let found ← level.scan words
  if found.operands.length < required + more.toNat then throw .missingRequiredArgument
  return found.operands

/-- A number below a limit. -/
def number (limit : Nat) (word : String) : Except UsageError Nat :=
  match Number.parse? limit word with
  | some n => .ok n
  | none => .error .valueValidation

/-- The limit of addresses and counts. -/
def wordLimit : Nat := 4294967296

/-- The limit of bytes. -/
def byteLimit : Nat := 256

/-- A command without operands. -/
def plain (c : Command) (words : List String) : Except UsageError Command := do
  let _ ← operands 0 false words
  return c

/-- Reads an address and a count. -/
def parseRead (words : List String) : Except UsageError Command := do
  match ← operands 2 false words with
  | address :: count :: _ => return .read (← number wordLimit address) (← number wordLimit count)
  | _ => throw .missingRequiredArgument

/-- Reads an address and at least one byte. -/
def parseWrite (words : List String) : Except UsageError Command := do
  match ← operands 1 true words with
  | address :: values =>
    let address ← number wordLimit address
    let values ← values.mapM (number byteLimit)
    return .write address (values.map UInt8.ofNat)
  | _ => throw .missingRequiredArgument

/-- Reads the name of a file. -/
def parseDump (words : List String) : Except UsageError Command := do
  match ← operands 1 false words with
  | file :: _ => return .dump file
  | _ => throw .missingRequiredArgument

/-- Reads a fingerprint, if there is one. -/
def parseDives (words : List String) : Except UsageError Command := do
  let level : Level := { switches := [fingerprintSwitch, helpSwitch] }
  let found ← level.scan words
  found.check fun _ v => (HexArgument.parse? v).isSome
  return .dives ((found.values fingerprintSwitch).head?.bind HexArgument.parse?)

/-- Reads a number of seconds. -/
def parseSetInterval (words : List String) : Except UsageError Command := do
  match ← operands 1 false words with
  | seconds :: _ => return .setInterval (← number byteLimit seconds)
  | _ => throw .missingRequiredArgument

/-- The commands that do something, by name, with the reader of the words behind the name. -/
def readers : List (String × (List String → Except UsageError Command)) :=
  [("families", plain .families),
    ("version", plain .version),
    ("read", parseRead),
    ("reada", parseRead),
    ("write", parseWrite),
    ("writea", parseWrite),
    ("dump", parseDump),
    ("dives", parseDives),
    ("handshake", plain .handshake),
    ("set-interval", parseSetInterval),
    ("reset-maxdepth", plain .resetMaxDepth)]

/-- The name of the command that asks for help. -/
def helpName : String := "help"

/-- The names of all commands. -/
def names : List String := readers.map (·.1) ++ [helpName]

/-- What comes of asking for help about some words, which should name one command at most. -/
def help : List String → UsageError
  | [] => .help
  | [name] => if names.contains name then .help else .unrecognizedSubcommand
  | _ => .unrecognizedSubcommand

/-- The meaning of a command and the words behind it. -/
def parse (name : String) (words : List String) : Except UsageError Command :=
  if name = helpName then .error (help words)
  else
    match readers.lookup name with
    | some reader => reader words
    | none => .error .invalidSubcommand

end Command

namespace Invocation

/-- Skips checks. -/
def forceSwitch : Switch := ⟨"force", some 'f', .flag⟩

/-- Tells more. -/
def debugSwitch : Switch := ⟨"debug", some 'd', .flag⟩

/-- Chooses the port. -/
def portSwitch : Switch := ⟨"port", some 'p', .value⟩

/-- Asks for output that programs can read. -/
def jsonSwitch : Switch := ⟨"json", some 'j', .flag⟩

/-- Chooses the family. -/
def familySwitch : Switch := ⟨"family", some 'F', .value⟩

/-- Asks for the version of the tool. -/
def versionSwitch : Switch := ⟨"version", some 'V', .version⟩

/-- What may stand in front of the command. -/
def level : Level :=
  { switches :=
      [forceSwitch, debugSwitch, portSwitch, jsonSwitch, familySwitch, Command.helpSwitch,
        versionSwitch]
    commands := Command.names }

/-- Whether a switch in front of the command may have a value. -/
def valid (switch : Switch) (value : String) : Bool :=
  switch != familySwitch || (Family.ofName? value).isSome

/-- The meaning of the words of a command line.  The words behind the command are looked at before
those in front of it. -/
def parse (words : List String) : Except UsageError Invocation := do
  let found ← level.scan words
  match found.command with
  | none => throw .missingSubcommand
  | some (name, rest) =>
    let command ← Command.parse name rest
    found.check valid
    return {
      force := found.has forceSwitch
      debug := found.has debugSwitch
      json := found.has jsonSwitch
      port := (found.values portSwitch).head?.getD anyPort
      family := (found.values familySwitch).head?.bind Family.ofName?
      command }

end Invocation

end DiveLink
