import DiveLink.CommandLine.Similarity

/-!
# Words of a command line

A command line is read word by word.  Switches begin with one or two dashes, some of them take a
value; other words are operands, up to the first that is the name of a command.  The words behind
that name are read anew, by the rules of the command.

## Main definitions

* `UsageError` — what is wrong with a command line.
* `Switch`, `Level` — the switches, operands and commands of one stretch of the command line.
* `Level.scan` — sorts words by these rules.
* `Scanned.check` — whether each switch was given as it should.
-/

namespace DiveLink

/-- What is wrong with a command line, or what it asks for instead of a command. -/
inductive UsageError
  | valueValidation | missingRequiredArgument | unknownArgument | emptyValue | invalidSubcommand
  | unrecognizedSubcommand | missingSubcommand | multipleUsage | tooManyValues | help | version
  deriving DecidableEq, Repr, Inhabited

/-- What a switch does. -/
inductive SwitchKind
  | flag
  /-- The next word, or the rest of the same, is its value. -/
  | value
  | help | version
  deriving DecidableEq, Repr, Inhabited

/-- A switch. -/
structure Switch where
  /-- The name behind two dashes. -/
  long : String
  /-- The name behind one dash. -/
  short : Option Char
  kind : SwitchKind
  deriving DecidableEq, Repr, Inhabited

/-- A switch that was given. -/
structure Occurrence where
  switch : Switch
  value : Option String
  deriving DecidableEq, Repr, Inhabited

/-- What may stand in one stretch of a command line. -/
structure Level where
  switches : List Switch
  /-- How many operands there are, one word each. -/
  operands : Nat := 0
  /-- Whether any number of words may follow as a last operand. -/
  more : Bool := false
  commands : List String := []
  deriving DecidableEq, Repr, Inhabited

/-- What was found in one stretch of a command line. -/
structure Scanned where
  /-- The switches, first things first. -/
  occurrences : List Occurrence
  operands : List String
  /-- The command, and the words behind it. -/
  command : Option (String × List String)
  deriving DecidableEq, Repr, Inhabited

/-- What was found so far. -/
structure Scan where
  /-- The switches, latest first. -/
  occurrences : List Occurrence := []
  /-- The operands, latest first. -/
  operands : List String := []
  /-- Whether the latest switch still waits for its value. -/
  awaiting : Bool := false
  /-- Whether words with dashes are operands from here on. -/
  literal : Bool := false
  deriving DecidableEq, Repr, Inhabited

namespace Scan

/-- Adds a switch that is complete. -/
def add (s : Scan) (switch : Switch) (value : Option String) : Scan :=
  { s with occurrences := ⟨switch, value⟩ :: s.occurrences, awaiting := false }

/-- Adds a switch whose value is the next word. -/
def await (s : Scan) (switch : Switch) : Scan :=
  { s with occurrences := ⟨switch, none⟩ :: s.occurrences, awaiting := true }

/-- Gives the latest switch its value. -/
def supply (s : Scan) (value : String) : Scan :=
  match s.occurrences with
  | o :: rest => { s with occurrences := { o with value := some value } :: rest, awaiting := false }
  | [] => { s with awaiting := false }

/-- Whether the latest switch waits for its value and never had one. -/
def lacksValue (s : Scan) : Bool :=
  match s.awaiting, s.occurrences with
  | true, o :: earlier => earlier.all fun p => p.switch != o.switch || p.value.isNone
  | _, _ => false

/-- Everything found, first things first. -/
def finish (s : Scan) (command : Option (String × List String)) : Scanned :=
  ⟨s.occurrences.reverse, s.operands.reverse, command⟩

end Scan

namespace Level

/-- Reads what stands behind two dashes: a name, and perhaps a value behind an equals sign. -/
def long (l : Level) (s : Scan) (word : List Char) : Except UsageError Scan :=
  let name := String.ofList (word.takeWhile (· != '='))
  let value : Option String :=
    match word.dropWhile (· != '=') with
    | [] => none
    | _ :: v => some (String.ofList v)
  match l.switches.find? (·.long == name) with
  | none => .error .unknownArgument
  | some switch =>
    match switch.kind, value with
    | .value, none => .ok (s.await switch)
    | .value, some v => .ok (s.add switch (some v))
    | _, some _ => .error .tooManyValues
    | .flag, none => .ok (s.add switch none)
    | .help, none => .error .help
    | .version, none => .error .version

/-- Reads what stands behind one dash: names of one character, the last perhaps with a value. -/
def short (l : Level) : Scan → List Char → Except UsageError Scan
  | s, [] => .ok s
  | s, c :: cs =>
    match l.switches.find? (·.short == some c) with
    | none => .error .unknownArgument
    | some switch =>
      match switch.kind with
      | .flag => short l (s.add switch none) cs
      | .help => .error .help
      | .version => .error .version
      | .value =>
        match cs with
        | [] => .ok (s.await switch)
        | '=' :: v => .ok (s.add switch (some (String.ofList v)))
        | v => .ok (s.add switch (some (String.ofList v)))

/-- What is wrong with a word that has no place.  One that is like the name of a command was meant
as such. -/
def misplaced (l : Level) (literal : Bool) (word : String) : UsageError :=
  if literal && l.commands.contains word then .unknownArgument
  else if l.commands.any (Similarity.alike word) then .invalidSubcommand
  else .unknownArgument

/-- Reads an operand. -/
def operand (l : Level) (s : Scan) (word : String) : Except UsageError Scan :=
  if l.more || s.operands.length < l.operands then
    .ok { s with operands := word :: s.operands }
  else .error (l.misplaced s.literal word)

/-- Reads a word that is no command. -/
def word (l : Level) (s : Scan) (w : String) : Except UsageError Scan :=
  if s.literal then l.operand s w
  else
    match w.toList with
    | ['-', '-'] => .ok { s with literal := true }
    | '-' :: '-' :: rest => l.long s rest
    | '-' :: c :: rest => l.short s (c :: rest)
    | _ => if s.awaiting then .ok (s.supply w) else l.operand s w

/-- Sorts words, up to and with the first command.  A switch at the end that waits for its value is
an error, unless it was given a value before. -/
def scanFrom (l : Level) : Scan → List String → Except UsageError Scanned
  | s, [] => if s.lacksValue then .error .emptyValue else .ok (s.finish none)
  | s, w :: rest =>
    if !s.literal && !s.awaiting && l.commands.contains w then .ok (s.finish (some (w, rest)))
    else
      match l.word s w with
      | .ok s => scanFrom l s rest
      | .error e => .error e

/-- Sorts words, up to and with the first command. -/
def scan (l : Level) (words : List String) : Except UsageError Scanned := l.scanFrom {} words

end Level

namespace Scanned

/-- The values that a switch was given. -/
def values (s : Scanned) (switch : Switch) : List String :=
  (s.occurrences.filter (·.switch == switch)).filterMap Occurrence.value

/-- Whether a switch was given. -/
def has (s : Scanned) (switch : Switch) : Bool := s.occurrences.any (·.switch == switch)

/-- What is wrong with the way in which a switch was given. -/
def fault (s : Scanned) (valid : Switch → String → Bool) (switch : Switch) : Option UsageError :=
  let values := s.values switch
  if switch.kind = .value ∧ values = [] then some .emptyValue
  else if !values.all (valid switch) then some .valueValidation
  else if 1 < (s.occurrences.filter (·.switch == switch)).length then some .multipleUsage
  else none

/-- Whether each switch was given as it should, in the order of the command line. -/
def check (s : Scanned) (valid : Switch → String → Bool) : Except UsageError Unit :=
  match s.occurrences.findSome? fun o => s.fault valid o.switch with
  | some e => .error e
  | none => .ok ()

end Scanned

end DiveLink
