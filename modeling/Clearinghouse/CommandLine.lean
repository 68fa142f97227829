/-
# Arguments of the command line

Some options take a value, which may be attached to them or be the next
argument; others are switches. An argument that belongs to no option names the
input, and after two hyphens every argument does. A value is not looked at when
it is read but when the next argument is accepted, so an unknown argument is
noticed before the value in front of it turns out to be bad.
-/

import Clearinghouse.Batch.Policy

namespace Clearinghouse.CommandLine

/-- Why there are no arguments to work with. -/
inductive Problem
  | unknownArgument
  | missingValue
  | badValue
  | repeatedArgument
  | unneededValue
  /-- Nothing is wrong, but only help was asked for. -/
  | helpWanted
  deriving DecidableEq, Repr, Inhabited

/-- The text shown to people. -/
def Problem.message : Problem → String
  | unknownArgument => "unexpected argument"
  | missingValue => "a value is required"
  | badValue => "invalid value"
  | repeatedArgument => "an argument cannot be used multiple times"
  | unneededValue => "unexpected value"
  | helpWanted => "help was asked for"

/-- What a value is for. -/
inductive Slot
  | config
  | logLevel
  | policy
  | input
  deriving DecidableEq, Repr, Inhabited

/-- What takes no value. -/
inductive Switch
  | metrics
  | generateKey
  | help
  deriving DecidableEq, Repr, Inhabited

/-- The arguments of a run. -/
structure Arguments where
  /-- The file of the settings. -/
  config : String
  logLevel : Option String
  policy : Option Policy
  metrics : Bool
  generateKey : Bool
  /-- The file of the transactions. -/
  input : Option String
  deriving DecidableEq, Repr, Inhabited

/-- The file of the settings when none is given. -/
def defaultConfig : String := "batchbank.toml"

/-- The value that the next accepted argument settles. -/
structure Pending where
  slot : Slot
  value : Option String
  deriving DecidableEq, Repr, Inhabited

/-- What has been read so far. -/
structure Draft where
  config : Option String
  logLevel : Option String
  policy : Option Policy
  metrics : Bool
  generateKey : Bool
  input : Option String
  pending : Option Pending
  deriving DecidableEq, Repr, Inhabited

namespace Draft

/-- Nothing has been read. -/
def empty : Draft := ⟨none, none, none, false, false, none, none⟩

/-- Takes a value, unless there is one for the same thing. An input must have a
name. -/
def fill (draft : Draft) (value : String) : Slot → Except Problem Draft
  | .config =>
    if draft.config.isSome then throw .repeatedArgument
    else return { draft with config := some value }
  | .logLevel =>
    if draft.logLevel.isSome then throw .repeatedArgument
    else return { draft with logLevel := some value }
  | .policy =>
    if draft.policy.isSome then throw .repeatedArgument
    else match Policy.ofText? value with
      | some policy => return { draft with policy := some policy }
      | none => throw .badValue
  | .input =>
    if value = "" then throw .missingValue
    else return { draft with input := some value }

/-- Settles the value that is pending. -/
def settle (draft : Draft) : Except Problem Draft :=
  match draft.pending with
  | none => return draft
  | some ⟨_, none⟩ => throw .missingValue
  | some ⟨slot, some value⟩ => fill { draft with pending := none } value slot

/-- Takes an option with the value that is attached to it, or one whose value is
to follow. -/
def takeOption (draft : Draft) (slot : Slot) (attached : Option String) :
    Except Problem Draft := do
  let draft ← draft.settle
  match attached with
  | some value => draft.fill value slot
  | none => return { draft with pending := some ⟨slot, none⟩ }

/-- Takes a switch, at most once. -/
def takeSwitch (draft : Draft) (switch : Switch) : Except Problem Draft := do
  let draft ← draft.settle
  match switch with
  | .help => throw .helpWanted
  | .metrics =>
    if draft.metrics then throw .repeatedArgument else return { draft with metrics := true }
  | .generateKey =>
    if draft.generateKey then throw .repeatedArgument
    else return { draft with generateKey := true }

/-- An input has been named, whether or not it is settled. -/
def hasInput (draft : Draft) : Bool :=
  draft.input.isSome || (draft.pending.map Pending.slot) == some .input

/-- Takes the name of the input. There is only one. -/
def takeInput (draft : Draft) (value : String) : Except Problem Draft := do
  if draft.hasInput then
    throw .unknownArgument
  return { ← draft.settle with pending := some ⟨.input, some value⟩ }

/-- Takes an argument that is no option: the value that an option waits for, or
the input. -/
def takeValue (draft : Draft) (value : String) : Except Problem Draft :=
  match draft.pending with
  | some ⟨slot, none⟩ => return { draft with pending := some ⟨slot, some value⟩ }
  | _ => draft.takeInput value

end Draft

/-- An option by its long name. -/
def byName? (name : String) : Option (Slot ⊕ Switch) :=
  [("config", .inl .config), ("log-level", .inl .logLevel), ("policy", .inl .policy),
    ("metrics", .inr .metrics), ("generate-key", .inr .generateKey), ("help", .inr .help)].lookup
    name

/-- An option by its letter. -/
def byLetter? (letter : Char) : Option (Slot ⊕ Switch) :=
  [('c', .inl .config), ('l', .inl .logLevel), ('p', .inl .policy), ('h', .inr .help)].lookup letter

/-- The value attached to a long name, after an equals sign. -/
def attachedToName : List Char → Option String
  | '=' :: value => some (String.ofList value)
  | _ => none

/-- The value attached to a letter. An equals sign may stand before it. -/
def attachedToLetter : List Char → Option String
  | [] => none
  | '=' :: value => some (String.ofList value)
  | value => some (String.ofList value)

/-- Takes one argument before two hyphens have been seen. -/
def takeArgument (draft : Draft) (argument : String) : Except Problem Draft :=
  match argument.toList with
  | '-' :: '-' :: cs =>
    let attached := attachedToName (cs.dropWhile (· ≠ '='))
    match byName? (String.ofList (cs.takeWhile (· ≠ '='))) with
    | none => throw .unknownArgument
    | some (.inl slot) => draft.takeOption slot attached
    | some (.inr switch) =>
      if attached.isSome then throw .unneededValue else draft.takeSwitch switch
  | '-' :: letter :: cs =>
    match byLetter? letter with
    | none => throw .unknownArgument
    | some (.inl slot) => draft.takeOption slot (attachedToLetter cs)
    | some (.inr switch) => draft.takeSwitch switch
  | _ => draft.takeValue argument

/-- Takes the arguments in order; `isOpen` until two hyphens have been seen. -/
def takeAll (isOpen : Bool) : List String → Draft → Except Problem Draft
  | [], draft => draft.settle
  | argument :: rest, draft => do
    if isOpen ∧ argument = "--" then
      takeAll false rest draft
    else
      takeAll isOpen rest
        (← if isOpen then takeArgument draft argument else draft.takeInput argument)

/-- Reads the arguments of a run. -/
def parse (arguments : List String) : Except Problem Arguments := do
  let draft ← takeAll true arguments .empty
  return {
    config := draft.config.getD defaultConfig
    logLevel := draft.logLevel
    policy := draft.policy
    metrics := draft.metrics
    generateKey := draft.generateKey
    input := draft.input }

/-- The text of the help. -/
def help : String :=
  String.intercalate "\n"
    ["batchbank - batched signed transfers over pluggable account stores",
      "",
      "Usage: batchbank [OPTIONS] [INPUT]",
      "",
      "Arguments:",
      "  [INPUT]  JSON-lines file of transactions, `-` for stdin",
      "",
      "Options:",
      "  -c, --config <CONFIG>        Path to config file [default: batchbank.toml]",
      "  -l, --log-level <LOG_LEVEL>  Log level (overrides config file)",
      "  -p, --policy <POLICY>        Batch policy: all_or_nothing or skip_failed (overrides config file)",
      "      --metrics                Print metrics in Prometheus format before exiting",
      "      --generate-key           Print a fresh key pair and exit",
      "  -h, --help                   Print help",
      ""]

end Clearinghouse.CommandLine
