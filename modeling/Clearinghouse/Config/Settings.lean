/-
# The settings of a run

A configuration file sets how much is logged, which medium holds the accounts,
what a failing operation does to its batch, and which accounts exist at the
start. Everything has a value of its own when it is not set, and settings nobody
knows are passed over. Arguments of the command line go before the file.
-/

import Clearinghouse.Application
import Clearinghouse.CommandLine
import Clearinghouse.Config.Storage
import Clearinghouse.Config.Toml.Reader
import Clearinghouse.Medium.Files
import Clearinghouse.Text.Utf8

namespace Clearinghouse.Config

/-- How much is logged, and in which form. -/
structure Logging where
  level : String
  isJson : Bool
  deriving DecidableEq, Repr

/-- The settings of a run. -/
structure Settings where
  logging : Logging
  storage : Storage
  policy : Policy
  genesis : List GenesisAccount
  deriving DecidableEq, Repr

/-- Why a run has no settings. -/
inductive Problem
  /-- The file is there but cannot be read as text. -/
  | unreadable
  /-- The text is no configuration of a run. -/
  | malformed
  deriving DecidableEq, Repr, Inhabited

/-- The text shown to people. -/
def Problem.message (path : String) : Problem → String
  | unreadable => s!"failed to read config file {path}"
  | malformed => s!"failed to parse config file {path}"

namespace Settings

/-- How much is logged unless configured. -/
def defaultLogging : Logging := ⟨"info", false⟩

/-- The settings of a run without a configuration. -/
def default : Settings := ⟨defaultLogging, .memory, .allOrNothing, []⟩

/-- The logging that a node describes. -/
def logging? (document : Document) : Option Logging := do
  let record ← document.record?
  let level ← record.optional? 0 "level" Document.text? defaultLogging.level
  let isJson ← record.optional? 1 "json" Document.boolean? defaultLogging.isJson
  return ⟨level, isJson⟩

/-- The policy that a node names. The name may also be that of the only entry of
a table, with nothing in it. -/
def policy? : Document → Option Policy
  | .text name => Policy.ofName? name
  | .table [(name, .table [])] => Policy.ofName? name
  | _ => none

/-- The policy of a node that describes how batches are processed. -/
def processing? (document : Document) : Option Policy := do
  (← document.record?).optional? 0 "policy" policy? default.policy

/-- The account that a node describes. -/
def account? (document : Document) : Option GenesisAccount := do
  let record ← document.record?
  let id ← record.required? 0 "id" Document.unsigned?
  let balance ← record.optional? 1 "balance" Document.signed? 0
  let publicKey ← record.optional? 2 "public_key" Document.nullableText? none
  return ⟨id, balance, publicKey⟩

/-- The settings that a node describes. -/
def ofDocument? (document : Document) : Option Settings := do
  let record ← document.record?
  let logging ← record.optional? 0 "logging" logging? default.logging
  let storage ← record.optional? 1 "storage" Storage.ofDocument? default.storage
  let policy ← record.optional? 2 "processor" processing? default.policy
  let genesis ← record.optional? 3 "genesis" (Document.list? account?) default.genesis
  return ⟨logging, storage, policy, genesis⟩

/-- The settings of a configuration file. -/
def parse? (text : String) : Option Settings := (Toml.parse? text).bind ofDocument?

/-- The settings in a file. A missing file configures nothing. -/
def read (files : Files) (path : String) : Except Problem Settings :=
  match files.read path with
  | .error .missing => .ok default
  | .error .other => .error .unreadable
  | .ok bytes =>
    match Text.Utf8.text? bytes with
    | none => .error .unreadable
    | some text =>
      match parse? text with
      | none => .error .malformed
      | some settings => .ok settings

/-- The settings of a run with the given arguments. -/
def load (files : Files) (arguments : CommandLine.Arguments) : Except Problem Settings := do
  let settings ← read files arguments.config
  return { settings with
    logging := { settings.logging with level := arguments.logLevel.getD settings.logging.level }
    policy := arguments.policy.getD settings.policy }

end Settings

end Clearinghouse.Config
