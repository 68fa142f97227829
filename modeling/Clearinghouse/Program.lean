/-
# The program

A run of the program reads its arguments and settings, opens a medium and runs
one session on it. What it prints and how it exits follow from its arguments, its
standard input and the files around it; a fresh key pair also needs a seed.
-/

import Clearinghouse.CommandLine
import Clearinghouse.Config.Settings
import Clearinghouse.Deployment
import Clearinghouse.Session
import Clearinghouse.Text.Lines

namespace Clearinghouse.Program

/-- How a run ends. -/
inductive Exit
  | success
  | failure
  /-- The arguments make no sense. -/
  | misuse
  deriving DecidableEq, Repr, Inhabited

/-- The number that the system is told. -/
def Exit.code : Exit → Nat
  | success => 0
  | failure => 1
  | misuse => 2

/-- The end of a run, what it printed, and what it complained about. -/
structure Finished where
  exit : Exit
  output : String
  complaint : Option String
  deriving DecidableEq, Repr, Inhabited

/-- A run that failed. -/
def Finished.failed (output complaint : String) : Finished := ⟨.failure, output, some complaint⟩

/-- A run that succeeded. -/
def Finished.succeeded (output : String) : Finished := ⟨.success, output, none⟩

/-- A name in reports to monitoring, with its value. -/
def counter (name : String) (value : Nat) : String :=
  s!"# TYPE batchbank_{name} counter\nbatchbank_{name} {value}\n\n"

/-- The counts of a run. A count that nothing was added to is left out, except
that committed batches also count the operations they applied. -/
def counters (tally : Tally) : String :=
  (if tally.batchesCommitted = 0 then ""
    else counter "batches_committed" tally.batchesCommitted) ++
  (if tally.batchesRejected = 0 then ""
    else counter "batches_rejected" tally.batchesRejected) ++
  (if tally.batchesCommitted = 0 then ""
    else counter "operations_applied" tally.operationsApplied) ++ "\n"

/-- The text of a key pair. -/
def keyText (pair : Signature.KeyPair) : String :=
  let line (name : String) (bytes : List UInt8) :=
    s!"{name} = \"{String.ofList (Text.Hex.encode bytes)}\"\n"
  line "public_key" pair.publicBytes ++ line "secret_key" pair.seed

/-- Media beyond this process are reached over the network, and no ledger
service is among them. -/
def connectors : Connectors := ⟨true, false⟩

/-- The input that an argument names. A single hyphen names standard input. -/
def inputOf (files : Files) (standardInput : List UInt8) : Option String → Session.Input
  | none => .absent
  | some path =>
    if path = "-" then .lines (Text.lines standardInput)
    else match files.read path with
      | .ok bytes => .lines (Text.lines bytes)
      | .error _ => .unreadable

/-- Runs a session with settings. -/
def serve (settings : Config.Settings) (input : Session.Input) (showsCounters : Bool) :
    StateM Surroundings Finished := fun around =>
  match Holding.ofStorage connectors settings.storage with
  | .error e => (.failed "" e.message, around)
  | .ok holding =>
    let (transcript, deployment, around) :=
      (Deployment.new holding settings.policy).run
        (fun b => Session.run b settings.genesis input) around
    let around := deployment.holding.release around
    let shown := String.join (transcript.shown.map Text.Grid.text)
    match transcript.interruption with
    | some interruption => (.failed shown interruption.message, around)
    | none =>
      let counts := if showsCounters then counters deployment.application.tally else ""
      (.succeeded (shown ++ counts), around)

/-- Runs the program. -/
def run (arguments : List String) (standardInput seed : List UInt8) :
    StateM Surroundings Finished := do
  match CommandLine.parse arguments with
  | .error .helpWanted => return .succeeded CommandLine.help
  | .error problem => return ⟨.misuse, "", some problem.message⟩
  | .ok arguments =>
    if arguments.generateKey then
      return .succeeded (keyText ⟨seed⟩)
    else
      let files := (← get).files
      match Config.Settings.load files arguments with
      | .error problem => return .failed "" (problem.message arguments.config)
      | .ok settings =>
        serve settings (inputOf files standardInput arguments.input) arguments.metrics

end Clearinghouse.Program
