import ScatterGather.CommandLine.Arguments
import ScatterGather.CommandLine.Help
import ScatterGather.CommandLine.LogFilter
import ScatterGather.Engine

/-!
# A run of the program

The program reads its arguments, finds its configuration, lets the arguments override it, builds the
engine and serves its port until it is told to stop. `Plan` is what it has found out before it
touches the network; `Run` is a whole run, as far as it can be seen.
-/

namespace ScatterGather.CommandLine

/-- Why a run ends in failure. -/
inductive Failure where
  | usage
  | load (fault : LoadFault)
  /-- The pool would have more permits than a pool can have. -/
  | tooManyWorkers
  /-- The port cannot be listened on. -/
  | unbound (fault : SystemFault)
deriving DecidableEq, Repr

namespace Failure

/-- The exit code of a failure. -/
def code : Failure → Nat
  | .usage => 2
  | .load .unsettable | .tooManyWorkers => 101
  | .load _ | .unbound _ => 1

/-- The wording of a failure. -/
def message : Failure → String
  | .usage => "error: the arguments cannot be used\n\nUsage: shardline [OPTIONS]\n\n"
    ++ "For more information, try '--help'."
  | .load .unsettable => LoadFault.message .unsettable
  | .load fault => "Error: " ++ fault.message
  | .tooManyWorkers =>
    "a semaphore may not have more than MAX_PERMITS permits (" ++ toString Pool.maxPermits ++ ")"
  | .unbound fault => "Error: " ++ fault.text

end Failure

/-- What the program is about to do. -/
inductive Plan where
  /-- It prints a text. -/
  | print (text : String)
  | fail (failure : Failure)
  /-- It serves, with this engine. -/
  | serve (c : Config) (engine : Engine)

/-- The configuration that is used, on one line. -/
def configLine (parallelism : Nat) (c : Config) : LogLine :=
  .info (s!"Dispatch mode {Named.name c.mode} with {c.dataSources.length} data sources "
    ++ s!"(executor size {c.workers parallelism}, "
    ++ s!"transaction type {Named.name c.transactionType})")

/-- The port is being listened on. -/
def listeningLine (port : UInt16) : LogLine := .info s!"Server listening on 0.0.0.0:{port.toNat}"

/-- The program has been told to stop. -/
def stoppedLine : LogLine := .info "Shutdown signal received"

/-- The variable that says which log lines are written. -/
def filterVariable : String := "RUST_LOG"

/-- The filter of the log lines. -/
def filterOf (env : Environment) : LogFilter := .ofVariable (env.lookup filterVariable)

/-- The files that a run with these arguments looks at. -/
def pathsOf (args : List String) : List String :=
  match Arguments.read args with
  | .ok a =>
    let path := Config.pathOf a.config
    [path, Config.environmentFileBeside path]
  | .error _ => []

/-- What the program finds out before it touches the network, with the lines on the way. -/
def plan (parallelism : Nat) (args : List String) (disk : Disk) (env : Environment)
    (formats : Formats := .standard) : List PlacedLine × Plan :=
  match Arguments.read args with
  | .error (.help long) => ([], .print (help long))
  | .error .usage => ([], .fail .usage)
  | .ok a =>
    let (warnings, result) := Config.load disk env a.config formats
    let warnings := warnings.map fun l => ⟨configPart, l⟩
    match result with
    | .error fault => (warnings, .fail (.load fault))
    | .ok c =>
      let c := a.apply c
      let lines := warnings ++ [⟨mainPart, configLine parallelism c⟩]
      match Engine.ofConfig? parallelism c with
      | none => (lines, .fail .tooManyWorkers)
      | some engine => (lines, .serve c engine)

/-- A whole run. -/
structure Run where
  code : Nat
  /-- The port was served. -/
  served : Bool
  help : Option String
  lines : List LogLine
  failure : Option Failure

/-- A run that is told to stop once it serves, on a machine where some ports are taken. -/
def run (parallelism : Nat) (taken : UInt16 → Bool) (args : List String) (disk : Disk)
    (env : Environment) (formats : Formats := .standard) : Run :=
  let (lines, plan) := plan parallelism args disk env formats
  let written := (filterOf env).written
  match plan with
  | .print text => ⟨0, false, some text, [], none⟩
  | .fail failure => ⟨failure.code, false, none, written lines, some failure⟩
  | .serve c _ =>
    if taken c.port then
      let failure : Failure := .unbound .addressInUse
      ⟨failure.code, false, none, written lines, some failure⟩
    else
      let served := [listeningLine c.port, stoppedLine].map fun l => ⟨mainPart, l⟩
      ⟨0, true, none, written (lines ++ served), none⟩

end ScatterGather.CommandLine
