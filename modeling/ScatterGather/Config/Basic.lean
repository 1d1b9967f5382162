import ScatterGather.Connection.Strategy
import ScatterGather.Duration
import ScatterGather.Log
import ScatterGather.Transaction

/-!
# The configuration of the engine

A `Config` holds the settings the engine is started with. Five of them can be overridden by
environment variables; a value that does not parse leaves the setting alone. `validate` refuses a
configuration no engine could work with.
-/

namespace ScatterGather

/-- How units reach the data sources. -/
inductive DispatchMode where
  /-- Over a connection of the statement's own for each data source. -/
  | connection
  /-- Over shared channels, the replies being collected. -/
  | forward
deriving DecidableEq, Inhabited, Repr

instance : Named DispatchMode where
  all := [.connection, .forward]
  name
    | .connection => "connection"
    | .forward => "forward"

/-- Reads a mode in any ASCII case; a text that names none is given back in lower case. -/
def DispatchMode.parse (s : String) : Except String DispatchMode :=
  let lower := Text.asciiLower s
  match Named.ofName? lower with
  | some mode => .ok mode
  | none => .error lower

/-- The message about a text that names no mode. -/
def DispatchMode.unknownMessage (lower : String) : String :=
  "unknown dispatch mode '" ++ lower ++ "'"

/-- The settings of the engine. -/
structure Config where
  port : UInt16 := 3310
  mode : DispatchMode := .connection
  connectionMode : ConnectionMode := .connectionStrictly
  /-- The size of the worker pool; what suits the machine when it is not set. -/
  executorSize : Option UInt64 := none
  backendTimeoutSecs : UInt64 := 30
  connectTimeoutMs : UInt64 := 3000
  fetchSize : UInt32 := 1000
  showSql : Bool := false
  transactionType : TransactionType := .local
  /-- The address of each data source, names ascending. -/
  dataSources : List (String × String) := []
deriving Inhabited

/-- Why a configuration is refused. -/
inductive ConfigFault where
  | noWorkers
  | noBackendTimeout
  | noFetchSize
  | noPort (dataSource address : String)
deriving DecidableEq, Repr

/-- The wording of a refusal. -/
def ConfigFault.message : ConfigFault → String
  | .noWorkers => "executor_size must be at least 1"
  | .noBackendTimeout => "backend_timeout_secs must be at least 1"
  | .noFetchSize => "fetch_size must be at least 1"
  | .noPort dataSource address =>
    "data source '" ++ dataSource ++ "' has no port in address '" ++ address ++ "'"

/-- Environment variables, the first of a name counting. -/
abbrev Environment := List (String × String)

namespace Config

/-- The variable that overrides the port. -/
def portVariable : String := "SHARDLINE_PORT"

/-- The variable that overrides the dispatch mode. -/
def modeVariable : String := "SHARDLINE_MODE"

/-- The variable that overrides the size of the worker pool. -/
def executorSizeVariable : String := "SHARDLINE_EXECUTOR_SIZE"

/-- The variable that overrides the time replies are waited for. -/
def backendTimeoutVariable : String := "SHARDLINE_BACKEND_TIMEOUT"

/-- The variable that says whether every physical statement is reported. -/
def showSqlVariable : String := "SHARDLINE_SHOW_SQL"

/-- The variables that override settings. -/
def variableNames : List String :=
  [portVariable, modeVariable, executorSizeVariable, backendTimeoutVariable, showSqlVariable]

/-- The words that mean yes, in lower case. -/
def yesWords : List String := ["1", "true", "yes", "on"]

/-- A setting that a variable overrides when it is set and parses. -/
def override (env : Environment) (name : String) (parse : String → Option α) (old : α) : α :=
  ((env.lookup name).bind parse).getD old

/-- The configuration with the overrides of the environment. -/
def applyEnvironment (c : Config) (env : Environment) : Config :=
  { c with
    port := override env portVariable
      (fun s => UInt16.ofNat <$> Text.readUnsigned UInt16.size s) c.port
    mode := override env modeVariable (fun s => (DispatchMode.parse s).toOption) c.mode
    executorSize := override env executorSizeVariable
      (fun s => (some ∘ UInt64.ofNat) <$> Text.readUnsigned UInt64.size s) c.executorSize
    backendTimeoutSecs := override env backendTimeoutVariable
      (fun s => UInt64.ofNat <$> Text.readUnsigned UInt64.size s) c.backendTimeoutSecs
    showSql := override env showSqlVariable
      (fun s => some (yesWords.contains (Text.asciiLower s))) c.showSql }

/-- The warning about a mode that the environment names and that does not exist. -/
def environmentWarnings (env : Environment) : List LogLine :=
  match DispatchMode.parse <$> env.lookup modeVariable with
  | some (.error lower) =>
    [.warn ("Ignoring " ++ modeVariable ++ ": " ++ DispatchMode.unknownMessage lower)]
  | _ => []

/-- The first data source whose address names no port. -/
def portless? (sources : List (String × String)) : Option (String × String) :=
  sources.find? fun s => !s.2.toList.contains ':'

/-- Accepts a configuration that an engine can work with. -/
def validate (c : Config) : Except ConfigFault Unit :=
  if c.executorSize = some 0 then .error .noWorkers
  else if c.backendTimeoutSecs = 0 then .error .noBackendTimeout
  else if c.fetchSize = 0 then .error .noFetchSize
  else
    match portless? c.dataSources with
    | some (name, address) => .error (.noPort name address)
    | none => .ok ()

/-- How long replies are waited for. -/
def backendTimeout (c : Config) : Duration := .ofSeconds c.backendTimeoutSecs.toNat

/-- How long a connect may take. -/
def connectTimeout (c : Config) : Duration := .ofMillis c.connectTimeoutMs.toNat

/-! ### The written form -/

/-- A configuration that is being read. -/
structure Draft where
  port : Option UInt16 := none
  mode : Option DispatchMode := none
  connectionMode : Option ConnectionMode := none
  executorSize : Option UInt64 := none
  backendTimeoutSecs : Option UInt64 := none
  connectTimeoutMs : Option UInt64 := none
  fetchSize : Option UInt32 := none
  showSql : Option Bool := none
  transactionType : Option TransactionType := none
  dataSources : Option (List (String × String)) := none

/-- Puts a named text into its place among ascending names, over one of the same name. -/
def insertSource (name address : String) : List (String × String) → List (String × String)
  | [] => [(name, address)]
  | (n, a) :: rest =>
    if name < n then (name, address) :: (n, a) :: rest
    else if name = n then (name, address) :: rest
    else (n, a) :: insertSource name address rest

/-- Reads named texts on top of those read so far. -/
def readSourcesOnto (done : List (String × String)) :
    List (Document × Document) → Except Fault (List (String × String))
  | [] => .ok done
  | (key, value) :: rest => do
    let name ← key.readText
    let address ← value.readText
    readSourcesOnto (insertSource name address done) rest

/-- Reads the table of data sources. -/
def readSources : Document → Except Fault (List (String × String))
  | .table entries => readSourcesOnto [] entries
  | d => .error d.fault

/-- The fields of a configuration. -/
def fields (r : Reading) : List (Field Draft) :=
  [.of "port" (·.port) (fun s v => { s with port := some v }) Document.readUInt16,
   .of "mode" (·.mode) (fun s v => { s with mode := some v }) (Named.ofDocument r),
   .of "connection_mode" (·.connectionMode) (fun s v => { s with connectionMode := some v })
    (Named.ofDocument r),
   .of "executor_size" (·.executorSize) (fun s v => { s with executorSize := some v })
    Document.readUInt64,
   .of "backend_timeout_secs" (·.backendTimeoutSecs)
    (fun s v => { s with backendTimeoutSecs := some v }) Document.readUInt64,
   .of "connect_timeout_ms" (·.connectTimeoutMs)
    (fun s v => { s with connectTimeoutMs := some v }) Document.readUInt64,
   .of "fetch_size" (·.fetchSize) (fun s v => { s with fetchSize := some v })
    Document.readUInt32,
   .of "show_sql" (·.showSql) (fun s v => { s with showSql := some v }) Document.readBool,
   .of "transaction_type" (·.transactionType)
    (fun s v => { s with transactionType := some v }) (Named.ofDocument r),
   .of "data_sources" (·.dataSources) (fun s v => { s with dataSources := some v }) readSources]

/-- The configuration of a draft: what the draft does not set has its default. -/
def ofDraft (s : Draft) : Config :=
  let d : Config := {}
  { port := s.port.getD d.port
    mode := s.mode.getD d.mode
    connectionMode := s.connectionMode.getD d.connectionMode
    executorSize := s.executorSize
    backendTimeoutSecs := s.backendTimeoutSecs.getD d.backendTimeoutSecs
    connectTimeoutMs := s.connectTimeoutMs.getD d.connectTimeoutMs
    fetchSize := s.fetchSize.getD d.fetchSize
    showSql := s.showSql.getD d.showSql
    transactionType := s.transactionType.getD d.transactionType
    dataSources := s.dataSources.getD d.dataSources }

/-- Reads a configuration. -/
def ofDocument (r : Reading) (d : Document) : Except Fault Config :=
  ofDraft <$> Fields.read (fields r) {} d

end Config

end ScatterGather
