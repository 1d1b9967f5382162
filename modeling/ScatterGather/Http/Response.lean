import ScatterGather.Handler

/-!
# Answers to requests

The answers of the surface: results and failures of statements as JSON, refusals as plain text.
-/

namespace ScatterGather

/-- The status of a failure of this kind. -/
def ErrorKind.status : ErrorKind → Nat
  | .timeout => 504
  | .unsupported => 501
  | .resource => 503
  | .invalidState => 400
  | .driver | .unknown => 500

/-- A failure as it is answered. -/
def ExecutionError.body (e : ExecutionError) : Document :=
  .record ([("error", .text e.message), ("code", .ofNat e.kind.status),
      ("kind", .text e.kind.name)]
    ++ Document.optionalField "cause" DriverCause.toDocument e.cause?)

namespace Http

/-- The body of an answer. -/
inductive Body where
  | empty
  | json (d : Document)
  | text (s : String)
deriving Inhabited

/-- An answer. -/
structure Response where
  status : Nat
  contentType : Option String
  /-- The methods that the path takes, when it does not take the one that was used. -/
  allow : Option String
  body : Body
deriving Inhabited

/-- The content type of JSON. -/
def jsonType : String := "application/json"

/-- The content type of plain text. -/
def textType : String := "text/plain; charset=utf-8"

/-- The content type of metrics. -/
def metricsType : String := "text/plain; version=0.0.4; charset=utf-8"

namespace Response

/-- An answer of JSON. -/
def json (status : Nat) (d : Document) : Response := ⟨status, some jsonType, none, .json d⟩

/-- A refusal with a text. -/
def refusal (status : Nat) (text : String) : Response := ⟨status, some textType, none, .text text⟩

/-- There is nothing under the path. -/
def notFound : Response := ⟨404, none, none, .empty⟩

/-- The path takes other methods. -/
def methodNotAllowed (allow : String) : Response := ⟨405, none, some allow, .empty⟩

/-- The body's content type is not one of JSON. -/
def wrongType : Response :=
  refusal 415 "Expected request with `Content-Type: application/json`"

/-- The body is too long. -/
def tooLong : Response := refusal 413 "Failed to buffer the request body: length limit exceeded"

/-- The body is not JSON, or not the JSON of a statement. -/
def ofFault : Fault → Response
  | .malformed => refusal 400 "Failed to parse the request body as JSON"
  | .shape => refusal 422 "Failed to deserialize the JSON body into the target type"

/-- A failure. -/
def ofError (e : ExecutionError) : Response := json e.kind.status e.body

/-- The result of a statement with all its rows, or the failure that reading them met. -/
def ofResult [FiniteCursor κ] (r : LogicalResult κ) : Response :=
  match r with
  | .query rows =>
    match rows.drain.1 with
    | .error e => ofError e
    | .ok read =>
      json 200 (.record
        [("columns", .list (rows.metadata.columns.map ColumnMetadata.toDocument)),
         ("rows", .list (read.map fun row => .list (row.map Cell.toDocument)))])
  | .update u => json 200 u.toDocument

/-- What a statement gave. -/
def ofStatement (r : StatementResult) : Response :=
  match r with
  | .error e => ofError e
  | .ok result => ofResult result

/-- The health of the engine. -/
def health (mode : String) (dataSources : List String) (uptimeSecs : Nat) : Response :=
  json 200 (.record [("status", .text "ok"), ("mode", .text mode),
    ("data_sources", .list (dataSources.map .text)), ("uptime_secs", .ofNat uptimeSecs)])

/-- The counters, and the time the server has been up as it is written. -/
def metrics (m : Metrics) (inFlight : Nat) (discarded : UInt64) (uptime : String) : Response :=
  ⟨200, some metricsType, none, .text (m.render inFlight discarded
    ++ "\n# HELP shardline_uptime_seconds Time since server started in seconds\n"
    ++ "# TYPE shardline_uptime_seconds gauge\nshardline_uptime_seconds " ++ uptime ++ "\n")⟩

/-- The answer without its body. -/
def headOnly (r : Response) : Response := { r with body := .empty }

end Response

end Http

end ScatterGather
