import ScatterGather.Config.Load

/-!
# Arguments of the command line

Four settings may be given as arguments, each once. They are read from left to right; a request for
help counts from where it stands, unless something before it is wrong.
-/

namespace ScatterGather.CommandLine

/-- What the arguments say. -/
structure Arguments where
  /-- The configuration file. -/
  config : Option String := none
  port : Option UInt16 := none
  mode : Option DispatchMode := none
  showSql : Bool := false
deriving DecidableEq, Inhabited, Repr

/-- Why there is nothing to run. -/
inductive Stop where
  /-- Help was asked for, in short or at length. -/
  | help (long : Bool)
  | usage
deriving DecidableEq, Inhabited, Repr

/-- An option that takes a value. -/
inductive ValueOption where
  | config
  | port
  | mode
deriving DecidableEq, Inhabited, Repr

/-- Reads a whole number of 64 bits with an optional sign. -/
def readInteger (s : String) : Option Int :=
  let (negative, ds) := match s.toList with
    | '-' :: rest => (true, rest)
    | '+' :: rest => (false, rest)
    | cs => (false, cs)
  if ds.isEmpty || !ds.all Char.isDigit then none
  else
    let n : Int := Text.digitsValue 0 ds
    let n := if negative then -n else n
    if Text.fitsSigned64 n then some n else none

/-- Reads a port. -/
def readPort (s : String) : Option UInt16 := do
  let n ← readInteger s
  if 0 ≤ n ∧ n < UInt16.size then some (UInt16.ofNat n.toNat) else none

namespace Arguments

/-- Gives an option its value; a second value is refused. -/
def set (a : Arguments) (o : ValueOption) (value : String) : Except Stop Arguments :=
  match o with
  | .config =>
    if a.config.isSome ∨ value = "" then .error .usage else .ok { a with config := some value }
  | .port =>
    match a.port, readPort value with
    | none, some port => .ok { a with port := some port }
    | _, _ => .error .usage
  | .mode =>
    match a.mode, (Named.ofName? value : Option DispatchMode) with
    | none, some mode => .ok { a with mode := some mode }
    | _, _ => .error .usage

/-- Asks for every statement to be reported; a second time is refused. -/
def setShowSql (a : Arguments) : Except Stop Arguments :=
  if a.showSql then .error .usage else .ok { a with showSql := true }

end Arguments

/-- The argument may be the value of the option before it. -/
def isValue (arg : String) : Bool := !arg.startsWith "-" || arg = "-"

/-- What one argument stands for. -/
inductive Token where
  /-- An option with the value that is attached to it, if there is one. -/
  | option (o : ValueOption) (attached : Option String)
  | showSql
  | help (long : Bool)
  /-- Only values without an option follow. -/
  | separator
  | unknown
deriving DecidableEq, Inhabited, Repr

/-- The option of a long name. -/
def longOption? : String → Option ValueOption
  | "config" => some .config
  | "port" => some .port
  | "mode" => some .mode
  | _ => none

/-- What a name behind two hyphens stands for, with the value attached to it. -/
def longToken (name : String) (attached : Option String) : Token :=
  match longOption? name, attached with
  | some o, _ => .option o attached
  | none, some _ => .unknown
  | none, none =>
    if name = "show-sql" then .showSql else if name = "help" then .help true else .unknown

/-- What the letter behind one hyphen stands for, with the characters behind it. -/
def shortToken (letter : Char) (rest : List Char) : Token :=
  let attached := match rest with
    | [] => none
    | '=' :: value => some (String.ofList value)
    | value => some (String.ofList value)
  if letter = 'c' then .option .config attached
  else if letter = 'p' then .option .port attached
  else if letter = 'h' then .help false
  else .unknown

/-- What an argument stands for. -/
def Token.ofArgument (arg : String) : Token :=
  match arg.toList with
  | ['-', '-'] => .separator
  | '-' :: '-' :: cs =>
    match cs.dropWhile (· ≠ '=') with
    | [] => longToken (String.ofList cs) none
    | _ :: value => longToken (String.ofList (cs.takeWhile (· ≠ '='))) (some (String.ofList value))
  | '-' :: letter :: rest => shortToken letter rest
  | _ => .unknown

namespace Arguments

/-- Reads arguments onto those read so far. -/
def readOnto (a : Arguments) : List String → Except Stop Arguments
  | [] => .ok a
  | arg :: rest =>
    match Token.ofArgument arg with
    | .showSql => do readOnto (← a.setShowSql) rest
    | .help long => .error (.help long)
    | .separator => if rest.isEmpty then .ok a else .error .usage
    | .unknown => .error .usage
    | .option o (some value) => do readOnto (← a.set o value) rest
    | .option o none =>
      match rest with
      | value :: rest =>
        if isValue value then do readOnto (← a.set o value) rest else .error .usage
      | [] => .error .usage

/-- Reads arguments. -/
def read (args : List String) : Except Stop Arguments := readOnto {} args

/-- The configuration with what the arguments override. -/
def apply (a : Arguments) (c : Config) : Config :=
  { c with
    port := a.port.getD c.port
    mode := a.mode.getD c.mode
    showSql := a.showSql || c.showSql }

end Arguments

end ScatterGather.CommandLine
