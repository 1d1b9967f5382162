import ScatterGather.Config.Basic
import ScatterGather.Text.Alphanumeric

/-!
# Files of environment variables

A file sets variables, one `NAME=value` a line; a variable that is set already, also by an earlier
line, keeps its value. Values may be quoted, strongly by `'` or weakly by `"`, and quoted values may
span lines; outside strong quotes `$NAME` and `${NAME}` stand for the values of variables. A line
that is not understood ends the reading, and so does one that is not UTF-8; the variables set before
it stay. A value with a null character cannot be set: the program breaks off.
-/

namespace ScatterGather.EnvironmentFile

/-- White space of any alphabet. -/
def isSpace (c : Char) : Bool :=
  let n := c.toNat
  (9 ≤ n && n ≤ 13) || n = 0x20 || n = 0x85 || n = 0xA0 || n = 0x1680
    || (0x2000 ≤ n && n ≤ 0x200A) || [0x2028, 0x2029, 0x202F, 0x205F, 0x3000].contains n

/-- Drops white space in front. -/
def trimStart (cs : List Char) : List Char := cs.dropWhile isSpace

/-- Drops white space at the end. -/
def trimEnd (cs : List Char) : List Char := (cs.reverse.dropWhile isSpace).reverse

/-! ### Lines

A line goes on behind its line break while a quote is open.
-/

/-- Where the search for the end of a line stands. -/
inductive LineState where
  | complete
  /-- Behind a backslash outside quotes. -/
  | escape
  | strong
  | strongEscape
  | weak
  | weakEscape
  /-- Behind a blank: a comment may begin. -/
  | blank
deriving DecidableEq, Inhabited, Repr

/-- What a character outside quotes opens. -/
def LineState.opened (c : Char) : LineState :=
  if c = '\\' then .escape else if c = '"' then .weak else if c = '\'' then .strong else .complete

/-- The state behind a character. -/
def LineState.next (s : LineState) (c : Char) : LineState :=
  match s with
  | .blank => .opened c
  | .escape => .complete
  | .complete => if isSpace c ∧ c ≠ '\n' ∧ c ≠ '\r' then .blank else .opened c
  | .weak => if c = '\\' then .weakEscape else if c = '"' then .complete else .weak
  | .weakEscape => .weak
  | .strong => if c = '\\' then .strongEscape else if c = '\'' then .complete else .strong
  | .strongEscape => .strong

/-- Goes through a piece of text up to a comment: the state at its end, unless a comment begins
before it, and the text in front of the comment. -/
def scanLine (s : LineState) : List Char → Option LineState × List Char
  | [] => (some s, [])
  | c :: rest =>
    if s = .blank ∧ c = '#' then (none, [])
    else
      let (state, front) := scanLine (s.next c) rest
      (state, c :: front)

/-- Drops a line break at the end. -/
def dropBreak (cs : List Char) : List Char :=
  match cs.reverse with
  | '\n' :: '\r' :: front => front.reverse
  | '\n' :: front => front.reverse
  | _ => cs

/-- Splits bytes behind each line break. -/
def pieces (content : List UInt8) : List (List UInt8) :=
  content.foldr (fun byte done =>
    match done with
    | [] => [[byte]]
    | p :: ps => if byte = 10 then [byte] :: p :: ps else (byte :: p) :: ps) []

/-- The texts of pieces, up to the first that is not UTF-8. -/
def texts : List (List UInt8) → List (List Char)
  | [] => []
  | p :: ps =>
    match Document.textOfBytes? p with
    | some text => text.toList :: texts ps
    | none => []

/-- Drops a byte order mark. -/
def unmarked : List UInt8 → List UInt8
  | 0xEF :: 0xBB :: 0xBF :: rest => rest
  | content => content

/-- Joins pieces to lines, with what has been read of a line so far; a line that is not complete at
the end is left out. -/
def linesOf (front : List Char) (s : LineState) : List (List Char) → List (List Char)
  | [] => []
  | p :: ps =>
    if (trimStart (front ++ p)).head? = some '#' then [] :: linesOf [] .complete ps
    else
      match scanLine s p with
      | (none, before) => (front ++ before) :: linesOf [] .complete ps
      | (some .complete, _) => dropBreak (front ++ p) :: linesOf [] .complete ps
      | (some s, _) => linesOf (front ++ p) s ps

/-! ### Values -/

/-- Where the reading of a value stands. The flag tells whether weak quotes are open. -/
inductive ValueState where
  | text (weak : Bool)
  | escaped (weak : Bool)
  | strong
  /-- In the name of a variable, reversed. -/
  | name (weak : Bool) (acc : List Char)
  /-- In the name of a variable in braces, reversed. -/
  | braced (weak : Bool) (acc : List Char)
  /-- Behind the value: only a comment may come. -/
  | ended
deriving Inhabited

/-- The value of a variable whose name was read, reversed; empty when it is not set. -/
def valueOf (env : Environment) (name : List Char) : List Char :=
  ((env.lookup (String.ofList name.reverse)).getD "").toList

/-- The character of an escape. -/
def escape? (c : Char) : Option Char :=
  if ['\\', '\'', '"', '$', ' '].contains c then some c else if c = 'n' then some '\n' else none

/-- Reads a value onto the text read so far, which is reversed. -/
def valueTail (env : Environment) (acc : List Char) : ValueState → List Char → Option (List Char)
  | .text false, [] | .escaped false, [] | .ended, [] => some acc.reverse
  | .name false name, [] => some (acc.reverse ++ valueOf env name)
  | _, [] => none
  | .ended, c :: rest =>
    if c = ' ' ∨ c = '\t' then valueTail env acc .ended rest
    else if c = '#' then some acc.reverse
    else none
  | .escaped weak, c :: rest => do valueTail env ((← escape? c) :: acc) (.text weak) rest
  | .strong, c :: rest =>
    if c = '\'' then valueTail env acc (.text false) rest
    else valueTail env (c :: acc) .strong rest
  | .name weak name, c :: rest =>
    if Text.isAlphanumeric c then valueTail env acc (.name weak (c :: name)) rest
    else if c = '\x7b' ∧ name.isEmpty then valueTail env acc (.braced weak []) rest
    else
      let acc := (valueOf env name).reverse ++ acc
      if c = '$' then valueTail env acc (.name weak []) rest
      else valueTail env (c :: acc) (.text weak) rest
  | .braced weak name, c :: rest =>
    if c = '\x7d' then valueTail env ((valueOf env name).reverse ++ acc) (.text weak) rest
    else valueTail env acc (.braced weak (c :: name)) rest
  | .text weak, c :: rest =>
    if c = '$' then valueTail env acc (.name weak []) rest
    else if c = '\\' then valueTail env acc (.escaped weak) rest
    else if weak then
      if c = '"' then valueTail env acc (.text false) rest
      else valueTail env (c :: acc) (.text true) rest
    else if c = '\'' then valueTail env acc .strong rest
    else if c = '"' then valueTail env acc (.text true) rest
    else if c = ' ' ∨ c = '\t' then valueTail env acc .ended rest
    else valueTail env (c :: acc) (.text false) rest

/-! ### Entries -/

/-- Reads a name. -/
def name? (cs : List Char) : Option (String × List Char) :=
  let inside (c : Char) : Bool := c.isAlphanum || c = '_' || c = '.'
  match cs with
  | c :: _ =>
    if c.isAlpha ∨ c = '_' then some (String.ofList (cs.takeWhile inside), cs.dropWhile inside)
    else none
  | [] => none

/-- Drops the equals sign that must be there. -/
def equals? : List Char → Option (List Char)
  | '=' :: rest => some rest
  | _ => none

/-- Reads a name with its equals sign; the word `export` may stand in front of it. -/
def assigned? (cs : List Char) : Option (String × List Char) := do
  let (name, rest) ← name? cs
  let rest := trimStart rest
  match equals? rest with
  | some rest => return (name, rest)
  | none =>
    if name ≠ "export" then none
    let (name, rest) ← name? rest
    return (name, ← equals? (trimStart rest))

/-- Reads a line: a name with its value, or nothing in an empty line; `none` when it is not
understood. -/
def entry? (env : Environment) (line : List Char) : Option (Option (String × String)) :=
  match trimStart (trimEnd line) with
  | [] | '#' :: _ => some none
  | cs => do
    let (name, rest) ← assigned? cs
    match trimStart rest with
    | [] | '#' :: _ => return some (name, "")
    | cs => return some (name, String.ofList (← valueTail env [] (.text false) cs))

/-- A variable can have the value. -/
def settable (value : String) : Bool := !value.toList.contains '\x00'

/-- Adds what lines set, up to the first that is not understood. -/
def addLines (env : Environment) : List (List Char) → Option Environment
  | [] => some env
  | line :: lines =>
    match entry? env line with
    | none => some env
    | some none => addLines env lines
    | some (some (name, value)) =>
      if (env.lookup name).isSome then addLines env lines
      else if settable value then addLines (env ++ [(name, value)]) lines
      else none

/-- An environment with what the content of a file adds to it; none where a value cannot be set. -/
def addTo (env : Environment) (content : ByteArray) : Option Environment :=
  addLines env (linesOf [] .complete (texts (pieces (unmarked content.data.toList))))

end ScatterGather.EnvironmentFile
