import ScatterGather.Text.Hex

/-!
# Text in TOML

Blanks, comments, keys and strings. Every reader gives what it has read and the characters behind
it, or nothing where the text is not what it should be.
-/

namespace ScatterGather.Toml

/-- What reads a part of a text. -/
abbrev Reader (α : Type) := List Char → Option (α × List Char)

/-! ### Blanks and comments -/

/-- A blank inside a line. -/
def isBlank (c : Char) : Bool := c = ' ' || c = '\t'

/-- Drops blanks. -/
def skipBlanks (cs : List Char) : List Char := cs.dropWhile isBlank

/-- The character may stand in comments and strings: it is a tab or no control. -/
def isPlain (c : Char) : Bool := c = '\t' || (0x20 ≤ c.toNat && c.toNat ≠ 0x7F)

/-- What follows a line break. -/
def newline? : List Char → Option (List Char)
  | '\n' :: rest => some rest
  | '\r' :: '\n' :: rest => some rest
  | _ => none

/-- Drops a comment. -/
def skipComment : List Char → List Char
  | '#' :: rest => rest.dropWhile isPlain
  | cs => cs

/-- What follows the end of a line that holds nothing more than a comment. -/
def endLine? (cs : List Char) : Option (List Char) :=
  match skipComment (skipBlanks cs) with
  | [] => some []
  | cs => newline? cs

/-- Drops blanks, line breaks, and comments that end with one. -/
def skipLines : Nat → List Char → List Char
  | 0, cs => cs
  | fuel + 1, cs =>
    let cs := skipBlanks cs
    match newline? (skipComment cs) with
    | some rest => skipLines fuel rest
    | none => cs

/-! ### Strings -/

/-- The character of a number of hexadecimal digits. -/
def hexChar? (width : Nat) : Reader Char := fun cs => do
  let digits := cs.take width
  if digits.length < width then none
  let n ← digits.foldlM (fun n c => do return n * 16 + (← Text.hexValue? c)) 0
  if n.isValidChar then some (Char.ofNat n, cs.drop width) else none

/-- The character of an escape, behind its backslash. -/
def escape? : Reader Char
  | 'b' :: rest => some ('\x08', rest)
  | 'f' :: rest => some ('\x0c', rest)
  | 'n' :: rest => some ('\n', rest)
  | 'r' :: rest => some ('\r', rest)
  | 't' :: rest => some ('\t', rest)
  | '"' :: rest => some ('"', rest)
  | '\\' :: rest => some ('\\', rest)
  | 'u' :: rest => hexChar? 4 rest
  | 'U' :: rest => hexChar? 8 rest
  | _ => none

/-- Reads a string behind its opening quote. -/
def basicTail : Nat → List Char → Reader String
  | 0, _, _ => none
  | fuel + 1, acc, cs =>
    match cs with
    | '"' :: rest => some (String.ofList acc.reverse, rest)
    | '\\' :: rest => do
      let (c, rest) ← escape? rest
      basicTail fuel (c :: acc) rest
    | c :: rest => if isPlain c then basicTail fuel (c :: acc) rest else none
    | [] => none

/-- Reads a string without escapes behind its opening quote. -/
def literalTail : Reader String := fun cs =>
  let inside (c : Char) : Bool := isPlain c && c ≠ '\''
  match cs.dropWhile inside with
  | '\'' :: rest => some (String.ofList (cs.takeWhile inside), rest)
  | _ => none

/-- Drops the line break that may open a string of several lines. -/
def openLines (cs : List Char) : List Char := (newline? cs).getD cs

/-- Drops blanks and line breaks. -/
def skipBreaks : Nat → List Char → List Char
  | 0, cs => cs
  | fuel + 1, cs =>
    let cs := skipBlanks cs
    match newline? cs with
    | some rest => skipBreaks fuel rest
    | none => cs

/-- Closes a string of several lines: up to two quotes in front of the closing ones belong to it. -/
def closeLines (quote : Char) (acc cs : List Char) : String × List Char :=
  let inside := cs.take 2 |>.takeWhile (· = quote)
  (String.ofList (inside ++ acc).reverse, cs.drop inside.length)

/-- Reads a string of several lines behind its opening quotes and line break. -/
def linesTail (quote : Char) (escapes : Bool) : Nat → List Char → Reader String
  | 0, _, _ => none
  | fuel + 1, acc, cs =>
    match newline? cs with
    | some rest => linesTail quote escapes fuel ('\n' :: acc) rest
    | none =>
      match cs with
      | a :: rest =>
        if a = quote ∧ rest.take 2 = [quote, quote] then
          some (closeLines quote acc (rest.drop 2))
        else if a = '\\' ∧ escapes then
          match newline? (skipBlanks rest) with
          | some rest => linesTail quote escapes fuel acc (skipBreaks rest.length rest)
          | none => do
            let (c, rest) ← escape? rest
            linesTail quote escapes fuel (c :: acc) rest
        else if isPlain a then linesTail quote escapes fuel (a :: acc) rest
        else none
      | [] => none

/-- Reads a string of any kind. -/
def string? : Reader String := fun cs =>
  match cs with
  | '"' :: '"' :: '"' :: rest => linesTail '"' true cs.length [] (openLines rest)
  | '\'' :: '\'' :: '\'' :: rest => linesTail '\'' false cs.length [] (openLines rest)
  | '"' :: rest => basicTail cs.length [] rest
  | '\'' :: rest => literalTail rest
  | _ => none

/-! ### Keys -/

/-- The character may stand in a key without quotes. -/
def isBare (c : Char) : Bool := c.isAlphanum || c = '_' || c = '-'

/-- Reads one part of a key. -/
def keyPart? : Reader String := fun cs =>
  match cs with
  | '"' :: rest => basicTail cs.length [] rest
  | '\'' :: rest => literalTail rest
  | _ =>
    match cs.takeWhile isBare with
    | [] => none
    | name => some (String.ofList name, cs.dropWhile isBare)

/-- Tables and lists nest less than so many levels deep. -/
def maxLevels : Nat := 80

/-- Reads the parts of a key, with the blanks around them. -/
def keyParts : Nat → Reader (List String)
  | 0, _ => none
  | fuel + 1, cs => do
    let (part, rest) ← keyPart? (skipBlanks cs)
    match skipBlanks rest with
    | '.' :: rest => do
      let (parts, rest) ← keyParts fuel rest
      return (part :: parts, rest)
    | rest => return ([part], rest)

/-- Reads a key of less than `maxLevels` parts. -/
def key? : Reader (List String) := keyParts (maxLevels - 1)

end ScatterGather.Toml
