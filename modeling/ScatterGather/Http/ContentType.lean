import ScatterGather.Text.Ascii

/-!
# Content types

A content type is a type, a subtype with an optional suffix behind its last `+`, and parameters.
A request body is JSON when its content type is `application/json` or `application/` anything with
the suffix `json`, in any case and with any parameters; a content type that is malformed is none.
-/

namespace ScatterGather.Http

/-- The character may stand in a token. -/
def isTokenChar (c : Char) : Bool :=
  c.isAlphanum
    || ['!', '#', '$', '%', '&', '\'', '+', '-', '.', '^', '_', '\x60', '|', '~'].contains c

/-- Where the reader of parameters stands. -/
inductive ParameterState where
  /-- Before a name: blanks may come. -/
  | start
  | name
  /-- Behind the equals sign. -/
  | valueStart
  | value
  /-- Between quotes, nothing having come yet. -/
  | quoteStart
  | quoted
  /-- Behind the closing quote. -/
  | afterQuote

/-- The characters are well-formed parameters. -/
def parametersOk : ParameterState → List Char → Bool
  | .start, [] => true
  | .start, c :: cs =>
    if c = ' ' then parametersOk .start cs else isTokenChar c && parametersOk .name cs
  | .name, [] => false
  | .name, c :: cs =>
    if c = '=' then parametersOk .valueStart cs else isTokenChar c && parametersOk .name cs
  | .valueStart, [] => true
  | .valueStart, c :: cs =>
    if c = '"' then parametersOk .quoteStart cs else isTokenChar c && parametersOk .value cs
  | .value, [] => true
  | .value, c :: cs =>
    if c = ';' then parametersOk .start cs else isTokenChar c && parametersOk .value cs
  | .quoteStart, [] => false
  | .quoteStart, c :: cs => 31 < c.toNat && c.toNat < 127 && parametersOk .quoted cs
  | .quoted, [] => false
  | .quoted, c :: cs =>
    if c = '"' then parametersOk .afterQuote cs
    else 31 < c.toNat && c.toNat < 127 && parametersOk .quoted cs
  | .afterQuote, [] => true
  | .afterQuote, c :: cs =>
    if c = ';' then parametersOk .start cs else c = ' ' && parametersOk .afterQuote cs

/-- Splits at the first character that satisfies `p`; the character itself is in neither part. -/
def splitAt? (p : Char → Bool) (cs : List Char) : Option (List Char × List Char) :=
  match cs.dropWhile (!p ·) with
  | [] => none
  | _ :: rest => some (cs.takeWhile (!p ·), rest)

/-- The part of a subtype that says how the body is written: what stands behind the last `+` that
does not open it, or all of it. -/
def format (subtype : List Char) : List Char :=
  let suffix := (subtype.reverse.takeWhile (· ≠ '+')).reverse
  if suffix.length + 1 < subtype.length then suffix else subtype

/-- The content type says that the body is JSON. -/
def isJson (contentType : String) : Bool :=
  match splitAt? (· = '/') contentType.toList with
  | none => false
  | some (type, rest) =>
    let subtype := rest.takeWhile fun c => isTokenChar c
    let parameters := rest.dropWhile fun c => isTokenChar c
    let wellFormed := match parameters with
      | [] => true
      | c :: cs => (c = ';' || c = ' ') && parametersOk .start cs
    type.all isTokenChar && !subtype.isEmpty && wellFormed
      && Text.equalsIgnoringCase (String.ofList type) "application"
      && Text.equalsIgnoringCase (String.ofList (format subtype)) "json"

end ScatterGather.Http
