import FacetSearch.Json.Reader
/-!
# TOML strings

Strings in double quotes know escapes, strings in single quotes do not; three quotes hold strings
of several lines.
-/

namespace FacetSearch.Toml

def isBlank (c : Char) : Bool := c = ' ' || c = '\t'

/-- The text after a line end. -/
def lineEnd? : List Char → Option (List Char)
  | '\n' :: rest => some rest
  | '\r' :: '\n' :: rest => some rest
  | _ => none

/-- Control characters, tabs apart, stand in no string and no comment. -/
def isText (c : Char) : Bool := (0x20 ≤ c.toNat && c.toNat ≠ 0x7f) || c = '\t'

/-- A number of `digits` hexadecimal digits. -/
def hexadecimal? : Nat → Nat → List Char → Option (Nat × List Char)
  | 0, n, s => some (n, s)
  | _, _, [] => none
  | digits + 1, n, c :: rest => do
    let d ← Json.hexValue? c
    hexadecimal? digits (16 * n + d) rest

/-- The character with a number, if there is one. -/
def character? (n : Nat) : Option Char :=
  if h : n.isValidChar then some (Char.ofNatAux n h) else none

/-- The character that an escape after a backslash stands for. -/
def escape? : List Char → Option (Char × List Char)
  | [] => none
  | c :: rest =>
    let numbered (digits : Nat) : Option (Char × List Char) := do
      let (n, rest) ← hexadecimal? digits 0 rest
      return (← character? n, rest)
    if c = 'u' then numbered 4
    else if c = 'U' then numbered 8
    else if c = 'b' then some ('\x08', rest)
    else if c = 't' then some ('\t', rest)
    else if c = 'n' then some ('\n', rest)
    else if c = 'f' then some ('\x0c', rest)
    else if c = 'r' then some ('\r', rest)
    else if c = '\x22' ∨ c = '\\' then some (c, rest)
    else none

/-- The rest of a string of one line after its opening quote, given what was read so far, last
first. -/
def line? (quote : Char) : Nat → List Char → List Char → Option (String × List Char)
  | 0, _, _ => none
  | _, _, [] => none
  | fuel + 1, read, c :: rest =>
    if c = quote then some (String.ofList read.reverse, rest)
    else if c = '\\' ∧ quote = '\x22' then
      match escape? rest with
      | some (e, rest) => line? quote fuel (e :: read) rest
      | none => none
    else if isText c then line? quote fuel (c :: read) rest
    else none

/-- The text after blanks and line ends. -/
def skipLines : Nat → List Char → List Char
  | 0, s => s
  | fuel + 1, s =>
    let s := s.dropWhile isBlank
    match lineEnd? s with
    | some s => skipLines fuel s
    | none => s

/-- The rest of a string of several lines after its opening quotes, given what was read so far,
last first. Up to two quotes may stand before the closing ones. A backslash at the end of a line
swallows the blanks and line ends after it. -/
def lines? (quote : Char) : Nat → List Char → List Char → Option (String × List Char)
  | 0, _, _ => none
  | _, _, [] => none
  | fuel + 1, read, c :: rest =>
    if c = quote then
      let run := min 5 (((c :: rest).takeWhile (· = quote)).length)
      if run < 3 then lines? quote fuel (c :: read) rest
      else some (String.ofList (List.replicate (run - 3) quote ++ read).reverse,
        (c :: rest).drop run)
    else if c = '\\' ∧ quote = '\x22' then
      match lineEnd? (rest.dropWhile isBlank) with
      | some after => lines? quote fuel read (skipLines (after.length + 1) after)
      | none =>
        match escape? rest with
        | some (e, rest) => lines? quote fuel (e :: read) rest
        | none => none
    else match lineEnd? (c :: rest) with
      | some after => lines? quote fuel ('\n' :: read) after
      | none => if isText c then lines? quote fuel (c :: read) rest else none

/-- A string of one line or of several. A line end after three opening quotes does not count. -/
def string? : List Char → Option (String × List Char)
  | [] => none
  | quote :: rest =>
    if quote = '\x22' ∨ quote = '\x27' then
      if (rest.take 2) = [quote, quote] then
        let body := rest.drop 2
        lines? quote (body.length + 1) [] ((lineEnd? body).getD body)
      else line? quote (rest.length + 1) [] rest
    else none

end FacetSearch.Toml
