import FacetSearch.Json.Reader
import FacetSearch.Json.Record
/-!
# Submissions

A document as a client submits it, with the operation to run and the values of variables, and
the reader for its text. The reader goes from left to right, and the first thing wrong decides
whether the text is malformed or has the wrong shape. What follows the submission is not read.
-/

namespace FacetSearch.Http

open Json (skipSpace)

structure Submission where
  query : String
  operationName : Option String
  values : Option Json

namespace Submission

/-- The submission that a JSON value holds. -/
def ofJson? (j : Json) : Option Submission := do
  let r ← j.record? ["query", "operationName", "variables"]
  return ⟨← r.required "query" Json.str?, ← r.nullable "operationName" Json.str?,
    ← r.nullable "variables" some⟩

/-- The values of the variables: none at all, or those of an object. -/
def provided? (s : Submission) : Option (List (String × Json)) :=
  match s.values with
  | none | some .null => some []
  | some (.obj members) => some members
  | some _ => none

/-! ## The reader -/

inductive Refusal where
  /-- No JSON text. -/
  | malformed
  /-- JSON, but no submission. -/
  | wrongShape
  deriving DecidableEq, Repr

/-- What is wrong with a text where a value of another kind is expected. The content of arrays and
objects is not looked at. -/
def misplaced (s : List Char) : Refusal :=
  match s with
  | [] => .malformed
  | c :: rest =>
    let read :=
      if c = '[' ∨ c = '\x7b' then true
      else if c = '\x22' then (Json.string? (rest.length + 1) [] rest).isSome
      else if c = 'n' then (Json.word? "null" .null s).isSome
      else if c = 't' then (Json.word? "true" .null s).isSome
      else if c = 'f' then (Json.word? "false" .null s).isSome
      else (Json.number? s).isSome
    if read then .wrongShape else .malformed

/-- The text is malformed unless something was read. -/
def orMalformed : Option (α × List Char) → Except Refusal (α × List Char)
  | some read => .ok read
  | none => .error .malformed

def readText (s : List Char) : Except Refusal (String × List Char) :=
  match skipSpace s with
  | '\x22' :: rest => orMalformed (Json.string? (rest.length + 1) [] rest)
  | s => .error (misplaced s)

/-- Null, or what `read` reads. -/
def readNullable (read : List Char → Except Refusal (α × List Char)) (s : List Char) :
    Except Refusal (Option α × List Char) :=
  match skipSpace s with
  | 'n' :: rest =>
    match Json.word? "null" .null ('n' :: rest) with
    | some (_, rest) => .ok (none, rest)
    | none => .error .malformed
  | s => do
    let (a, rest) ← read s
    return (some a, rest)

/-- Any value inside the submission. -/
def readValue (s : List Char) : Except Refusal (Json × List Char) :=
  orMalformed (Json.value? (2 * s.length + 2) (Json.maxDepth - 1) (skipSpace s))

/-- The members read so far. -/
structure Draft where
  query : Option String := none
  operationName : Option (Option String) := none
  values : Option (Option Json) := none

/-- Read the value of a member. Members with other keys are passed over. -/
def readMember (p : Draft) (key : String) (s : List Char) : Except Refusal (Draft × List Char) := do
  if key = "query" then
    if p.query.isSome then throw .wrongShape
    let (text, s) ← colon s >>= readText
    return ({ p with query := some text }, s)
  else if key = "operationName" then
    if p.operationName.isSome then throw .wrongShape
    let (name, s) ← colon s >>= readNullable readText
    return ({ p with operationName := some name }, s)
  else if key = "variables" then
    if p.values.isSome then throw .wrongShape
    let (values, s) ← colon s >>= readNullable readValue
    return ({ p with values := some values }, s)
  else
    let (_, s) ← colon s >>= readValue
    return (p, s)
where
  colon (s : List Char) : Except Refusal (List Char) :=
    match skipSpace s with
    | ':' :: rest => .ok rest
    | _ => .error .malformed

/-- The members up to the closing brace. -/
def readMembers (fuel : Nat) (first : Bool) (p : Draft) (s : List Char) :
    Except Refusal (Draft × List Char) :=
  match fuel with
  | 0 => .error .malformed
  | fuel + 1 =>
    match skipSpace s with
    | '\x7d' :: rest => .ok (p, rest)
    | s =>
      let key := match s, first with
        | ',' :: rest, false => skipSpace rest
        | s, true => s
        | _, false => []
      match key with
      | '\x22' :: rest => do
        let (key, s) ← orMalformed (Json.string? (rest.length + 1) [] rest)
        let (p, s) ← readMember p key s
        readMembers fuel false p s
      | _ => .error .malformed

/-- The next item of an array, of which there must be one. -/
def readItem (first : Bool) (read : List Char → Except Refusal (α × List Char))
    (s : List Char) : Except Refusal (α × List Char) :=
  match skipSpace s, first with
  | [], _ => .error .malformed
  | ']' :: _, _ => .error .wrongShape
  | s, true => read s
  | ',' :: rest, false =>
    match skipSpace rest with
    | ']' :: _ => .error .malformed
    | rest => read rest
  | _, false => .error .malformed

/-- The three items of a submission written as an array. -/
def readItems (s : List Char) : Except Refusal (Submission × List Char) := do
  let (query, s) ← readItem true readText s
  let (operationName, s) ← readItem false (readNullable readText) s
  let (values, s) ← readItem false (readNullable readValue) s
  match skipSpace s with
  | ']' :: rest => return (⟨query, operationName, values⟩, rest)
  | _ => throw .malformed

/-- The submission at the start of a text. -/
def read (text : String) : Except Refusal Submission := do
  match skipSpace text.toList with
  | '[' :: rest => return (← readItems rest).1
  | '\x7b' :: rest =>
    let (p, _) ← readMembers (rest.length + 1) true {} rest
    match p.query with
    | some query => return ⟨query, p.operationName.join, p.values.join⟩
    | none => throw .wrongShape
  | s => throw (misplaced s)

end Submission

end FacetSearch.Http
