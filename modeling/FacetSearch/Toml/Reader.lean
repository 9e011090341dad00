import FacetSearch.Toml.Scalar
import FacetSearch.Toml.Text
import FacetSearch.Toml.Tree
/-!
# Reading TOML

A document is read line by line: headers say which table the keys after them belong to.
-/

namespace FacetSearch.Toml

open Config (Setting)

def skipBlanks (s : List Char) : List Char := s.dropWhile isBlank

/-- The text after a comment, if there is one. -/
def skipComment : List Char → List Char
  | '#' :: rest => rest.dropWhile isText
  | s => s

/-- The text after blanks, line ends and comments. -/
def skipSpace : Nat → List Char → List Char
  | 0, s => s
  | fuel + 1, s =>
    let s := skipComment (skipBlanks s)
    match lineEnd? s with
    | some s => skipSpace fuel s
    | none => s

def space (s : List Char) : List Char := skipSpace (s.length + 1) s

/-- The text after a line that holds nothing more than blanks and a comment. -/
def finish? (s : List Char) : Option (List Char) :=
  match skipComment (skipBlanks s) with
  | [] => some []
  | s => lineEnd? s

/-! ## Keys -/

def isKeyChar (c : Char) : Bool := c.isAlphanum || c = '_' || c = '-'

/-- One part of a key: bare, or a string of one line. -/
def part? (s : List Char) : Option (String × List Char) :=
  match s with
  | [] => none
  | c :: rest =>
    if c = '\x22' ∨ c = '\x27' then line? c (rest.length + 1) [] rest
    else
      let name := s.takeWhile isKeyChar
      if name = [] then none else some (String.ofList name, s.drop name.length)

/-- The parts of a key, with points between them. -/
def key? : Nat → List Char → Option (List String × List Char)
  | 0, _ => none
  | fuel + 1, s => do
    let (name, s) ← part? (skipBlanks s)
    match skipBlanks s with
    | '.' :: s =>
      let (rest, s) ← key? fuel s
      return (name :: rest, s)
    | s => return ([name], s)

/-! ## Values -/

mutual

def value? (fuel : Nat) (s : List Char) : Option (Setting × List Char) :=
  match fuel with
  | 0 => none
  | fuel + 1 =>
    match s with
    | [] => none
    | c :: rest =>
      if c = '\x22' ∨ c = '\x27' then (string? s).map fun (text, s) => (.text text, s)
      else if c = '[' then items? fuel [] (space rest)
      else if c = '\x7b' then
        match skipBlanks rest with
        | '\x7d' :: rest => some (.table [], rest)
        | rest => members? fuel [] rest
      else scalar? s
  termination_by structural fuel

/-- The rest of an array, given the items read so far, last first. -/
def items? (fuel : Nat) (read : List Setting) (s : List Char) : Option (Setting × List Char) :=
  match fuel with
  | 0 => none
  | fuel + 1 =>
    match s with
    | ']' :: rest => some (.list read.reverse, rest)
    | s =>
      match value? fuel s with
      | none => none
      | some (item, s) =>
        match space s with
        | ',' :: rest => items? fuel (item :: read) (space rest)
        | ']' :: rest => some (.list (item :: read).reverse, rest)
        | _ => none
  termination_by structural fuel

/-- The rest of an inline table, given the branches so far. It stands on one line. -/
def members? (fuel : Nat) (read : Branches) (s : List Char) : Option (Setting × List Char) :=
  match fuel with
  | 0 => none
  | fuel + 1 =>
    match key? (s.length + 1) s with
    | some (key, '=' :: rest) =>
      match value? fuel (skipBlanks rest) with
      | none => none
      | some (value, s) =>
        match Branches.assign value key read with
        | none => none
        | some read =>
          match skipBlanks s with
          | ',' :: rest => members? fuel read rest
          | '\x7d' :: rest => some (.table (Tree.settings read), rest)
          | _ => none
    | _ => none
  termination_by structural fuel

end

/-! ## Documents -/

/-- The tables so far, and the way of the last header. -/
structure Progress where
  branches : Branches := []
  way : List String := []

/-- The header of a table, or of an item of an array of tables. -/
def header? (p : Progress) (s : List Char) : Option (Progress × List Char) := do
  match s with
  | '[' :: s =>
    let (way, s) ← key? (s.length + 1) s
    let s ← expect? ']' s
    let s ← expect? ']' s
    return (⟨← p.branches.openItem way, way⟩, s)
  | s =>
    let (way, s) ← key? (s.length + 1) s
    let s ← expect? ']' s
    return (⟨← p.branches.openTable way, way⟩, s)

/-- A key with its value. -/
def member? (p : Progress) (s : List Char) : Option (Progress × List Char) := do
  let (key, s) ← key? (s.length + 1) s
  let s ← expect? '=' s
  let (value, s) ← value? (2 * s.length + 2) (skipBlanks s)
  let branches ← p.branches.descend (Branches.assign value key) p.way
  return ({ p with branches }, s)

def document? (fuel : Nat) (p : Progress) (s : List Char) : Option Progress :=
  match fuel with
  | 0 => none
  | fuel + 1 =>
    match space s with
    | [] => some p
    | '[' :: s => do
      let (p, s) ← header? p s
      document? fuel p (← finish? s)
    | s => do
      let (p, s) ← member? p s
      document? fuel p (← finish? s)

/-- The settings of a document. A byte order mark before it does not count. -/
def read? (text : String) : Option Config.Members :=
  let s := match text.toList with
    | '\ufeff' :: rest => rest
    | s => s
  (document? (s.length + 1) {} s).map fun p => Tree.settings p.branches

end FacetSearch.Toml
