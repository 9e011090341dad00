import FacetSearch.Config.Setting
/-!
# TOML tables

A document is a tree of tables. Each table is defined once: by its header, or by dotted keys, or
first implied by the headers of its children and then by its own header. Values and inline tables
cannot be extended.
-/

namespace FacetSearch.Toml

open Config (Setting)
open OrderedMap (put)

inductive Origin where
  /-- It has a header of its own. -/
  | header
  /-- It was named on the way to another header. -/
  | implied
  /-- It was named on the way to a dotted key. -/
  | dotted
  deriving DecidableEq, Repr

inductive Tree where
  | value (value : Setting)
  | table (origin : Origin) (members : List (String × Tree))
  /-- An array of tables with headers of their own; the last one can be extended. -/
  | tables (items : List (List (String × Tree)))

abbrev Branches := List (String × Tree)

namespace Tree

mutual

def setting : Tree → Setting
  | value v => v
  | table _ members => .table (settings members)
  | tables items => .list (itemSettings items)

def settings : Branches → List (String × Setting)
  | [] => []
  | (name, tree) :: rest => (name, tree.setting) :: settings rest

def itemSettings : List Branches → List Setting
  | [] => []
  | item :: rest => .table (settings item) :: itemSettings rest

end

end Tree

namespace Branches

/-- The last of some tables changed. -/
def changeLast (change : Branches → Option Branches) : List Branches → Option (List Branches)
  | [] => none
  | [last] => (change last).map fun last => [last]
  | item :: rest => (changeLast change rest).map (item :: ·)

/-- Change the table at the end of a way of headers; tables on the way are implied. -/
def descend (change : Branches → Option Branches) : List String → Branches → Option Branches
  | [], branches => change branches
  | name :: way, branches => do
    let tree ← match branches.lookup name with
      | none => (descend change way []).map (Tree.table .implied)
      | some (.value _) => none
      | some (.table origin members) => (descend change way members).map (Tree.table origin)
      | some (.tables items) => (changeLast (descend change way) items).map Tree.tables
    return put branches name tree

/-- Define a table by its header. -/
def openTable (way : List String) (branches : Branches) : Option Branches :=
  match way.getLast? with
  | none => none
  | some name => descend (fun branches =>
      match branches.lookup name with
      | none => some (put branches name (.table .header []))
      | some (.table .implied members) => some (put branches name (.table .header members))
      | some _ => none) way.dropLast branches

/-- Add a table to an array of tables. -/
def openItem (way : List String) (branches : Branches) : Option Branches :=
  match way.getLast? with
  | none => none
  | some name => descend (fun branches =>
      match branches.lookup name with
      | none => some (put branches name (.tables [[]]))
      | some (.tables items) => some (put branches name (.tables (items ++ [[]])))
      | some _ => none) way.dropLast branches

/-- Give a value to a dotted key. The table that gets the value is one of dotted keys, unless the
key has a single part. -/
def assign (value : Setting) : List String → Branches → Option Branches
  | [], _ => none
  | [name], branches =>
    if (branches.lookup name).isSome then none else some (put branches name (.value value))
  | name :: way, branches => do
    let tree ← match branches.lookup name with
      | none => (assign value way []).map (Tree.table .dotted)
      | some (.table .dotted members) => (assign value way members).map (Tree.table .dotted)
      | some (.table .implied members) =>
        if way.length = 1 then none
        else (assign value way members).map (Tree.table .implied)
      | some (.tables items) =>
        if way.length = 1 then none
        else (changeLast (assign value way) items).map Tree.tables
      | some _ => none
    return put branches name tree

end Branches

end FacetSearch.Toml
