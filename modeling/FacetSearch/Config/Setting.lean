import FacetSearch.Ordered
import FacetSearch.Text.Lowercase
/-!
# Settings

Configuration from several sources is laid into one tree of settings. The sources come one after
the other; tables are merged, and everything else is replaced. The names of tables and their
members do not depend on case.
-/

namespace FacetSearch.Config

inductive Setting where
  | nil
  | bool (value : Bool)
  | int (value : Int)
  | float (value : Float)
  | text (value : String)
  | list (items : List Setting)
  | table (members : List (String × Setting))
  deriving Inhabited

abbrev Members := List (String × Setting)

namespace Setting

/-- The members of a table; anything else counts as an empty table. -/
def members : Setting → Members
  | table members => members
  | _ => []

end Setting

def lowercase (name : String) : String := String.ofList (name.toList.flatMap Text.lowercase)

mutual

/-- What becomes of a setting when another one is laid over it. An empty table hides nothing. -/
def overlay (under : Setting) : Setting → Setting
  | .table [] => match under with
    | .nil => .table []
    | under => under
  | .table members => .table (overlayMembers under.members members)
  | value => value

/-- Lay members over those of a table. -/
def overlayMembers (under : Members) : Members → Members
  | [] => under
  | (name, value) :: rest =>
    let name := lowercase name
    let value := overlay ((under.lookup name).getD .nil) value
    overlayMembers (OrderedMap.put under name value) rest

end

/-- A step on the way to a setting. -/
inductive Step where
  | member (name : String)
  /-- An item of a list, counted from the end when negative. -/
  | item (index : Int)
  deriving DecidableEq, Repr

/-- The setting at an item of a list replaced; the list grows as far as needed. -/
def putItem (items : List Setting) (index : Int) (value : Setting) : List Setting :=
  let position := if 0 ≤ index then index.toNat else items.length - (-index).toNat
  let grown := items ++ List.replicate (position + 1 - items.length) .nil
  grown.set position value

/-- Lay a value over the setting at the end of a way. What stands in the way is replaced, and so is
an item at its end. -/
def overlayAt (under : Setting) : List Step → Setting → Setting
  | [], value => overlay under value
  | .member name :: rest, value =>
    let name := lowercase name
    let inner := overlayAt ((under.members.lookup name).getD .nil) rest value
    .table (OrderedMap.put under.members name inner)
  | .item index :: rest, value =>
    let items := match under with
      | .list items => items
      | _ => []
    let position := if 0 ≤ index then index.toNat else items.length - (-index).toNat
    let inner := if rest.isEmpty then value else overlayAt (items.getD position .nil) rest value
    .list (putItem items index inner)

/-! ## Ways -/

def isStepChar (c : Char) : Bool := c.isAlphanum || c = '_' || c = '-'

/-- The rest of a way after its first name: names after points, and indices in brackets. -/
def waySteps? : Nat → List Char → Option (List Step)
  | 0, _ => none
  | _, [] => some []
  | fuel + 1, '.' :: rest =>
    let name := rest.takeWhile isStepChar
    if name = [] then none
    else (waySteps? fuel (rest.drop name.length)).map (.member (String.ofList name) :: ·)
  | fuel + 1, '[' :: rest =>
    let (negative, rest) := match rest with
      | '-' :: rest => (true, rest)
      | rest => (false, rest)
    let digits := rest.takeWhile Char.isDigit
    match (String.ofList digits).toNat?, rest.drop digits.length with
    | some n, ']' :: rest =>
      (waySteps? fuel rest).map (.item (if negative then -(n : Int) else n) :: ·)
    | _, _ => none
  | _, _ => none

/-- The way that a key spells; a key that spells none is a single name. -/
def way (key : String) : List Step :=
  let s := key.toList
  let name := s.takeWhile isStepChar
  let steps := if name = [] then none else waySteps? (s.length + 1) (s.drop name.length)
  match steps with
  | some steps => .member (String.ofList name) :: steps
  | none => [.member key]

/-- Lay the members of a source over the settings so far. -/
def overlaySource (under : Setting) (source : Members) : Setting :=
  source.foldl (fun under (key, value) => overlayAt under (way key) value) under

end FacetSearch.Config
