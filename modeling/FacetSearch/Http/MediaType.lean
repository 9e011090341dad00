/-!
# Media types

The content type of a request: a type, a subtype and parameters.
-/

namespace FacetSearch.Http

/-- The characters of types, subtypes and parameter names. -/
def isTokenChar (c : Char) : Bool :=
  c.isAlphanum || "!#$%&'*+-.^_`|~".toList.contains c

structure MediaType where
  type : String
  subtype : String
  deriving DecidableEq, Repr

/-- Parameters: names with values, which may stand in quotes, each after a semicolon. Blanks may
stand before a name and after a quoted value. -/
def parameters : Nat → List Char → Bool
  | 0, _ => false
  | fuel + 1, s =>
    let s := s.dropWhile (· = ' ')
    if s.isEmpty then true
    else
      let name := s.takeWhile isTokenChar
      match s.drop name.length with
      | '=' :: '\x22' :: rest =>
        let value := rest.takeWhile fun c => c ≠ '\x22' && 0x20 ≤ c.toNat && c.toNat < 0x7f
        match (rest.drop value.length).head?, (rest.drop (value.length + 1)).dropWhile (· = ' ') with
        | some '\x22', [] => !name.isEmpty && !value.isEmpty
        | some '\x22', ';' :: rest => !name.isEmpty && !value.isEmpty && parameters fuel rest
        | _, _ => false
      | '=' :: rest =>
        let value := rest.takeWhile isTokenChar
        match rest.drop value.length with
        | [] => !name.isEmpty
        | ';' :: rest => !name.isEmpty && !value.isEmpty && parameters fuel rest
        | _ => false
      | _ => false

namespace MediaType

/-- The media type that a text names; case does not matter. -/
def read? (text : String) : Option MediaType :=
  let s := text.toList
  let type := s.takeWhile isTokenChar
  match s.drop type.length with
  | '/' :: rest =>
    let subtype := rest.takeWhile isTokenChar
    let named : MediaType :=
      ⟨String.ofList (type.map Char.toLower), String.ofList (subtype.map Char.toLower)⟩
    if type.isEmpty then none
    else match rest.drop subtype.length with
      | [] => some named
      | ';' :: tail =>
        if !subtype.isEmpty && parameters (tail.length + 1) tail then some named else none
      | _ => none
  | _ => none

/-- JSON itself, or a format that is written in it. -/
def isJson (m : MediaType) : Bool :=
  m.type = "application" && (m.subtype = "json" || m.subtype.endsWith "+json")

end MediaType

end FacetSearch.Http
