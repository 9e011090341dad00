/-!
# Request targets

The target of a request for a path that was put together from texts: dot segments are resolved,
and characters that may not stand in a target are written as percent signs with the hexadecimal
digits of their UTF-8 bytes.
-/

namespace FacetSearch.Http

def percentByte (b : UInt8) : String :=
  let digit (n : Nat) : String := ((Nat.toDigits 16 n).headD '0').toUpper.toString
  "%" ++ digit (b.toNat / 16) ++ digit (b.toNat % 16)

/-- The text with characters that are not ASCII, control characters and the given ones encoded. -/
def percentEncode (reserved : List Char) (s : List Char) : String :=
  String.join (s.map fun c =>
    if c.toNat ≤ 0x1f ∨ 0x7e < c.toNat ∨ c ∈ reserved then
      String.join (c.toString.toUTF8.toList.map percentByte)
    else c.toString)

/-- Characters that are encoded in a path. -/
def pathReserved : List Char := [' ', '\x22', '#', '<', '>', '?', '\x60', '\x7b', '\x7d']

/-- Characters that are encoded in a query. -/
def queryReserved : List Char := [' ', '\x22', '#', '<', '>', '\x27']

/-- Cut a text at every slash; a backslash counts as one. -/
def pathSegments (segment : List Char) : List Char → List (List Char)
  | [] => [segment.reverse]
  | c :: rest =>
    if c = '/' ∨ c = '\\' then segment.reverse :: pathSegments [] rest
    else pathSegments (c :: segment) rest

/-- A segment that stands for the current level. -/
def isDot (segment : String) : Bool := [".", "%2e"].contains segment.toLower

/-- A segment that stands for the level above. -/
def isDoubleDot (segment : String) : Bool :=
  ["..", "%2e.", ".%2e", "%2e%2e"].contains segment.toLower

/-- The segments left once dots are resolved, last first. A dot at the end leaves an empty one. -/
def resolveDots (done : List String) : List String → List String
  | [] => done
  | segment :: rest =>
    if isDoubleDot segment then
      resolveDots (if rest.isEmpty then "" :: done.drop 1 else done.drop 1) rest
    else if isDot segment then resolveDots (if rest.isEmpty then "" :: done else done) rest
    else resolveDots (segment :: done) rest

/-- The target for a path that begins with a slash, with a query after it if there is one. -/
def target (path : String) : String :=
  let s := path.toList.filter fun c => c ≠ '\t' && c ≠ '\n' && c ≠ '\r'
  let s := s.takeWhile (· ≠ '#')
  let location := s.takeWhile (· ≠ '?')
  let segments := (pathSegments [] (location.drop 1)).map (percentEncode pathReserved)
  let resolved := "/" ++ "/".intercalate (resolveDots [] segments).reverse
  match s.drop location.length with
  | '?' :: query => resolved ++ "?" ++ percentEncode queryReserved query
  | _ => resolved

end FacetSearch.Http
