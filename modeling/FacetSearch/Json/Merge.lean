import FacetSearch.Json.Value
/-!
# Merging JSON values

What becomes of two values under one key. Objects are merged member by member and lists item by
item, as far as the first one goes; of all other values the first one stays.
-/

namespace FacetSearch.Json

def isObj : Json → Bool
  | .obj _ => true
  | _ => false

mutual

def merge (first : Json) : Json → Json
  | .obj members => match first with
    | .obj known => .obj (mergeMembers known members)
    | other => other
  | .arr items => match first with
    | .arr known => .arr (mergeItems known items)
    | other => other
  | _ => first

/-- Add members one after the other. -/
def mergeMembers (known : List (String × Json)) : List (String × Json) → List (String × Json)
  | [] => known
  | (key, value) :: rest =>
    match known.lookup key with
    | some first => mergeMembers (OrderedMap.put known key (merge first value)) rest
    | none => mergeMembers (known ++ [(key, value)]) rest

/-- Only objects are merged in a list. -/
def mergeItems : List Json → List Json → List Json
  | first :: known, item :: rest =>
    (if first.isObj && item.isObj then merge first item else first) :: mergeItems known rest
  | known, _ => known

end

end FacetSearch.Json
