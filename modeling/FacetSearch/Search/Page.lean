/-!
# Pages

How a window of hits lies in the whole result set.
-/

namespace FacetSearch

structure PageInfo where
  start : UInt64
  size : UInt64
  total : UInt64
  totalPages : UInt64
  pageNumber : UInt64
  deriving DecidableEq, Repr

/-- The quotient rounded up, without a sum that could wrap around. -/
def divideUp (n d : UInt64) : UInt64 := if n % d = 0 then n / d else n / d + 1

/-- Pages are counted from 0, and a page of size 0 counts as one of size 1. -/
def PageInfo.of (start size total : UInt64) : PageInfo :=
  let unit := max size 1
  ⟨start, size, total, divideUp total unit, start / unit⟩

end FacetSearch
