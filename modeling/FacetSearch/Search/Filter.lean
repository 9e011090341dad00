import FacetSearch.Calendar.Reader
import FacetSearch.Decimal.Numeral
import FacetSearch.Search.Error
import FacetSearch.Search.Fragment
import FacetSearch.Search.Request
/-!
# Filters

A filter turns the values selected for its identifier into a query fragment that does not score,
and describes each value for display. Values of one filter are alternatives.
-/

namespace FacetSearch

inductive RangeKind where
  | numeric | date
  deriving DecidableEq, Repr

inductive Filter where
  /-- Exact match on a tag field, under a fixed identifier. -/
  | valueTag (field : String)
  /-- Exact match on a field; with single selection only the first value counts. -/
  | term (identifier field label : String) (multipleSelect excludeOwn : Bool)
  /-- A half-open range of a field, selected as `low..high`. -/
  | range (kind : RangeKind) (identifier field label : String) (excludeOwn : Bool)
  deriving DecidableEq, Repr

/-- The identifier of every value-tag filter. -/
def tagIdentifier : String := "CustomFilter"

/-- The field of a value-tag filter that names none. -/
def defaultTagField : String := "tag"

/-- What stands between the ends of a range value. -/
def rangeSeparator : String := ".."

/-- One selected value, for display. -/
structure AppliedFilter where
  kind : String
  /-- Identifier and value, joined by an underscore. -/
  id : String
  identifier : String
  label : String
  value : String
  display : String
  deriving DecidableEq, Repr

/-! ## Range values -/

/-- Why a value is no range. -/
inductive RangeFault where
  | noSeparator
  | notNumeric (fault : Decimal.NumeralFault)
  | notFinite
  | notADate
  | noBound
  | crossed
  deriving DecidableEq, Repr

def RangeFault.message : RangeFault → String
  | noSeparator => s!"expected 'min{rangeSeparator}max'"
  | notNumeric fault => fault.message
  | notFinite => "not a finite number"
  | notADate => "expected an RFC 3339 timestamp or YYYY-MM-DD date"
  | noBound => "at least one bound is required"
  | crossed => "lower bound exceeds upper bound"

def readNumber (s : List Char) : Except RangeFault Float :=
  match Decimal.readDouble s with
  | .ok x => if x.isFinite then .ok x else .error .notFinite
  | .error fault => .error (.notNumeric fault)

def readDate (s : List Char) : Except RangeFault Calendar.Instant :=
  match Calendar.readInstant? s with
  | some i => .ok i
  | none => .error .notADate

/-- A bound without its surrounding blanks; a blank bound is open. -/
def readBound (read : List Char → Except RangeFault α) (s : List Char) :
    Except RangeFault (Option α) :=
  if Text.trim s = [] then .ok none else (read (Text.trim s)).map some

/-- The two bounds of a value, cut at its first separator; the lower one is read first. -/
def readRange (read : List Char → Except RangeFault α) (exceeds : α → α → Bool)
    (value : String) : Except RangeFault (Option α × Option α) :=
  match Text.cut? rangeSeparator.toList value.toList with
  | none => .error .noSeparator
  | some (low, high) => do
    match ← readBound read low, ← readBound read high with
    | none, none => .error .noBound
    | some l, some h => if exceeds l h then .error .crossed else .ok (some l, some h)
    | low, high => .ok (low, high)

/-- The two bounds of a value of a range filter. -/
def RangeKind.readBounds (kind : RangeKind) (value : String) :
    Except RangeFault (Option Bound × Option Bound) :=
  match kind with
  | .numeric => do
    let (low, high) ← readRange readNumber (fun l h => l > h) value
    return (low.map .number, high.map .number)
  | .date => do
    let (low, high) ← readRange readDate (fun l h => decide (h.Before l)) value
    return (low.map .date, high.map .date)

/-! ## Filters -/

namespace Filter

def identifier : Filter → String
  | valueTag _ => tagIdentifier
  | term identifier _ _ _ _ => identifier
  | range _ identifier _ _ _ => identifier

def label : Filter → String
  | valueTag _ => "Custom Filter"
  | term _ _ label _ _ => label
  | range _ _ _ label _ => label

def field : Filter → String
  | valueTag field => field
  | term _ field _ _ _ => field
  | range _ _ field _ _ => field

/-- Facets backed by this filter are counted without its own selection. -/
def excludesOwn : Filter → Bool
  | valueTag _ => false
  | term _ _ _ _ excludeOwn => excludeOwn
  | range _ _ _ _ excludeOwn => excludeOwn

def display : Filter → String
  | valueTag _ => "Custom"
  | term _ _ _ _ _ => "Term"
  | range .numeric _ _ _ _ => "Range"
  | range .date _ _ _ _ => "DateRange"

def descriptorKind : Filter → String
  | valueTag _ | term _ _ _ _ _ => "ValueSelectedFilter"
  | range .numeric _ _ _ _ => "NumericRangeSelectedFilter"
  | range .date _ _ _ _ => "DateRangeSelectedFilter"

/-- The selected values that count. -/
def effectiveValues (f : Filter) (values : Selection) : List String :=
  match f with
  | term _ _ _ false _ => values.toList.take 1
  | _ => values.toList

/-- The clause of one value. -/
def clause (f : Filter) (value : String) : Except SearchError Fragment :=
  match f with
  | valueTag field => .ok (.term field value)
  | term _ field _ _ _ => .ok (.term field value)
  | range kind identifier field _ _ =>
    match kind.readBounds value with
    | .ok (low, high) => .ok (.range field low high)
    | .error fault => .error (.invalidFilterValue identifier value fault.message)

/-- The clauses of all values that count, as alternatives; nothing when none is selected. -/
def compile (f : Filter) (values : Selection) : Except SearchError (Option Fragment) :=
  ((f.effectiveValues values).mapM f.clause).map Fragment.anyOf

def describeValue (f : Filter) (value : String) : AppliedFilter where
  kind := f.descriptorKind
  id := f.identifier ++ "_" ++ value
  identifier := f.identifier
  label := f.label
  value := value
  display := f.display

/-- The values that count, described in order. -/
def describe (f : Filter) (values : Selection) : List AppliedFilter :=
  (f.effectiveValues values).map f.describeValue

end Filter

end FacetSearch
