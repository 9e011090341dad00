import FacetSearch.Decimal.Layout
import FacetSearch.Search.Filter
/-!
# Facets

A facet asks the engine for counts and offers each count as an option. The value of an option is
one that the filter behind the facet understands.
-/

namespace FacetSearch

inductive FacetKind where
  /-- Counts per value of a field, for the most frequent `size` values. -/
  | refinement (size : UInt64)
  /-- Counts per interval of a numeric field. -/
  | histogram (interval min max : Float)
  /-- Counts per named range of dates. -/
  | dateRanges (ranges : List DateBucket)

structure Facet where
  identifier : String
  field : String
  label : String
  multipleSelect : Bool
  /-- The identifier of the filter whose selection marks the options. -/
  filter : Option String
  kind : FacetKind

/-- How many values a refinement facet asks for unless told otherwise. -/
def defaultFacetSize : UInt64 := 10

/-- One count of the engine. -/
structure Bucket where
  key : String
  count : UInt64
  deriving DecidableEq, Repr

structure FacetOption where
  value : String
  label : String
  count : UInt64
  selected : Bool
  deriving DecidableEq, Repr

/-- What is wrong with the declaration of a facet. -/
inductive FacetFault where
  | emptyField
  | zeroSize
  | intervalNotPositive
  | emptyInterval
  | noRanges
  | repeatedLabel
  | badBound (label bound : String)
  deriving DecidableEq, Repr

def FacetFault.message : FacetFault → String
  | emptyField => "field must not be empty"
  | zeroSize => "size must be positive"
  | intervalNotPositive => "interval must be positive"
  | emptyInterval => "min must be lower than max"
  | noRanges => "at least one range is required"
  | repeatedLabel => "range labels must be unique"
  | badBound label bound =>
    s!"range '{label}' bound '{bound}': " ++ RangeFault.notADate.message

/-- The first range whose label occurred before or one of whose bounds is no date. -/
def checkRanges (seen : List String) : List DateBucket → Except FacetFault Unit
  | [] => .ok ()
  | range :: rest =>
    if range.label ∈ seen then .error .repeatedLabel
    else
      let bounds := [range.low, range.high].filterMap id
      match bounds.find? fun bound => (Calendar.readInstant? bound.toList).isNone with
      | some bound => .error (.badBound range.label bound)
      | none => checkRanges (range.label :: seen) rest

namespace Facet

def display (f : Facet) : String :=
  match f.kind with
  | .refinement _ => "RefinementSelectFacet"
  | .histogram _ _ _ => "RangeFacet"
  | .dateRanges _ => "DateRangeFacet"

def check (f : Facet) : Except FacetFault Unit :=
  if f.field = "" then .error .emptyField
  else match f.kind with
    | .refinement size => if size = 0 then .error .zeroSize else .ok ()
    | .histogram interval min max =>
      if ¬ interval > 0 then .error .intervalNotPositive
      else if min ≥ max then .error .emptyInterval
      else .ok ()
    | .dateRanges ranges =>
      if ranges.isEmpty then .error .noRanges else checkRanges [] ranges

/-- Checked once, when the domain is built. -/
def validate (f : Facet) : Except SearchError Unit :=
  f.check.mapError fun fault =>
    .invalidConfiguration (s!"facet '{f.identifier}': " ++ fault.message)

/-- The filter that selects a facet's own options, when no other is declared. -/
def implicitFilter (f : Facet) : Filter :=
  match f.kind with
  | .refinement _ => .term f.identifier f.field f.label f.multipleSelect false
  | .histogram _ _ _ => .range .numeric f.identifier f.field f.label false
  | .dateRanges _ => .range .date f.identifier f.field f.label false

/-- The counts asked of the engine, over the documents that also satisfy `filters`. -/
def aggregation (f : Facet) (filters : List Fragment) : Aggregation where
  name := f.identifier
  kind := match f.kind with
    | .refinement size => .terms f.field size
    | .histogram interval min max => .histogram f.field interval min max
    | .dateRanges ranges => .dateRanges f.field ranges
  filters := filters

/-- The value and the label of the option for a bucket. -/
def optionValue (f : Facet) (key : String) : Except SearchError (String × String) :=
  match f.kind with
  | .refinement _ => .ok (key, key)
  | .histogram interval _ _ =>
    match Decimal.readDouble key.toList with
    | .ok low =>
      let value := Decimal.display low ++ rangeSeparator ++ Decimal.display (low + interval)
      .ok (value, value)
    | .error _ => .error (.malformedResponse
        s!"facet '{f.identifier}': histogram key '{key}' is not numeric")
  | .dateRanges ranges =>
    match ranges.find? fun range => range.label = key with
    | some range =>
      .ok (range.low.getD "" ++ rangeSeparator ++ range.high.getD "", range.label)
    | none => .error (.malformedResponse
        s!"facet '{f.identifier}': unknown date range '{key}'")

/-- The option for a bucket, marked when its value is among the selected ones. -/
def option (f : Facet) (selected : List String) (bucket : Bucket) :
    Except SearchError FacetOption := do
  let (value, label) ← f.optionValue bucket.key
  return ⟨value, label, bucket.count, selected.contains value⟩

/-- One option per bucket, in bucket order. -/
def options (f : Facet) (buckets : List Bucket) (selected : List String) :
    Except SearchError (List FacetOption) :=
  buckets.mapM (f.option selected)

end Facet

end FacetSearch
