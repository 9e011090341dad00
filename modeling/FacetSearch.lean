import FacetSearch.CommandLine
import FacetSearch.Config.Configuration
import FacetSearch.Config.Declaration
import FacetSearch.Config.Reference
import FacetSearch.Document.Execution
import FacetSearch.Http.Gateway
import FacetSearch.Json.Printer
import FacetSearch.Json.Reader
import FacetSearch.Main
import FacetSearch.Schema.Compose
import FacetSearch.Schema.Node
import FacetSearch.Schema.Sdl
import FacetSearch.Search.Answer
import FacetSearch.Search.Body
import FacetSearch.Search.Form
import FacetSearch.Search.Remote
import FacetSearch.Search.Service
import FacetSearch.Proofs.Meaning
import FacetSearch.Proofs.BuiltDomain
import FacetSearch.Proofs.Selection
import FacetSearch.Proofs.CompiledQuery
import FacetSearch.Proofs.Scope
import FacetSearch.Proofs.OptionTotal
import FacetSearch.Proofs.AppliedFilters
import FacetSearch.Proofs.ServiceRun
import FacetSearch.Proofs.Dependence
import FacetSearch.Proofs.DayNumber
import FacetSearch.Proofs.InstantText
import FacetSearch.Proofs.Writable
import FacetSearch.Proofs.JsonObject
import FacetSearch.Proofs.RequestBody
import FacetSearch.Proofs.EngineAnswer
import FacetSearch.Proofs.RangeValue
import FacetSearch.Proofs.Acceptance
import FacetSearch.Proofs.NameRegistry
import FacetSearch.Proofs.Representation
import FacetSearch.Proofs.Composition
import FacetSearch.Proofs.NearestDouble
import FacetSearch.Proofs.ShortestDecimal
import FacetSearch.Proofs.DoubleBits
import FacetSearch.Proofs.DecimalText
import FacetSearch.Proofs.DateText
import FacetSearch.Proofs.OfferedOptions
import FacetSearch.Proofs.ErrorKinds
import FacetSearch.Proofs.CompleteResults
import FacetSearch.Proofs.OperationLabels
import FacetSearch.Proofs.RequestArguments
import FacetSearch.Proofs.RootField
import FacetSearch.Proofs.AppliedIds
import FacetSearch.Proofs.GeneratedNames
import FacetSearch.Proofs.TypeReferences
import FacetSearch.Proofs.IntegerDouble
import FacetSearch.Proofs.WholeText
import FacetSearch.Proofs.IntegerKeys
import FacetSearch.Proofs.RefusedDrafts
import FacetSearch.Proofs.Histogram
import FacetSearch.Proofs.JoinedBounds
import FacetSearch.Proofs.PathLookup
import FacetSearch.Proofs.PathSegments
import FacetSearch.Proofs.HiddenMembers
import FacetSearch.Proofs.HitFields
import FacetSearch.Proofs.Pages
import FacetSearch.Proofs.InstantRoundTrip
import FacetSearch.Proofs.RegistryRun
import FacetSearch.Proofs.SingleSelection
