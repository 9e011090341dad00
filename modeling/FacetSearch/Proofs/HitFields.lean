import FacetSearch.Proofs.CompiledQuery
import FacetSearch.Proofs.PathLookup
import FacetSearch.Proofs.TypeReferences
import FacetSearch.Schema.Node
/-!
# Fields of hits

What a client sees of a document. The type for the fields of a hit has one field for each returned
field, under a name of its own, and this field shows what is found at the path of the returned
field, or null. A hit holds all returned fields, whatever its document is.
-/

namespace FacetSearch.Schema

/-- A hit shows a document under the names of the returned fields. -/
structure Registration.Shows (r : Registration) (document : Json) (hit : Hit) : Prop where
  /-- The hit holds every returned field. -/
  held : ∀ path ∈ r.domain.returnedFields, (hit.fields.lookup path).isSome = true
  /-- Each of them is found under its name. -/
  shown : ∃ fields, Node.ofHitFields r hit = .object r.names.hitFields fields ∧
    fields.map Prod.fst = r.fieldNames ∧
    ∀ path ∈ r.domain.returnedFields, fields.lookup (fieldName path) =
      some (.leaf ((document.lookupPath? path.toList).getD .null))

variable {rs : List Registration} {registry : Registry} {r : Registration} {request : Request}
  {q : CompiledQuery} {response : EngineResponse} {results : Results}

theorem lookup_project {fields : List String} (hn : fields.Nodup) (document : Json) {path : String}
    (hpath : path ∈ fields) : (document.project fields).lookup path =
      some ((document.lookupPath? path.toList).getD .null) := by
  have hkeys : (fields.map id).Nodup := by rwa [List.map_id]
  exact lookup_map_key hkeys hpath

/-- With distinct names, a hit that was cut out of a document shows it. -/
theorem Registration.shows_project (hn : r.fieldNames.Nodup) {document : Json} {hit : Hit}
    (hhit : hit.fields = document.project r.domain.returnedFields) : r.Shows document hit := by
  have hfields : r.domain.returnedFields.Nodup := hn.of_map fieldName
  have hfound : ∀ path ∈ r.domain.returnedFields, hit.fields.lookup path =
      some ((document.lookupPath? path.toList).getD .null) := by
    intro path hpath
    rw [hhit, lookup_project hfields document hpath]
  constructor
  case held =>
    intro path hpath
    rw [hfound path hpath, Option.isSome_some]
  case shown =>
    refine ⟨_, rfl, ?_, fun path hpath => ?_⟩
    · rw [List.map_map]
      rfl
    · rw [lookup_map_key hn hpath, hfound path hpath, Option.getD_some]

/-- No built-in scalar has a name with the ending of the types for fields. -/
theorem Names.hitFields_not_builtin (names : Names) : names.hitFields ∉ builtinScalars := by
  have hscalars : ∀ name ∈ builtinScalars, ¬ "Fields".toList <:+ name.toList := by decide
  refine fun h => hscalars _ h ?_
  rw [hitFields, String.toList_append]
  exact List.suffix_append _ _

theorem hits_of_decompile {d : Domain} (h : d.decompile request q response = .ok results) :
    List.Forall₂ (fun found hit => hit.fields = found.source.project d.returnedFields)
      response.hits results.hits := by
  obtain ⟨_, _, hresults⟩ := bind_eq_ok_iff.mp h
  obtain rfl := pure_eq_ok_iff.mp hresults
  rw [List.forall₂_map_right_iff, List.forall₂_same]
  exact fun _ _ => rfl

/-- Among registrations that pass validation, the type for the fields of a hit has one field for
each returned field, in order and under distinct names, and it is the type that the schema has under
its name. Every hit of a search then shows its document under these names. -/
theorem hitFields_show (h : validate rs = .ok registry) (hr : r ∈ rs) :
    r.hitFieldsType.shape = .object (r.domain.returnedFields.map fun path =>
      { name := fieldName path, type := .named "JSON" }) ∧
    (r.domain.returnedFields.map fieldName).Nodup ∧
    (r.domain.returnedFields ≠ [] →
      Composed.type? ⟨rs, registry⟩ r.names.hitFields = some r.hitFieldsType) ∧
    ∀ request q response results, r.domain.decompile request q response = .ok results →
      List.Forall₂ (fun found hit => r.Shows found.source hit) response.hits results.hits := by
  obtain ⟨_, hlegal, _, _⟩ := validate_eq_ok_iff.mp h
  have hn := (hlegal r hr).fields
  refine ⟨?_, hn, fun hfields => ?_, fun request q response results hresults => ?_⟩
  · rw [Registration.hitFieldsType, Registration.fieldNames, List.map_map]
    rfl
  · have hshows : r.showsFields = true := by simpa [Registration.showsFields] using hfields
    have htype : r.hitFieldsType ∈ r.types :=
      Registration.mem_types.mpr (.inr (.inr (.inr ⟨hshows, rfl⟩)))
    exact Composed.type?_of_mem (registered_of_validate h).typesDistinct
      (Composed.mem_types.mpr (.inr (.inr ⟨r, hr, htype⟩))) r.names.hitFields_not_builtin
  · exact (hits_of_decompile hresults).imp fun _ _ hhit => Registration.shows_project hn hhit

/-- Books that are returned with the names of their authors. -/
def creditedDraft : DomainDraft :=
  { bookshopDraft with returnedFields := ["title", "authors.name"], facets := [] }

def credited : Registration := ⟨⟨"Books", "Book", none⟩, creditedDraft.frozen 0⟩

/-- A book without a title. -/
def creditedAnswer : EngineResponse := ⟨1, [⟨"b1", none, Json.bookBy []⟩], .ofList []⟩

def creditedHit : Hit := ⟨"b1", none, (Json.bookBy []).project ["title", "authors.name"]⟩

/-- The names of its authors are shown under a name without a point, its title is null. -/
theorem credited_names_shown : ∃ registry results, validate [credited] = .ok registry ∧
    credited.domain.decompile {} (credited.domain.queryFor {} credited.domain.defaultSort)
      creditedAnswer = .ok results ∧ results.hits = [creditedHit] ∧
    ∃ fields, Node.ofHitFields credited creditedHit = .object "BookFields" fields ∧
      fields.map Prod.fst = ["title", "authors_name"] ∧
      fields.lookup "title" = some (.leaf .null) ∧
      fields.lookup "authors_name" = some (.leaf (.arr [.str "Ada", .str "Grace"])) := by
  have hv : validate [credited] = .ok _ := rfl
  have hd : credited.domain.decompile {} (credited.domain.queryFor {} credited.domain.defaultSort)
      creditedAnswer = .ok _ := rfl
  obtain ⟨_, _, _, hhits⟩ := hitFields_show hv (List.mem_singleton_self credited)
  obtain ⟨hshows, _⟩ := List.forall₂_cons.mp (hhits _ _ _ _ hd)
  obtain ⟨fields, hfields, hnames, hvalues⟩ := hshows.shown
  have hnotitle : Json.lookupPath? (Json.bookBy []) "title".toList = none := by
    rw [Json.lookupPath?_segment (by decide)]
    rfl
  have htitle := hvalues "title" (.head _)
  have hauthors := hvalues "authors.name" (.tail _ (.head _))
  rw [hnotitle] at htitle
  rw [Json.lookupPath?_bookBy] at hauthors
  exact ⟨_, _, hv, hd, rfl, fields, hfields, hnames, htitle, hauthors⟩

end FacetSearch.Schema
