import FacetSearch.Http.Gateway
import FacetSearch.Proofs.Composition
import FacetSearch.Proofs.OperationLabels
import FacetSearch.Proofs.RequestArguments
import FacetSearch.Proofs.ServiceRun
import FacetSearch.Proofs.ShownResults
/-!
# Root fields and searches

A root field answers what a search of its domain comes to for the request that its arguments stand
for, at once or started and finished apart. Of the results it shows all that is asked for. A failed
search is reported with its code, and a page with a number below zero is refused before the engine
is called.
-/

namespace FacetSearch

namespace Service

/-- What comes of an answer does not depend on what went before. -/
theorem fst_finish (s : Service) (name : String) (d : Domain) (r : Request) (q : CompiledQuery)
    (t t' : Trace) : (s.finish name d r q t).1 = (s.finish name d r q t').1 := by
  unfold finish
  cases s.ask q <;> rfl

end Service

namespace Document

open Schema (Composed Registration compose)

/-- What a search comes to under a root field: its error, or the picked part of its results. -/
def Pick.answerOf (pick : Pick) (registration : Registration) :
    Except SearchError Results → Except Problem (String × Json)
  | .error e => .error (.search e)
  | .ok results => (select pick.picks (Schema.Node.ofResults registration results)).elim
      (.error .document) fun value => .ok (pick.key, value)

namespace Server

variable {s : Server} {registration : Registration} {pick : Pick} {values : String → Option Value}
  {arguments : List (String × Value)} {r : Request} {t : Trace}

/-- The schema serves a domain under the name of the field. -/
structure Serves (s : Server) (registration : Registration) (pick : Pick) : Prop where
  named : pick.name ≠ typenameField
  registered : s.schema.registration? pick.name = some registration

/-- A composed schema serves every domain under its root field. -/
theorem serves_of_compose {registrations : List Registration}
    (hc : compose registrations = .ok s.schema) (hm : registration ∈ registrations)
    (hname : pick.name = registration.names.queryField) : s.Serves registration pick := by
  obtain ⟨hregistrations, hv, _⟩ := Schema.compose_eq_ok_iff.mp hc
  obtain ⟨_, _, hdistinct, _⟩ := Schema.validate_eq_ok_iff.mp hv
  have hfields := hdistinct.queryFields
  rw [Schema.Registry.queryKeys_extend_initial] at hfields
  constructor
  case named =>
    rw [hname]
    exact Schema.queryField_ne_typename hc hm
  case registered =>
    rw [Composed.registration?, hregistrations]
    exact (find?_key_eq_some_iff hfields).mpr ⟨hm, hname.symm⟩

/-- The search that a root field stands for. -/
def searchFor (s : Server) (registration : Registration) (r : Request) (t : Trace) :
    Except SearchError Results × Trace :=
  s.service.search registration.names.typeName registration.domain r t

/-- A field whose search does not compile is over when it is started. -/
theorem start_of_compile_error (hs : s.Serves registration pick)
    (ha : Value.substituteFields values pick.arguments = some arguments)
    (hr : readArguments arguments = .ok r) {e : SearchError}
    (hc : registration.domain.compile r = .error e) (t : Trace) :
    s.start values pick t = countField pick.key (.error (.search e))
      { t with metrics := t.metrics.countSearch registration.names.typeName e.code } := by
  rw [start, if_neg hs.named, ha, hs.registered]
  simp only [hr, Service.prepare, hc]

/-- Otherwise the engine is called for it. -/
theorem start_of_compile_ok (hs : s.Serves registration pick)
    (ha : Value.substituteFields values pick.arguments = some arguments)
    (hr : readArguments arguments = .ok r) {q : CompiledQuery}
    (hc : registration.domain.compile r = .ok q) (t : Trace) :
    s.start values pick t =
      (.ok (pick, .asked registration r q), { t with calls := t.calls ++ [q] }) := by
  rw [start, if_neg hs.named, ha, hs.registered]
  simp only [hr, Service.prepare, hc]

theorem resolve_of_problem (hs : s.Serves registration pick)
    (ha : Value.substituteFields values pick.arguments = some arguments) {problem : Problem}
    (hr : readArguments arguments = .error problem) (t : Trace) :
    s.resolve values pick t = countField pick.key (.error problem) t := by
  have hstart : s.start values pick t = countField pick.key (.error problem) t := by
    rw [start, if_neg hs.named, ha, hs.registered]
    simp only [hr]
  rw [resolve, hstart]
  rfl

theorem finish_eq (s : Server) (registration : Registration) (pick : Pick) (r : Request)
    (q : CompiledQuery) (t : Trace) :
    s.finish (pick, .asked registration r q) t =
      let (result, t) :=
        s.service.finish registration.names.typeName registration.domain r q t
      countField pick.key (pick.answerOf registration result) t := by
  rw [finish]
  split
  · next h => rw [h]; rfl
  · next h => rw [h]; rfl

/-- A root field answers what its search comes to, and is counted after it. -/
theorem resolve_eq_search (hs : s.Serves registration pick)
    (ha : Value.substituteFields values pick.arguments = some arguments)
    (hr : readArguments arguments = .ok r) (t : Trace) :
    s.resolve values pick t = countField pick.key
      (pick.answerOf registration (s.searchFor registration r t).1)
      (s.searchFor registration r t).2 := by
  rw [resolve, searchFor]
  cases hc : registration.domain.compile r with
  | error e =>
    rw [start_of_compile_error hs ha hr hc, Service.search_of_compile_error hc]
    rfl
  | ok q =>
    rw [start_of_compile_ok hs ha hr hc, Service.search_of_compile_ok hc]
    exact s.finish_eq registration pick r q _

/-- Started and finished apart, with other fields in between, it answers the same. -/
theorem start_finish_eq_search (hs : s.Serves registration pick)
    (ha : Value.substituteFields values pick.arguments = some arguments)
    (hr : readArguments arguments = .ok r) (t t' : Trace) :
    ((s.start values pick t).1 >>= fun started => (s.finish started t').1) =
      pick.answerOf registration (s.searchFor registration r t).1 := by
  rw [searchFor]
  cases hc : registration.domain.compile r with
  | error e =>
    rw [start_of_compile_error hs ha hr hc, Service.search_of_compile_error hc]
    rfl
  | ok q =>
    rw [start_of_compile_ok hs ha hr hc, Service.search_of_compile_ok hc,
      s.service.fst_finish _ _ _ _ _ t']
    exact congrArg Prod.fst (s.finish_eq registration pick r q t')

/-- The only root field of an operation, whether or not the engine answers at once. -/
theorem fst_members_singleton (hs : s.Serves registration pick)
    (ha : Value.substituteFields values pick.arguments = some arguments)
    (hr : readArguments arguments = .ok r) (t : Trace) :
    (s.members values [pick] t).1 =
      (pick.answerOf registration (s.searchFor registration r t).1).map fun member => [member] := by
  unfold members
  split
  · rw [fst_inTurn_singleton, resolve_eq_search hs ha hr]
    rfl
  cases hstart : (s.start values pick t).1 with
  | error problem =>
    rw [inTurn_cons_of_error hstart, ← start_finish_eq_search hs ha hr t t, hstart]
    rfl
  | ok started =>
    rw [inTurn_cons_of_ok hstart, ← start_finish_eq_search hs ha hr t (s.start values pick t).2,
      hstart]
    exact fst_inTurn_singleton s.finish started _

end Server

/-- Values that mention no variable stay as they are. -/
theorem substituteItems_map {α : Type} {values : String → Option Value} {f : α → Value}
    (h : ∀ a, Value.substitute values (f a) = some (f a)) (items : List α) :
    Value.substituteItems values (items.map f) = some (items.map f) := by
  induction items with
  | nil => rfl
  | cons a rest ih => simp [Value.substituteItems, h, ih]

/-- The arguments of a request mention no variable. -/
theorem substituteFields_arguments (values : String → Option Value) (r : Request) :
    Value.substituteFields values r.arguments = some r.arguments := by
  have htext (text : Option String) :
      Value.substitute values (.ofText text) = some (.ofText text) := by
    cases text <;> rfl
  have hitems : Value.substituteItems values (r.selectedPairs.map fun pair =>
      .object [("identifier", .str pair.1), ("value", .str pair.2)]) = some _ :=
    substituteItems_map (fun _ => rfl) _
  simp [Request.arguments, Value.substituteFields, Value.substitute, htext, hitems]

theorem GivesNegativePage.code_eq {arguments : List (String × Value)} {e : SearchError}
    (h : GivesNegativePage arguments e) : e.code = "VALIDATION_ERROR" := by
  cases h with
  | start _ hstart => cases hstart; rfl
  | size _ _ hsize => cases hsize; rfl

/-- A root field and the searches of its domain agree: for the request that its arguments spell it
answers what the search comes to, at once, in two halves or alone in a submission; and what is
refused for a page below zero leaves the engine and the searches as they were. -/
structure Server.Agrees (s : Server) (registration : Registration) (pick : Pick) : Prop where
  resolved : ∀ values arguments r, Value.substituteFields values pick.arguments = some arguments →
    Spells arguments r → ∀ t, s.resolve values pick t = countField pick.key
      (pick.answerOf registration (s.searchFor registration r t).1)
      (s.searchFor registration r t).2
  halves : ∀ values arguments r, Value.substituteFields values pick.arguments = some arguments →
    Spells arguments r → ∀ t t',
      ((s.start values pick t).1 >>= fun started => (s.finish started t').1) =
        pick.answerOf registration (s.searchFor registration r t).1
  alone : ∀ (submission : Http.Submission) r, submission.rootPicks? s.schema = some [pick] →
    pick.arguments = r.arguments → r.AllSelected → Writable r.page → ∀ t,
      (Http.submit s submission t).1 = .ok ((pick.answerOf registration
        (s.searchFor registration r t).1).map fun (key, value) => .obj [(key, value)])
  refused : ∀ values arguments e, Value.substituteFields values pick.arguments = some arguments →
    (∃ query, GivesText arguments "query" query) → (∃ pairs, GivesPairs arguments pairs) →
    GivesNegativePage arguments e → e.code = "VALIDATION_ERROR" ∧ ∀ t,
      (s.resolve values pick t).1 = .error (.search e) ∧
      (s.resolve values pick t).2.calls = t.calls ∧
      (s.resolve values pick t).2.metrics.searches = t.metrics.searches

theorem Server.agrees_of_serves {s : Server} {registration : Registration} {pick : Pick}
    (hs : s.Serves registration pick) : s.Agrees registration pick := by
  constructor
  case resolved =>
    intro values arguments r ha hr t
    exact resolve_eq_search hs ha (readArguments_eq_ok_iff.mpr hr) t
  case halves =>
    intro values arguments r ha hr t t'
    exact start_finish_eq_search hs ha (readArguments_eq_ok_iff.mpr hr) t t'
  case alone =>
    intro submission r hpicks harguments hselected hpage t
    obtain ⟨values, hsubmit⟩ := Http.submit_of_rootPicks? s hpicks t
    have ha : Value.substituteFields values pick.arguments = some r.arguments := by
      rw [harguments, substituteFields_arguments]
    rw [hsubmit, fst_members_singleton hs ha (readArguments_arguments hselected hpage)]
    cases pick.answerOf registration (s.searchFor registration r t).1 <;> rfl
  case refused =>
    intro values arguments e ha hquery hpairs hpage
    have hr := readArguments_eq_error_iff.mpr ⟨hquery, hpairs, hpage⟩
    refine ⟨hpage.code_eq, fun t => ?_⟩
    rw [resolve_of_problem hs ha hr]
    exact ⟨rfl, rfl, rfl⟩

/-- What a search comes to is what the field answers: its error, or under the key of the field the
results, as far as they are asked for. -/
structure Server.Renders (s : Server) (registration : Registration) (pick : Pick) : Prop where
  failed : ∀ e, pick.answerOf registration (.error e) = .error (.search e)
  /-- Nothing that a valid document asks for is missing. -/
  answered : ∀ (c : Check) (o : Operation) provided, c.schema = s.schema → c.valid = true →
    o ∈ c.document.operations → pick ∈ o.picks c.document provided → ∀ results, ∃ value,
      pick.answerOf registration (.ok results) = .ok (pick.key, value)
  /-- All that the results hold is shown when everything is asked for. -/
  whole : pick.picks = s.schema.everything 4 registration.names.typeName → ∀ results,
    pick.answerOf registration (.ok results) = .ok (pick.key, registration.shown results)

theorem Server.renders_of_compose {s : Server} {registrations : List Registration}
    (hc : compose registrations = .ok s.schema) {registration : Registration}
    (hm : registration ∈ registrations) (hname : pick.name = registration.names.queryField) :
    s.Renders registration pick := by
  constructor
  case failed => exact fun e => rfl
  case answered =>
    intro c o provided hschema hv ho hp results
    obtain ⟨value, hvalue⟩ :=
      Schema.exists_select_of_valid (hschema ▸ hc) hm hv ho hp hname results
    exact ⟨value, by rw [Pick.answerOf, hvalue]; rfl⟩
  case whole =>
    intro hpicks results
    rw [Pick.answerOf, hpicks, Schema.select_ofResults hc hm results]
    rfl

/-- Given texts, pairs and a page make up a request. -/
theorem exists_readArguments {arguments : List (String × Value)} {query sortBy : Option String}
    {pairs : List (String × String)} {page : PageWindow}
    (hquery : GivesText arguments "query" query) (hpairs : GivesPairs arguments pairs)
    (hpage : GivesPage arguments page) (hsort : GivesText arguments "sortBy" sortBy) :
    ∃ r, readArguments arguments = .ok r ∧ r.query = query ∧ Groups pairs r.filters ∧
      r.page = page ∧ r.sortBy = sortBy := by
  have hgroups := Request.groups_selectAll (r := { query, page, sortBy }) rfl pairs
  exact ⟨⟨query, _, sortBy, page⟩,
    readArguments_eq_ok_iff.mpr ⟨hquery, ⟨pairs, hpairs, hgroups⟩, hpage, hsort⟩, rfl, hgroups, rfl,
    rfl⟩

/-- Arguments and requests agree. Arguments are read as the request that they stand for, with its
defaults for what is omitted or null and with the pairs grouped in order; a request is read back
from its own arguments; and a root field of a composed schema answers what the search of its domain
comes to, the whole of its results if everything is asked for. The error of a search is reported
with its code among the extensions. -/
theorem arguments_agree :
    (∀ arguments r, readArguments arguments = .ok r ↔ Spells arguments r) ∧
    (∀ arguments query pairs page sortBy, GivesText arguments "query" query →
      GivesPairs arguments pairs → GivesPage arguments page →
      GivesText arguments "sortBy" sortBy →
        ∃ r, readArguments arguments = .ok r ∧ r.query = query ∧ Groups pairs r.filters ∧
          r.page = page ∧ r.sortBy = sortBy) ∧
    (∀ r : Request, r.AllSelected → Writable r.page →
      readArguments r.arguments = .ok r ∧
        ∀ values, Value.substituteFields values r.arguments = some r.arguments) ∧
    (∀ registrations (s : Server), compose registrations = .ok s.schema →
      ∀ registration ∈ registrations, ∀ pick : Pick,
        pick.name = registration.names.queryField →
          s.Agrees registration pick ∧ s.Renders registration pick) ∧
    ∀ e, Http.answerJson (.error (.search e)) = .obj [("errors", .arr [
      .obj [("message", .str e.message), ("extensions", .obj [("code", .str e.code)])]])] := by
  refine ⟨fun _ _ => readArguments_eq_ok_iff, fun _ _ _ _ _ => exists_readArguments,
    fun r hselected hpage => ⟨readArguments_arguments hselected hpage, fun values =>
      substituteFields_arguments values r⟩, ?_, fun e => rfl⟩
  intro registrations s hc registration hm pick hname
  exact ⟨Server.agrees_of_serves (Server.serves_of_compose hc hm hname),
    Server.renders_of_compose hc hm hname⟩

/-- Both shops behind an engine that knows one answer. -/
def openShops : Server := ⟨twoShopsSchema, ⟨⟨.immediate, fun _ => .ok Domain.verseAnswer⟩, 50⟩⟩

/-- Ask for the ordering of what the sample request finds. -/
def versePick : Pick :=
  ⟨"verses", "books", verseRequest.arguments, [⟨"sortedBy", "sortedBy", [], []⟩]⟩

/-- Ask for all that it finds. -/
def wholePick : Pick :=
  ⟨"books", "books", verseRequest.arguments, twoShopsSchema.everything 4 "Books"⟩

/-- Ask for a page before the first one. -/
def pagePick : Pick := ⟨"books", "books", [("page", .object [("from", .int (-1))])], []⟩

/-- The sample request is answered, in part or as a whole, and the page before the first one is
refused. -/
theorem openShops_verses :
    compose Schema.twoShops = .ok openShops.schema ∧ verseRequest.AllSelected ∧
    Writable verseRequest.page ∧ Spells verseRequest.arguments verseRequest ∧
    (openShops.resolve (fun _ => none) versePick {}).1 =
      .ok ("verses", .obj [("sortedBy", .str "best")]) ∧
    (∃ results, (openShops.searchFor ⟨⟨"Books", "Book", none⟩, bookshop⟩ verseRequest {}).1 =
        .ok results ∧
      (openShops.resolve (fun _ => none) wholePick {}).1 =
        .ok ("books", Registration.shown ⟨⟨"Books", "Book", none⟩, bookshop⟩ results)) ∧
    (openShops.resolve (fun _ => none) pagePick {}).1 =
      .error (.search (.invalidPage "page.from must not be negative, got -1")) ∧
    (openShops.resolve (fun _ => none) pagePick {}).2.calls = [] := by
  have hc : compose Schema.twoShops = .ok openShops.schema := compose_twoShops
  have hselected : verseRequest.AllSelected := by decide
  have hpage : Writable verseRequest.page := by decide
  obtain ⟨hiff, _, hback, hagrees, _⟩ := arguments_agree
  obtain ⟨hread, hsubstitute⟩ := hback verseRequest hselected hpage
  have hspells : Spells verseRequest.arguments verseRequest := (hiff _ _).mp hread
  obtain ⟨hverses, _⟩ := hagrees _ openShops hc _ (.head _) versePick rfl
  have hnegative : GivesNegativePage pagePick.arguments
      (.invalidPage "page.from must not be negative, got -1") :=
    .start rfl (.intro (n := -1) rfl (by decide) (by decide))
  obtain ⟨hwhole, hrenders⟩ := hagrees _ openShops hc _ (.head _) wholePick rfl
  have hresults : (openShops.searchFor ⟨⟨"Books", "Book", none⟩, bookshop⟩ verseRequest {}).1 =
    .ok _ := rfl
  obtain ⟨hpages, _⟩ := hagrees _ openShops hc _ (.head _) pagePick rfl
  obtain ⟨_, hrefused⟩ := hpages.refused (fun _ => none) _ _ rfl
    ⟨none, .omitted (.inl rfl)⟩ ⟨[], .omitted (.inl rfl)⟩ hnegative
  obtain ⟨herror, hcalls, _⟩ := hrefused {}
  refine ⟨hc, hselected, hpage, hspells, ?_, ⟨_, hresults, ?_⟩, herror, hcalls⟩
  · rw [hverses.resolved (fun _ => none) _ _ (hsubstitute _) hspells]
    rfl
  · rw [hwhole.resolved (fun _ => none) _ _ (hsubstitute _) hspells, hresults,
      hrenders.whole rfl]
    rfl

end Document

end FacetSearch
