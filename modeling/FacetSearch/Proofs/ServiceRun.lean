import FacetSearch.Search.Service
import FacetSearch.Proofs.AppliedFilters
import Mathlib.Data.List.Basic
/-!
# Runs of the service

Searches one after the other, each of a domain of its own and with an engine that behaves in its
own way. What a search comes to depends on the search alone, and the counters after a run count
its searches: each one under its outcome, and the answers that came in time whether they could be
read or not.
-/

namespace FacetSearch

/-! ## Counters and outcomes -/

namespace Metrics

/-- The searches counted under a name and an outcome. -/
def searchTotal (m : Metrics) (name outcome : String) : Nat := m.searches.count (name, outcome)

/-- The engine answers counted under a name. -/
def answerTotal (m : Metrics) (name : String) : Nat := m.engineAnswers.count name

end Metrics

theorem SearchError.code_ne_success (e : SearchError) : e.code ≠ "success" := by
  cases e <;> simp [code, kind]

namespace Service

/-- No error is counted as a success. -/
theorem outcome_eq_success_iff {result : Except SearchError Results} :
    outcome result = "success" ↔ result.isOk = true := by
  cases result with
  | ok _ => simp [outcome, Except.isOk, Except.toBool]
  | error e => simpa [outcome, Except.isOk, Except.toBool] using e.code_ne_success

/-! ## The two halves of a search -/

variable {s : Service} {name : String} {d : Domain} {r : Request} {q : CompiledQuery}
  {e : SearchError} {response : EngineResponse} {t : Trace}

/-- A request that does not compile is counted and ends the search. -/
theorem search_of_compile_error (h : d.compile r = .error e) :
    s.search name d r t = (.error e, { t with metrics := t.metrics.countSearch name e.code }) := by
  rw [search, prepare, h]

/-- The engine is called for the compiled query. -/
theorem search_of_compile_ok (h : d.compile r = .ok q) :
    s.search name d r t = s.finish name d r q { t with calls := t.calls ++ [q] } := by
  rw [search, prepare, h]

theorem finish_of_ask_error (h : s.ask q = .error e) :
    s.finish name d r q t =
      (.error e, { t with metrics := t.metrics.countSearch name e.code }) := by
  rw [finish, h]
  rfl

/-- An answer is counted before it is read. -/
theorem finish_of_ask_ok (h : s.ask q = .ok response) :
    s.finish name d r q t =
      (d.decompile r q response, { t with
        metrics := (t.metrics.countAnswer name).countSearch name
          (outcome (d.decompile r q response)) }) := by
  rw [finish, h]

end Service

/-! ## One search of a run -/

/-- A search of a run: the name that it is counted under, what is asked of which domain, and the
engine as it behaves this time. -/
structure SearchStep where
  name : String
  domain : Domain
  request : Request
  engine : Engine

namespace SearchStep

/-- The search by a service that waits for its engine for a given time. -/
def perform (timeout : UInt64) (s : SearchStep) (t : Trace) : Except SearchError Results × Trace :=
  Service.search ⟨s.engine, timeout⟩ s.name s.domain s.request t

/-- How a search ends: its request does not compile, the engine is silent for too long, the engine
fails, or it answers and the answer is read for what it holds. -/
inductive Ends (timeout : UInt64) (s : SearchStep) : Except SearchError Results → Prop
  | refused {e : SearchError} (hc : s.domain.compile s.request = .error e) :
    Ends timeout s (.error e)
  | silent {q : CompiledQuery} (hc : s.domain.compile s.request = .ok q)
    (hl : ¬ s.engine.latency.Within timeout) : Ends timeout s (.error (.engineTimeout timeout))
  | failed {q : CompiledQuery} {e : SearchError} (hc : s.domain.compile s.request = .ok q)
    (hl : s.engine.latency.Within timeout) (ha : s.engine.answer q = .error e) :
    Ends timeout s (.error e)
  | answered {q : CompiledQuery} {response : EngineResponse}
    (hc : s.domain.compile s.request = .ok q) (hl : s.engine.latency.Within timeout)
    (ha : s.engine.answer q = .ok response) :
    Ends timeout s (s.domain.decompile s.request q response)

/-- The queries that the engine is to be asked: the compiled one, when the request compiles. -/
def asked (s : SearchStep) : List CompiledQuery :=
  (s.domain.compile s.request).toOption.toList

/-- The engine is asked, and gives an answer in time that is no error. -/
def isAnswered (timeout : UInt64) (s : SearchStep) : Bool :=
  match s.domain.compile s.request with
  | .ok q => decide (s.engine.latency.Within timeout) && (s.engine.answer q).isOk
  | .error _ => false

/-- What a search that ends with a result leaves behind. -/
def record (timeout : UInt64) (s : SearchStep) (result : Except SearchError Results) (t : Trace) :
    Trace where
  calls := t.calls ++ s.asked
  metrics :=
    let m := if s.isAnswered timeout then t.metrics.countAnswer s.name else t.metrics
    m.countSearch s.name (Service.outcome result)

/-- A search ends in one of the four ways and leaves its record, whatever went before. -/
theorem perform_spec (timeout : UInt64) (s : SearchStep) (t : Trace) :
    ∃ result, s.Ends timeout result ∧
      s.perform timeout t = (result, s.record timeout result t) := by
  unfold perform
  cases hc : s.domain.compile s.request with
  | error e =>
    refine ⟨.error e, .refused hc, ?_⟩
    rw [Service.search_of_compile_error hc]
    simp [record, asked, isAnswered, hc, Service.outcome, Except.toOption]
  | ok q =>
    have hasked : s.asked = [q] := by simp [asked, hc, Except.toOption]
    rw [Service.search_of_compile_ok hc]
    by_cases hl : s.engine.latency.Within timeout
    · have hask : Service.ask ⟨s.engine, timeout⟩ q = s.engine.answer q := if_pos hl
      cases ha : s.engine.answer q with
      | error e =>
        refine ⟨.error e, .failed hc hl ha, ?_⟩
        rw [Service.finish_of_ask_error (hask.trans ha)]
        simp [record, hasked, isAnswered, hc, ha, Service.outcome, Except.isOk, Except.toBool]
      | ok response =>
        refine ⟨_, .answered hc hl ha, ?_⟩
        rw [Service.finish_of_ask_ok (hask.trans ha)]
        simp [record, hasked, isAnswered, hc, hl, ha, Except.isOk, Except.toBool]
    · have hask : Service.ask ⟨s.engine, timeout⟩ q = .error (.engineTimeout timeout) := if_neg hl
      refine ⟨_, .silent hc hl, ?_⟩
      rw [Service.finish_of_ask_error hask]
      simp [record, hasked, isAnswered, hc, hl, Service.outcome]

/-- A search ends in one way only. -/
theorem Ends.unique {timeout : UInt64} {s : SearchStep} {result other : Except SearchError Results}
    (h : s.Ends timeout result) (h' : s.Ends timeout other) : result = other := by
  cases h <;> cases h' <;> grind

/-! ## Many searches -/

/-- What a search comes to. -/
def verdict (timeout : UInt64) (s : SearchStep) : Except SearchError Results :=
  (s.perform timeout {}).1

theorem ends_verdict (timeout : UInt64) (s : SearchStep) : s.Ends timeout (s.verdict timeout) := by
  obtain ⟨result, hends, hperform⟩ := s.perform_spec timeout {}
  rwa [verdict, hperform]

/-- What went before does not change what a search comes to. -/
theorem perform_eq (timeout : UInt64) (s : SearchStep) (t : Trace) :
    s.perform timeout t = (s.verdict timeout, s.record timeout (s.verdict timeout) t) := by
  obtain ⟨result, hends, hperform⟩ := s.perform_spec timeout t
  rw [hperform, hends.unique (s.ends_verdict timeout)]

/-- The searches in order, with their results and the trace that they leave. -/
def run (timeout : UInt64) : List SearchStep → Trace → List (Except SearchError Results) × Trace
  | [], t => ([], t)
  | s :: rest, t =>
    let (result, t) := s.perform timeout t
    let (results, t) := run timeout rest t
    (result :: results, t)

/-- The labels that a search is counted under. -/
def label (timeout : UInt64) (s : SearchStep) : String × String :=
  (s.name, Service.outcome (s.verdict timeout))

/-- A run lines up the verdicts, and its logs hold what each search adds to them. -/
theorem run_spec (timeout : UInt64) (steps : List SearchStep) (t : Trace) :
    (run timeout steps t).1 = steps.map (verdict timeout) ∧
      (run timeout steps t).2.calls = t.calls ++ steps.flatMap asked ∧
      (run timeout steps t).2.metrics.searches =
        (steps.map (label timeout)).reverse ++ t.metrics.searches ∧
      (run timeout steps t).2.metrics.engineAnswers =
        ((steps.filter (isAnswered timeout)).map name).reverse ++ t.metrics.engineAnswers := by
  induction steps generalizing t with
  | nil => simp [run]
  | cons s rest ih =>
    obtain ⟨hresults, hcalls, hsearches, hanswers⟩ :=
      ih (s.record timeout (s.verdict timeout) t)
    simp only [run, perform_eq, hresults, hcalls, hsearches, hanswers]
    refine ⟨rfl, ?_, ?_, ?_⟩
    · simp [record]
    · simp [record, label, Metrics.countSearch]
      cases s.isAnswered timeout <;> simp [Metrics.countAnswer]
    · cases h : s.isAnswered timeout <;>
        simp [record, h, Metrics.countSearch, Metrics.countAnswer]

/-- Only an answer in time leads to a success. -/
theorem isAnswered_of_isOk {timeout : UInt64} {s : SearchStep}
    (h : (s.verdict timeout).isOk = true) : s.isAnswered timeout = true := by
  have hends := s.ends_verdict timeout
  revert h hends
  generalize s.verdict timeout = result
  rintro h (hc | ⟨hc, hl⟩ | ⟨hc, hl, ha⟩ | ⟨hc, hl, ha⟩)
  · cases h
  · cases h
  · cases h
  · simp [isAnswered, hc, hl, ha, Except.isOk, Except.toBool]

theorem asked_eq_singleton_iff {s : SearchStep} {q : CompiledQuery} :
    s.asked = [q] ↔ s.domain.compile s.request = .ok q := by
  unfold asked
  cases s.domain.compile s.request <;> simp [Except.toOption]

/-- What holds between the searches of a run, their results and the trace at its end. -/
structure Balanced (timeout : UInt64) (steps : List SearchStep)
    (results : List (Except SearchError Results)) (t : Trace) : Prop where
  ends : List.Forall₂ (Ends timeout) steps results
  calls : t.calls = steps.flatMap asked
  searches : ∀ name outcome, t.metrics.searchTotal name outcome =
    (steps.zip results).countP fun (s, result) =>
      s.name == name && Service.outcome result == outcome
  once : t.metrics.searches.length = steps.length
  answers : ∀ name, t.metrics.answerTotal name =
    steps.countP fun s => s.name == name && s.isAnswered timeout
  /-- An answer in time is a success, or one that could not be read. -/
  unread : ∀ name, t.metrics.answerTotal name = t.metrics.searchTotal name "success" +
    (steps.zip results).countP fun (s, result) =>
      s.name == name && s.isAnswered timeout && !result.isOk

theorem searchTotal_run (timeout : UInt64) (steps : List SearchStep) (name outcome : String) :
    (run timeout steps {}).2.metrics.searchTotal name outcome =
      steps.countP fun s =>
        s.name == name && Service.outcome (s.verdict timeout) == outcome := by
  obtain ⟨_, _, hsearches, _⟩ := run_spec timeout steps {}
  rw [Metrics.searchTotal, hsearches, List.append_nil, List.count_reverse, List.count,
    List.countP_map]
  rfl

theorem answerTotal_run (timeout : UInt64) (steps : List SearchStep) (name : String) :
    (run timeout steps {}).2.metrics.answerTotal name =
      steps.countP fun s => s.name == name && s.isAnswered timeout := by
  obtain ⟨_, _, _, hanswers⟩ := run_spec timeout steps {}
  rw [Metrics.answerTotal, hanswers, List.append_nil, List.count_reverse, List.count,
    List.countP_map, List.countP_filter]
  rfl

/-- Of the answers in time under a name, some are read and the others are not. -/
theorem countP_isAnswered (timeout : UInt64) (steps : List SearchStep) (name : String) :
    (steps.countP fun s => s.name == name && s.isAnswered timeout) =
      (steps.countP fun s =>
        s.name == name && Service.outcome (s.verdict timeout) == "success") +
      steps.countP fun s =>
        s.name == name && s.isAnswered timeout && !(s.verdict timeout).isOk := by
  rw [List.countP_eq_countP_filter_add _ _ fun s => (s.verdict timeout).isOk, List.countP_filter,
    List.countP_filter]
  congr 1
  refine List.countP_congr fun s _ => ?_
  simp only [Bool.and_eq_true, beq_iff_eq, Service.outcome_eq_success_iff]
  constructor
  · rintro ⟨⟨hname, _⟩, hok⟩
    exact ⟨hname, hok⟩
  · rintro ⟨hname, hok⟩
    exact ⟨⟨hname, isAnswered_of_isOk hok⟩, hok⟩

theorem zip_run (timeout : UInt64) (steps : List SearchStep) :
    steps.zip (run timeout steps {}).1 = steps.map fun s => (s, s.verdict timeout) := by
  obtain ⟨hresults, _⟩ := run_spec timeout steps {}
  rw [hresults, List.map_prod_left_eq_zip]

/-- A run from zero counters. The engine is asked once in each search that compiles, for what it
compiles to, and never else. Each search ends as its request and its engine have it and is counted
once, under its outcome; the answers in time are counted too, be they read or not. In another
order the searches have the same results and leave the same counters. -/
theorem run_balanced (timeout : UInt64) (steps : List SearchStep) :
    Balanced timeout steps (run timeout steps {}).1 (run timeout steps {}).2 ∧
    (∀ before s after, steps = before ++ s :: after →
      (run timeout (before ++ [s]) {}).2.calls = (run timeout before {}).2.calls ++ s.asked ∧
        s.asked.length ≤ 1 ∧ ∀ q, s.asked = [q] ↔ s.domain.compile s.request = .ok q) ∧
    ∀ steps', steps.Perm steps' →
      (steps.zip (run timeout steps {}).1).Perm (steps'.zip (run timeout steps' {}).1) ∧
      (∀ name outcome, (run timeout steps' {}).2.metrics.searchTotal name outcome =
        (run timeout steps {}).2.metrics.searchTotal name outcome) ∧
      ∀ name, (run timeout steps' {}).2.metrics.answerTotal name =
        (run timeout steps {}).2.metrics.answerTotal name := by
  obtain ⟨hresults, hcalls, hsearches, _⟩ := run_spec timeout steps {}
  refine ⟨?_, ?_, ?_⟩
  · constructor
    · rw [hresults, List.forall₂_map_right_iff, List.forall₂_same]
      exact fun s _ => s.ends_verdict timeout
    · exact hcalls
    · intro name outcome
      rw [searchTotal_run, zip_run, List.countP_map]
      rfl
    · simp [hsearches]
    · exact answerTotal_run timeout steps
    · intro name
      rw [answerTotal_run, searchTotal_run, zip_run, List.countP_map, countP_isAnswered]
      rfl
  · rintro before s after -
    refine ⟨?_, ?_, fun q => asked_eq_singleton_iff⟩
    · simp [(run_spec timeout _ _).2.1]
    · unfold asked
      cases (s.domain.compile s.request).toOption <;> simp
  · intro steps' hperm
    refine ⟨?_, fun name outcome => ?_, fun name => ?_⟩
    · rw [zip_run, zip_run]
      exact hperm.map _
    · rw [searchTotal_run, searchTotal_run]
      exact hperm.symm.countP_eq _
    · rw [answerTotal_run, answerTotal_run]
      exact hperm.symm.countP_eq _

/-- Four visits to the bookshop: an answer that is read, one that lacks the counts, an engine that
stays silent, and a page of no size. -/
def bookshopVisits : List SearchStep :=
  [⟨"Books", bookshop, verseRequest, ⟨.immediate, fun _ => .ok Domain.verseAnswer⟩⟩,
    ⟨"Books", bookshop, verseRequest, ⟨.after 20, fun _ => .ok ⟨0, [], .empty⟩⟩⟩,
    ⟨"Books", bookshop, verseRequest, ⟨.never, fun _ => .ok Domain.verseAnswer⟩⟩,
    ⟨"Books", bookshop, verseRequest.withPage 0 0, ⟨.immediate, fun _ => .ok Domain.verseAnswer⟩⟩]

/-- Made in the opposite order, the visits are still one success and two answers in time. -/
theorem bookshopVisits_reversed : bookshopVisits.Perm bookshopVisits.reverse ∧
    (run 50 bookshopVisits.reverse {}).2.metrics.searchTotal "Books" "success" = 1 ∧
    (run 50 bookshopVisits.reverse {}).2.metrics.answerTotal "Books" = 2 ∧
    (run 50 (bookshopVisits.take 2) {}).2.calls.length = 2 := by
  have hperm : bookshopVisits.Perm bookshopVisits.reverse := (List.reverse_perm _).symm
  obtain ⟨_, heach, hany⟩ := run_balanced 50 bookshopVisits
  obtain ⟨_, hsearches, hanswers⟩ := hany _ hperm
  refine ⟨hperm, (hsearches "Books" "success").trans rfl, (hanswers "Books").trans rfl, ?_⟩
  have hcalls := (heach (bookshopVisits.take 1) _ (bookshopVisits.drop 2) rfl).1
  exact (congrArg List.length hcalls).trans rfl

end SearchStep

end FacetSearch
