import FacetSearch.Http.Gateway
import FacetSearch.Proofs.ErrorKinds
import FacetSearch.Proofs.RenamedField
/-!
# Labels of operations

Which labels submissions leave in the counter of operations. A refused document is counted under no
field, a root field under the key that it is answered under, and nothing else is counted. The key is
the client's to choose: the labels are bounded by the schema as long as no root field is renamed,
and any name can become one.
-/

namespace FacetSearch

/-- The labels in the counter of operations, the last one first. -/
def Trace.labels (t : Trace) : List (String × String) := t.metrics.operations

namespace Service

variable (s : Service) (name : String) (d : Domain) (r : Request) (q : CompiledQuery) (t : Trace)

theorem labels_prepare : (prepare name d r t).2.labels = t.labels := by
  unfold prepare
  split <;> rfl

theorem labels_finish : (s.finish name d r q t).2.labels = t.labels := by
  unfold finish
  cases s.ask q <;> rfl

end Service

/-! ## Steps that add labels -/

/-- Between two traces only labels with a property are added. -/
def Adds (P : String × String → Prop) (before after : Trace) : Prop :=
  ∃ added, after.labels = added ++ before.labels ∧ ∀ label ∈ added, P label

namespace Adds

variable {P Q : String × String → Prop} {t t₁ t₂ : Trace}

theorem of_eq (h : t₁.labels = t.labels) : Adds P t t₁ := ⟨[], h, by simp⟩

theorem one {label : String × String} (h : t₁.labels = label :: t.labels) (hP : P label) :
    Adds P t t₁ :=
  ⟨[label], h, by simpa using hP⟩

theorem trans (h : Adds P t t₁) (h' : Adds P t₁ t₂) : Adds P t t₂ := by
  obtain ⟨added, hadded, hP⟩ := h
  obtain ⟨more, hmore, hP'⟩ := h'
  refine ⟨more ++ added, by rw [hmore, hadded, List.append_assoc], fun label hl => ?_⟩
  rcases List.mem_append.mp hl with hl | hl
  · exact hP' label hl
  · exact hP label hl

theorem mono (h : Adds P t t₁) (hPQ : ∀ label, P label → Q label) : Adds Q t t₁ := by
  obtain ⟨added, hadded, hP⟩ := h
  exact ⟨added, hadded, fun label hl => hPQ label (hP label hl)⟩

theorem mem {label : String × String} (h : Adds P t t₁) (hl : label ∈ t₁.labels) :
    P label ∨ label ∈ t.labels := by
  obtain ⟨added, hadded, hP⟩ := h
  rw [hadded, List.mem_append] at hl
  exact hl.imp_left (hP label)

end Adds

namespace Document

/-! ## One root field -/

/-- The labels of a root field: its key, and a success or an error. Only fields of the schema are
counted. -/
def Pick.Label (schema : Schema.Composed) (pick : Pick) (label : String × String) : Prop :=
  label.1 = pick.key ∧ (label.2 = "success" ∨ label.2 = "error") ∧
    pick.name ∈ schema.queryFields.map Prod.fst

/-- The labels of a root field that is answered. -/
def Pick.answeredLabels (pick : Pick) : List (String × String) :=
  if pick.name = typenameField then [] else [(pick.key, "success")]

/-- A root field that was started: the type is known at once, and a search was prepared for a
field of the schema. -/
def Pick.StartedAs (schema : Schema.Composed) (pick : Pick) : Started → Prop
  | .answered _ => pick.name = typenameField
  | .asked _ _ _ => pick.name ≠ typenameField ∧ pick.name ∈ schema.queryFields.map Prod.fst

variable {α β : Type}

theorem labels_countField_ok (key : String) (a : α) (t : Trace) :
    (countField key (.ok a) t).2.labels = (key, "success") :: t.labels := rfl

theorem adds_countField {schema : Schema.Composed} {pick : Pick}
    (hfield : pick.name ∈ schema.queryFields.map Prod.fst) (result : Except Problem α)
    {t t' : Trace} (h : t'.labels = t.labels) :
    Adds (pick.Label schema) t (countField pick.key result t').2 := by
  cases result with
  | ok a => exact .one (congrArg _ h) ⟨rfl, .inl rfl, hfield⟩
  | error problem => exact .one (congrArg _ h) ⟨rfl, .inr rfl, hfield⟩

theorem mem_queryFields_of_registration? {schema : Schema.Composed} {name : String}
    {r : Schema.Registration} (h : schema.registration? name = some r) :
    name ∈ schema.queryFields.map Prod.fst := by
  have hname : r.names.queryField = name := by simpa using List.find?_some h
  rw [Schema.Composed.queryFields, List.map_map]
  exact List.mem_map.mpr ⟨r, List.mem_of_find?_eq_some h, hname⟩

namespace Server

variable {s : Server} {values : String → Option Value} {pick : Pick} {t : Trace}

/-- A start counts at most an error, and nothing when the field is started. -/
theorem start_spec (s : Server) (values : String → Option Value) (pick : Pick) (t : Trace) :
    Adds (pick.Label s.schema) t (s.start values pick t).2 ∧
      ∀ started, (s.start values pick t).1 = .ok started →
        started.1 = pick ∧ pick.StartedAs s.schema started.2 ∧
          (s.start values pick t).2.labels = t.labels := by
  unfold start
  split
  · next htype =>
    refine ⟨.of_eq rfl, ?_⟩
    rintro _ ⟨⟩
    exact ⟨rfl, htype, rfl⟩
  next hname =>
  split
  · next arguments registration _ hregistration =>
    have hfield := mem_queryFields_of_registration? hregistration
    split
    · exact ⟨adds_countField hfield _ rfl, by rintro _ ⟨⟩⟩
    next request _ =>
    have hprepare :=
      Service.labels_prepare registration.names.typeName registration.domain request t
    split
    · next e t' h =>
      rw [h] at hprepare
      exact ⟨adds_countField hfield _ hprepare, by rintro _ ⟨⟩⟩
    · next q t' h =>
      rw [h] at hprepare
      refine ⟨.of_eq hprepare, ?_⟩
      rintro _ ⟨⟩
      exact ⟨rfl, ⟨hname, hfield⟩, hprepare⟩
  · exact ⟨.of_eq rfl, by rintro _ ⟨⟩⟩

/-- A finish counts the field under its key, once, unless only the type was asked for. -/
theorem finish_spec {started : Started} (h : pick.StartedAs s.schema started) (t : Trace) :
    Adds (pick.Label s.schema) t (s.finish (pick, started) t).2 ∧
      ∀ member, (s.finish (pick, started) t).1 = .ok member →
        (s.finish (pick, started) t).2.labels = pick.answeredLabels ++ t.labels := by
  cases started with
  | answered value =>
    have hname : pick.name = typenameField := h
    exact ⟨.of_eq rfl, fun _ _ => by simp [Pick.answeredLabels, hname, finish]⟩
  | asked registration request query =>
    obtain ⟨hname, hfield⟩ := h
    have hfinish := s.service.labels_finish registration.names.typeName registration.domain request
      query t
    unfold finish
    dsimp only
    split
    · next e t' h =>
      rw [h] at hfinish
      exact ⟨adds_countField hfield _ hfinish, by rintro _ ⟨⟩⟩
    · next results t' h =>
      rw [h] at hfinish
      refine ⟨adds_countField hfield _ hfinish, ?_⟩
      cases select pick.picks (Schema.Node.ofResults registration results) with
      | none => rintro _ ⟨⟩
      | some value =>
        have hlabels : (countField pick.key (.ok (pick.key, value)) t').2.labels =
            (pick.key, "success") :: t.labels := by rw [labels_countField_ok, hfinish]
        intro _ _
        simpa [Pick.answeredLabels, hname] using hlabels

theorem resolve_spec (s : Server) (values : String → Option Value) (pick : Pick) (t : Trace) :
    Adds (pick.Label s.schema) t (s.resolve values pick t).2 ∧
      ∀ member, (s.resolve values pick t).1 = .ok member →
        (s.resolve values pick t).2.labels = pick.answeredLabels ++ t.labels := by
  obtain ⟨hadds, hstarted⟩ := s.start_spec values pick t
  unfold resolve
  split
  · next problem t' h =>
    rw [h] at hadds
    exact ⟨hadds, by rintro _ ⟨⟩⟩
  · next started t' h =>
    rw [h] at hadds hstarted
    obtain ⟨rfl, has, hlabels⟩ := hstarted started rfl
    obtain ⟨hfinish, hcounted⟩ := finish_spec has t'
    refine ⟨hadds.trans hfinish, fun member hmember => ?_⟩
    rw [← hlabels]
    exact hcounted member hmember

end Server

/-! ## Root fields in turn -/

section InTurn

variable {step : α → Trace → Except Problem β × Trace} {items : List α} {results : List β}
  {t : Trace}

theorem inTurn_cons_of_error {a : α} {problem : Problem} (h : (step a t).1 = .error problem)
    (rest : List α) : inTurn step (a :: rest) t = (.error problem, (step a t).2) := by
  rw [inTurn]
  split
  · next heq => simp_all
  · next heq => simp [heq] at h

theorem inTurn_cons_of_ok {a : α} {b : β} (h : (step a t).1 = .ok b) (rest : List α) :
    inTurn step (a :: rest) t =
      ((inTurn step rest (step a t).2).1.map (b :: ·), (inTurn step rest (step a t).2).2) := by
  rw [inTurn]
  split
  · next heq => simp [heq] at h
  · next heq =>
    rw [heq] at h ⊢
    obtain rfl := Except.ok.inj h
    split <;> simp_all [Except.map]

theorem fst_inTurn_singleton (step : α → Trace → Except Problem β × Trace) (a : α) (t : Trace) :
    (inTurn step [a] t).1 = (step a t).1.map fun b => [b] := by
  cases hb : (step a t).1 with
  | error problem =>
    rw [inTurn_cons_of_error hb]
    rfl
  | ok b =>
    rw [inTurn_cons_of_ok hb]
    rfl

/-- All steps succeed when the first does and then the others do. -/
theorem inTurn_cons_eq_ok {a : α} {rest : List α}
    (h : (inTurn step (a :: rest) t).1 = .ok results) :
    ∃ b bs, (step a t).1 = .ok b ∧ (inTurn step rest (step a t).2).1 = .ok bs ∧
      results = b :: bs := by
  cases hb : (step a t).1 with
  | error problem =>
    rw [inTurn_cons_of_error hb] at h
    cases h
  | ok b =>
    rw [inTurn_cons_of_ok hb] at h
    obtain ⟨bs, hbs, rfl⟩ := map_eq_ok_iff.mp h
    exact ⟨b, bs, rfl, hbs, rfl⟩

/-- Steps that each add only certain labels add only such labels together. -/
theorem inTurn_adds {P : String × String → Prop} (h : ∀ a ∈ items, ∀ t, Adds P t (step a t).2)
    (t : Trace) : Adds P t (inTurn step items t).2 := by
  induction items generalizing t with
  | nil => exact .of_eq rfl
  | cons a rest ih =>
    obtain ⟨ha, hrest⟩ := List.forall_mem_cons.mp h
    cases hb : (step a t).1 with
    | error problem =>
      rw [inTurn_cons_of_error hb]
      exact ha t
    | ok b =>
      rw [inTurn_cons_of_ok hb]
      exact (ha t).trans (ih hrest _)

/-- When all steps succeed, the results stand in the order of the items. -/
theorem forall₂_of_inTurn {R : α → β → Prop} (h : ∀ a t b, (step a t).1 = .ok b → R a b)
    (hok : (inTurn step items t).1 = .ok results) : List.Forall₂ R items results := by
  induction items generalizing t results with
  | nil =>
    obtain rfl : [] = results := Except.ok.inj hok
    exact .nil
  | cons a rest ih =>
    obtain ⟨b, bs, hb, hbs, rfl⟩ := inTurn_cons_eq_ok hok
    exact .cons (h a t b hb) (ih hbs)

/-- When all steps succeed, their labels come one after the other. -/
theorem labels_of_inTurn {f : α → List (String × String)}
    (h : ∀ a ∈ items, ∀ t b, (step a t).1 = .ok b → (step a t).2.labels = f a ++ t.labels)
    (hok : (inTurn step items t).1 = .ok results) :
    (inTurn step items t).2.labels = items.reverse.flatMap f ++ t.labels := by
  induction items generalizing t results with
  | nil => rfl
  | cons a rest ih =>
    obtain ⟨ha, hrest⟩ := List.forall_mem_cons.mp h
    obtain ⟨b, bs, hb, hbs, rfl⟩ := inTurn_cons_eq_ok hok
    rw [inTurn_cons_of_ok hb, ih hrest hbs, ha t b hb]
    simp

end InTurn

namespace Server

/-- Started fields are the fields that were to be started. -/
theorem eq_map_fst_of_forall₂ {schema : Schema.Composed} {picks : List Pick}
    {started : List (Pick × Started)} (h : List.Forall₂ (fun pick (b : Pick × Started) =>
      b.1 = pick ∧ b.1.StartedAs schema b.2) picks started) :
    picks = started.map Prod.fst ∧ ∀ b ∈ started, b.1.StartedAs schema b.2 := by
  induction h with
  | nil => simp
  | cons hb _ ih =>
    obtain ⟨rfl, hb⟩ := hb
    obtain ⟨rfl, hrest⟩ := ih
    exact ⟨rfl, List.forall_mem_cons.mpr ⟨hb, hrest⟩⟩

/-- The root fields of an operation add labels of theirs; when all are answered, each adds its own
once. -/
theorem members_spec (s : Server) (values : String → Option Value) (picks : List Pick) (t : Trace) :
    Adds (fun label => ∃ pick ∈ picks, pick.Label s.schema label) t (s.members values picks t).2 ∧
      ∀ members, (s.members values picks t).1 = .ok members →
        (s.members values picks t).2.labels =
          picks.reverse.flatMap Pick.answeredLabels ++ t.labels := by
  unfold members
  split
  · refine ⟨inTurn_adds (fun pick hp t => ?_) t, fun members hok => ?_⟩
    · exact (s.resolve_spec values pick t).1.mono fun label h => ⟨pick, hp, h⟩
    · exact labels_of_inTurn (fun pick _ t => (s.resolve_spec values pick t).2) hok
  -- All fields are started before the first is finished.
  have hstart : Adds (fun label => ∃ pick ∈ picks, pick.Label s.schema label) t
      (inTurn (s.start values) picks t).2 :=
    inTurn_adds (fun pick hp t =>
      (s.start_spec values pick t).1.mono fun label h => ⟨pick, hp, h⟩) t
  split
  · next problem t' h =>
    rw [h] at hstart
    exact ⟨hstart, by rintro _ ⟨⟩⟩
  · next started t' h =>
    have hok : (inTurn (s.start values) picks t).1 = .ok started := congrArg Prod.fst h
    -- Starting them counted nothing, as none of them failed.
    have hlabels : t'.labels = t.labels := by
      have hnone := labels_of_inTurn (f := fun _ => [])
        (fun pick _ t b hb => ((s.start_spec values pick t).2 b hb).2.2) hok
      rw [h, List.flatMap_eq_nil_iff.mpr fun _ _ => rfl] at hnone
      exact hnone
    obtain ⟨rfl, hstarted⟩ := eq_map_fst_of_forall₂ (forall₂_of_inTurn (fun pick t b hb =>
      have hb := (s.start_spec values pick t).2 b hb
      ⟨hb.1, hb.1 ▸ hb.2.1⟩) hok)
    rw [h] at hstart
    refine ⟨hstart.trans (inTurn_adds (fun b hb t => ?_) t'), fun members hok => ?_⟩
    · exact (finish_spec (hstarted b hb) t).1.mono fun label h =>
        ⟨b.1, List.mem_map_of_mem hb, h⟩
    · rw [labels_of_inTurn (fun b hb t => (finish_spec (hstarted b hb) t).2) hok, hlabels,
        ← List.map_reverse, List.flatMap_map]

theorem execute_spec (s : Server) (d : Document) (o : Operation) (provided : List (String × Value))
    (t : Trace) :
    Adds (fun label => ∃ pick ∈ o.picks d provided, pick.Label s.schema label) t
        (s.execute d o provided t).2 ∧
      ∀ data, (s.execute d o provided t).1 = .ok data →
        (s.execute d o provided t).2.labels =
          (o.picks d provided).reverse.flatMap Pick.answeredLabels ++ t.labels := by
  obtain ⟨hadds, hanswered⟩ := s.members_spec (o.value? provided) (o.picks d provided) t
  unfold execute
  split
  · next problem t' h =>
    rw [h] at hadds
    exact ⟨hadds, by rintro _ ⟨⟩⟩
  · next members t' h =>
    rw [h] at hadds hanswered
    exact ⟨hadds, fun _ _ => hanswered members rfl⟩

end Server

end Document

/-! ## Submissions -/

namespace Http

open Document (Pick Check Value read? noField)

namespace Submission

/-- The root fields that a submission asks for: those of the chosen operation of a valid
document. -/
def rootPicks? (schema : Schema.Composed) (s : Submission) : Option (List Pick) := do
  let members ← s.provided?
  let d ← read? s.query
  if (Check.mk schema d (Value.ofMembers members)).valid then
    let o ← d.chosen? s.operationName
    return o.picks d (Value.ofMembers members)
  else none

/-- What a submission may be counted as: a text that is no document, a document that does not fit
the schema, or one of its root fields. -/
inductive Label (schema : Schema.Composed) (s : Submission) : String × String → Prop
  | unread (h : read? s.query = none) : Label schema s (noField, "parse_error")
  | invalid {members : List (String × Json)} {d : Document} (hm : s.provided? = some members)
    (hd : read? s.query = some d)
    (hv : ¬ (Check.mk schema d (Value.ofMembers members)).valid = true) :
    Label schema s (noField, "invalid")
  | field {picks : List Pick} {pick : Pick} {label : String × String}
    (h : s.rootPicks? schema = some picks) (hp : pick ∈ picks) (hl : pick.Label schema label) :
    Label schema s label

end Submission

/-- A submission is counted under labels of its own; when it is answered, once for each root field
but the one for the type of the query. -/
theorem submit_spec (server : Document.Server) (s : Submission) (t : Trace) :
    Adds (s.Label server.schema) t (submit server s t).2 ∧
      ∀ data, (submit server s t).1 = .ok (.ok data) →
        ∃ picks, s.rootPicks? server.schema = some picks ∧
          (submit server s t).2.labels = picks.reverse.flatMap Pick.answeredLabels ++ t.labels := by
  unfold submit
  cases hm : s.provided? with
  | none => exact ⟨.of_eq rfl, by rintro _ ⟨⟩⟩
  | some members =>
    dsimp only
    unfold Document.Server.run
    cases hd : read? s.query with
    | none => exact ⟨.one rfl (.unread hd), by rintro _ ⟨⟩⟩
    | some d =>
      dsimp only
      split
      · next hv =>
        cases ho : d.chosen? s.operationName with
        | none => exact ⟨.of_eq rfl, by rintro _ ⟨⟩⟩
        | some o =>
          have hpicks :
              s.rootPicks? server.schema = some (o.picks d (Value.ofMembers members)) := by
            simp [Submission.rootPicks?, hm, hd, hv, ho]
          obtain ⟨hadds, hanswered⟩ := server.execute_spec d o (Value.ofMembers members) t
          refine ⟨hadds.mono fun label ⟨pick, hp, hl⟩ => .field hpicks hp hl, fun data hdata => ?_⟩
          exact ⟨_, hpicks, hanswered data (Except.ok.inj hdata)⟩
      · next hv => exact ⟨.one rfl (.invalid hm hd hv), by rintro _ ⟨⟩⟩

/-- Submissions one after the other, each to a service as it behaves this time, behind one
schema. -/
def submitAll (schema : Schema.Composed) (visits : List (Service × Submission)) (t : Trace) :
    Trace :=
  visits.foldl (fun t (service, s) => (submit ⟨schema, service⟩ s t).2) t

theorem submitAll_adds (schema : Schema.Composed) (visits : List (Service × Submission))
    (t : Trace) :
    Adds (fun label => ∃ visit ∈ visits, visit.2.Label schema label) t
      (submitAll schema visits t) := by
  induction visits generalizing t with
  | nil => exact .of_eq rfl
  | cons visit rest ih =>
    have hfirst := (submit_spec ⟨schema, visit.1⟩ visit.2 t).1
    refine (hfirst.mono fun label h => ⟨visit, List.mem_cons_self, h⟩).trans ?_
    refine (ih _).mono ?_
    rintro label ⟨other, hother, h⟩
    exact ⟨other, List.mem_cons_of_mem _ hother, h⟩

/-- Only the submissions of a run are counted, each as what it is. So the outcomes are four, and as
long as no root field is renamed each field is one of the schema, or none. A submission that is
answered is counted once for each root field, under the key that the client gave it. -/
theorem operations_labelled (schema : Schema.Composed) (visits : List (Service × Submission)) :
    (∀ label ∈ (submitAll schema visits {}).labels,
      (∃ visit ∈ visits, visit.2.Label schema label) ∧
        label.2 ∈ ["success", "error", "parse_error", "invalid"]) ∧
    ((∀ visit ∈ visits, ∀ picks, visit.2.rootPicks? schema = some picks →
        ∀ pick ∈ picks, pick.key = pick.name) →
      ∀ label ∈ (submitAll schema visits {}).labels,
        label.1 = noField ∨ label.1 ∈ schema.queryFields.map Prod.fst) ∧
    ∀ service s t data, (submit ⟨schema, service⟩ s t).1 = .ok (.ok data) →
      ∃ picks, s.rootPicks? schema = some picks ∧
        (submit ⟨schema, service⟩ s t).2.labels =
          picks.reverse.flatMap Pick.answeredLabels ++ t.labels := by
  have hlabel : ∀ label ∈ (submitAll schema visits {}).labels,
      ∃ visit ∈ visits, visit.2.Label schema label := fun label hl =>
    ((submitAll_adds schema visits {}).mem hl).resolve_right List.not_mem_nil
  refine ⟨fun label hl => ⟨hlabel label hl, ?_⟩, fun hnamed label hl => ?_,
    fun service s t data h => (submit_spec ⟨schema, service⟩ s t).2 data h⟩
  · obtain ⟨visit, _, h⟩ := hlabel label hl
    cases h with
    | unread _ => simp
    | invalid _ _ _ => simp
    | field _ _ hl => rcases hl.2.1 with h | h <;> simp [h]
  · obtain ⟨visit, hvisit, h⟩ := hlabel label hl
    cases h with
    | unread _ => exact .inl rfl
    | invalid _ _ _ => exact .inl rfl
    | field hpicks hp hl =>
      refine .inr ?_
      rw [hl.1, hnamed visit hvisit _ hpicks _ hp]
      exact hl.2.2

/-! ## Renamed root fields -/

open Schema (isName)
open Document (renamed renamedPick renamedText twoShopsSchema)

/-- A submission runs the root fields that it asks for. -/
theorem submit_of_rootPicks? (server : Document.Server) {s : Submission} {picks : List Pick}
    (h : s.rootPicks? server.schema = some picks) (t : Trace) :
    ∃ values, submit server s t =
      (.ok ((server.members values picks t).1.map fun members =>
        .obj (Json.mergeMembers [] members)), (server.members values picks t).2) := by
  simp only [Submission.rootPicks?, Option.bind_eq_bind, Option.bind_eq_some_iff] at h
  obtain ⟨members, hm, d, hd, h⟩ := h
  split at h
  · next hv =>
    obtain ⟨o, ho, h⟩ := Option.bind_eq_some_iff.mp h
    obtain rfl := Option.some.inj h
    refine ⟨o.value? (Value.ofMembers members), ?_⟩
    simp only [submit, hm, Document.Server.run, hd, hv, if_true, ho, Document.Server.execute]
    split <;> simp_all [Except.map]
  · cases h

/-- Ask for the ordering of the books, under a given key. -/
def renamedSubmission (key : String) : Submission := ⟨renamedText key, none, none⟩

theorem rootPicks?_renamed {key : String} (h : isName key = true) :
    (renamedSubmission key).rootPicks? twoShopsSchema = some [renamedPick key] := by
  have hmembers : (renamedSubmission key).provided? = some [] := rfl
  have hread : read? (renamedSubmission key).query = some (renamed key) :=
    Document.read?_renamedText h
  simp only [Submission.rootPicks?, hmembers, hread, Value.ofMembers, Option.bind_eq_bind,
    Option.bind_some, Document.valid_renamed, if_true]
  exact congrArg some (Document.picks_renamed key [] _ (List.mem_singleton_self _))

/-- Every name becomes a label, whatever root fields the schema has. -/
theorem labels_renamed {key : String} (h : isName key = true) (t : Trace) :
    (submit ⟨twoShopsSchema, closedShop⟩ (renamedSubmission key) t).2.labels =
      (key, "error") :: t.labels := by
  obtain ⟨values, hvalues⟩ :=
    submit_of_rootPicks? ⟨twoShopsSchema, closedShop⟩ (rootPicks?_renamed h) t
  rw [hvalues]
  rfl

/-- A root field under its own name is counted under that name. -/
theorem closedShop_labels :
    (∀ visit ∈ [(closedShop, renamedSubmission "books")], ∀ picks,
      visit.2.rootPicks? twoShopsSchema = some picks → ∀ pick ∈ picks,
        pick.key = pick.name) ∧
    ("books", "error") ∈
      (submitAll twoShopsSchema [(closedShop, renamedSubmission "books")] {}).labels ∧
    ("books" = noField ∨ "books" ∈ twoShopsSchema.queryFields.map Prod.fst) := by
  obtain ⟨_, hbounded, _⟩ :=
    operations_labelled twoShopsSchema [(closedShop, renamedSubmission "books")]
  have hnamed : ∀ visit ∈ [(closedShop, renamedSubmission "books")], ∀ picks,
      visit.2.rootPicks? twoShopsSchema = some picks → ∀ pick ∈ picks,
        pick.key = pick.name := by
    intro visit hvisit picks hpicks pick hp
    obtain rfl := List.mem_singleton.mp hvisit
    obtain rfl := Option.some.inj ((rootPicks?_renamed rfl).symm.trans hpicks)
    obtain rfl := List.mem_singleton.mp hp
    rfl
  have hcounted : ("books", "error") ∈
      (submitAll twoShopsSchema [(closedShop, renamedSubmission "books")] {}).labels := by
    rw [submitAll, List.foldl_cons, List.foldl_nil, labels_renamed rfl]
    exact List.mem_cons_self
  exact ⟨hnamed, hcounted, hbounded hnamed _ hcounted⟩

/-- A renamed root field is counted under a label that the schema does not have. -/
theorem closedShop_unbounded_label :
    Schema.compose Schema.twoShops = .ok twoShopsSchema ∧
    ("a", "error") ∈
      (submitAll twoShopsSchema [(closedShop, renamedSubmission "a")] {}).labels ∧
    "a" ≠ noField ∧ "a" ∉ twoShopsSchema.queryFields.map Prod.fst := by
  refine ⟨Document.compose_twoShops, ?_, by decide, by decide⟩
  rw [submitAll, List.foldl_cons, List.foldl_nil, labels_renamed rfl]
  exact List.mem_cons_self

end Http

end FacetSearch
