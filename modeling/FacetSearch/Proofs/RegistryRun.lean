import FacetSearch.Proofs.Composition
/-!
# Runs of the registry

Claims made one after the other, of type names and of root fields, by any owners. A claim is
granted, or it fails and leaves the registry as it is. Main statement: whoever is first granted a
name keeps it through every later claim, names that are held from the start are never given out,
and what happens to the names of one kind does not depend on the other.
-/

namespace FacetSearch.Schema

/-- The two kinds of names, which are claimed independently. -/
inductive NameKind where
  | type | queryField
  deriving DecidableEq, Repr

structure Claim where
  kind : NameKind
  name : String
  owner : String
  deriving DecidableEq, Repr

/-! ## One claim -/

section

variable {held : List (String × String)} {name owner first : String} {e : SearchError}

theorem claim_of_illegal (h : checkName name = .error e) : claim held name owner = .error e := by
  rw [claim, h]
  rfl

theorem claim_of_held (hname : checkName name = .ok ()) (h : held.lookup name = some first) :
    claim held name owner = .error (.duplicateTypeName name first owner) := by
  simp only [claim, hname, h]
  rfl

theorem claim_of_free (hname : checkName name = .ok ()) (h : held.lookup name = none) :
    claim held name owner = .ok (held ++ [(name, owner)]) := by
  simp only [claim, hname, h]
  rfl

end

namespace Registry

/-- The held names of a kind, with their owners. -/
def held (r : Registry) : NameKind → List (String × String)
  | .type => r.types
  | .queryField => r.queryFields

/-- Who holds a name of a kind. -/
def holder? (r : Registry) (kind : NameKind) (name : String) : Option String :=
  match kind with
  | .type => r.owner? name
  | .queryField => r.queryFields.lookup name

/-- The registry with other held names of a kind. -/
def withHeld (r : Registry) (kind : NameKind) (names : List (String × String)) : Registry :=
  match kind with
  | .type => { r with types := names }
  | .queryField => { r with queryFields := names }

/-- The registry with a name given out, whether it is free or not. -/
def grant (r : Registry) (c : Claim) : Registry :=
  r.withHeld c.kind (r.held c.kind ++ [(c.name, c.owner)])

/-- Make a claim of either kind. -/
def perform (r : Registry) (c : Claim) : Except SearchError Registry :=
  match c.kind with
  | .type => r.claimType c.name c.owner
  | .queryField => r.claimQueryField c.name c.owner

/-- One step of a run: what a claim comes to, and the registry after it. A claim that fails hands no
registry back, so the one it was made in stands. -/
def step (r : Registry) (c : Claim) : Except SearchError Unit × Registry :=
  match r.perform c with
  | .ok r' => (.ok (), r')
  | .error e => (.error e, r)

/-- The claims in order, with what they come to and the registry after all of them. -/
def run (r : Registry) : List Claim → List (Except SearchError Unit) × Registry
  | [] => ([], r)
  | c :: rest =>
    let (outcome, r) := r.step c
    let (outcomes, r) := run r rest
    (outcome :: outcomes, r)

variable {r r' : Registry} {c : Claim} {claims : List Claim} {kind : NameKind}
  {name owner first : String} {e : SearchError}

/-! ## One step -/

theorem holder?_eq_lookup : r.holder? kind name = (r.held kind).lookup name := by
  cases kind <;> rfl

/-- Both kinds of claims are one, made among the names of the kind. -/
theorem perform_eq (r : Registry) (c : Claim) :
    r.perform c = (claim (r.held c.kind) c.name c.owner).map (r.withHeld c.kind) := by
  obtain ⟨kind, name, owner⟩ := c
  cases kind with
  | type =>
    simp only [perform, claimType, held]
    cases claim r.types name owner <;> rfl
  | queryField =>
    simp only [perform, claimQueryField, held]
    cases claim r.queryFields name owner <;> rfl

theorem held_grant : (r.grant c).held kind =
    if c.kind = kind then r.held kind ++ [(c.name, c.owner)] else r.held kind := by
  obtain ⟨kind', name, owner⟩ := c
  cases kind' <;> cases kind <;> rfl

/-- A name that is given out is held by its new owner, unless it was held before. -/
theorem holder?_grant : (r.grant c).holder? kind name =
    (r.holder? kind name).or (if c.kind = kind ∧ c.name = name then some c.owner else none) := by
  rw [holder?_eq_lookup, holder?_eq_lookup, held_grant]
  by_cases hkind : c.kind = kind
  · by_cases hname : c.name = name
    · simp [hkind, hname, List.lookup_append]
    · have hbeq : (name == c.name) = false := by simpa using fun h => hname h.symm
      simp [hkind, hname, hbeq, List.lookup_append, List.lookup_cons]
  · simp [hkind]

theorem step_of_illegal (h : checkName c.name = .error e) : r.step c = (.error e, r) := by
  rw [step, perform_eq, claim_of_illegal h]
  rfl

theorem step_of_held (hname : checkName c.name = .ok ())
    (h : r.holder? c.kind c.name = some first) :
    r.step c = (.error (.duplicateTypeName c.name first c.owner), r) := by
  rw [step, perform_eq, claim_of_held hname (holder?_eq_lookup.symm.trans h)]
  rfl

theorem step_of_free (hname : checkName c.name = .ok ()) (h : r.holder? c.kind c.name = none) :
    r.step c = (.ok (), r.grant c) := by
  rw [step, perform_eq, claim_of_free hname (holder?_eq_lookup.symm.trans h)]
  rfl

/-- A claim is refused and changes nothing, or it is granted because its name is legal and free. -/
theorem step_cases (r : Registry) (c : Claim) :
    (∃ e, r.step c = (.error e, r)) ∨
      checkName c.name = .ok () ∧ r.holder? c.kind c.name = none ∧
        r.step c = (.ok (), r.grant c) := by
  cases hname : checkName c.name with
  | error e => exact .inl ⟨e, step_of_illegal hname⟩
  | ok =>
    cases h : r.holder? c.kind c.name with
    | some first => exact .inl ⟨_, step_of_held hname h⟩
    | none => exact .inr ⟨rfl, rfl, step_of_free hname h⟩

theorem step_ok_iff :
    (r.step c).1 = .ok () ↔ checkName c.name = .ok () ∧ r.holder? c.kind c.name = none := by
  constructor
  · intro h
    obtain ⟨e, hstep⟩ | ⟨hname, hfree, _⟩ := r.step_cases c
    · rw [hstep] at h
      cases h
    · exact ⟨hname, hfree⟩
  · rintro ⟨hname, hfree⟩
    rw [step_of_free hname hfree]

theorem step_ok (h : (r.step c).1 = .ok ()) : (r.step c).2 = r.grant c := by
  obtain ⟨hname, hfree⟩ := step_ok_iff.mp h
  rw [step_of_free hname hfree]

/-- A claim that fails changes nothing. -/
theorem step_error (h : (r.step c).1 = .error e) : (r.step c).2 = r := by
  obtain ⟨e', hstep⟩ | ⟨_, _, hstep⟩ := r.step_cases c
  · rw [hstep]
  · rw [hstep] at h
    cases h

/-- A claim leaves the names of the other kind alone. -/
theorem held_step_other (h : c.kind ≠ kind) : (r.step c).2.held kind = r.held kind := by
  obtain ⟨e, hstep⟩ | ⟨_, _, hstep⟩ := r.step_cases c
  · rw [hstep]
  · rw [hstep]
    exact held_grant.trans (if_neg h)

/-- What a claim comes to and what it adds depends on the names of its kind only. -/
theorem step_congr (h : r.held c.kind = r'.held c.kind) :
    (r.step c).1 = (r'.step c).1 ∧ (r.step c).2.held c.kind = (r'.step c).2.held c.kind := by
  have hholder : r.holder? c.kind c.name = r'.holder? c.kind c.name := by
    rw [holder?_eq_lookup, holder?_eq_lookup, h]
  cases hname : checkName c.name with
  | error e =>
    rw [step_of_illegal hname, step_of_illegal hname]
    exact ⟨rfl, h⟩
  | ok =>
    cases hfirst : r.holder? c.kind c.name with
    | some first =>
      rw [step_of_held hname hfirst, step_of_held hname (hholder ▸ hfirst)]
      exact ⟨rfl, h⟩
    | none =>
      rw [step_of_free hname hfirst, step_of_free hname (hholder ▸ hfirst)]
      refine ⟨rfl, ?_⟩
      rw [held_grant, held_grant, h]

/-! ## Many steps -/

/-- A run goes on from where it stands. -/
theorem run_append (r : Registry) (claims later : List Claim) :
    r.run (claims ++ later) = ((r.run claims).1 ++ ((r.run claims).2.run later).1,
      ((r.run claims).2.run later).2) := by
  induction claims generalizing r with
  | nil => rfl
  | cons c rest ih => simp only [List.cons_append, run, ih]

/-- The owner of the first claim of a name that was granted. -/
def firstGranted? (claims : List Claim) (outcomes : List (Except SearchError Unit))
    (kind : NameKind) (name : String) : Option String :=
  ((claims.zip outcomes).find? fun (c, outcome) =>
    decide (c.kind = kind ∧ c.name = name) && outcome.isOk).map fun (c, _) => c.owner

/-- The first to be granted a name holds it after the run, unless it was held before. -/
theorem holder?_run (r : Registry) (claims : List Claim) (kind : NameKind) (name : String) :
    (r.run claims).2.holder? kind name =
      (r.holder? kind name).or (firstGranted? claims (r.run claims).1 kind name) := by
  induction claims generalizing r with
  | nil => simp [run, firstGranted?]
  | cons c rest ih =>
    simp only [run, ih]
    obtain ⟨e, hstep⟩ | ⟨_, hfree, hstep⟩ := r.step_cases c
    · simp only [hstep]
      congr 1
      simp [firstGranted?, Except.isOk, Except.toBool]
    · simp only [hstep, holder?_grant]
      by_cases hname : c.kind = kind ∧ c.name = name
      · obtain ⟨rfl, rfl⟩ := hname
        simp [hfree, firstGranted?, Except.isOk, Except.toBool]
      · simp [hname, firstGranted?, Except.isOk, Except.toBool]

/-- A name that is held keeps its holder. -/
theorem holder?_run_of_held {o : String} (h : r.holder? kind name = some o) :
    (r.run claims).2.holder? kind name = some o := by
  rw [holder?_run, h]
  rfl

/-- A name that is free goes to the first who is granted it. -/
theorem holder?_run_of_free (h : r.holder? kind name = none) :
    (r.run claims).2.holder? kind name = firstGranted? claims (r.run claims).1 kind name := by
  rw [holder?_run, h]
  rfl

/-- The names of a kind after a run are those after the claims of that kind alone, and these claims
come to the same. -/
theorem run_filter (h : r.held kind = r'.held kind) :
    (r.run claims).2.held kind = (r'.run (claims.filter (·.kind = kind))).2.held kind ∧
      ((claims.zip (r.run claims).1).filter (·.1.kind = kind)).map Prod.snd =
        (r'.run (claims.filter (·.kind = kind))).1 := by
  induction claims generalizing r r' with
  | nil => exact ⟨h, rfl⟩
  | cons c rest ih =>
    by_cases hkind : c.kind = kind
    · subst hkind
      obtain ⟨houtcome, hheld⟩ := step_congr h
      obtain ⟨hend, houtcomes⟩ := ih hheld
      simp [run, hend, houtcomes, houtcome]
    · obtain ⟨hend, houtcomes⟩ := ih ((held_step_other hkind).trans h)
      simp [run, hkind, hend, houtcomes]

/-! ## What runs keep up -/

/-- Each held name is legal and held once. -/
structure WellFormed (r : Registry) : Prop where
  distinct : r.Distinct
  legal : ∀ kind, ∀ name ∈ (r.held kind).map Prod.fst, isName name = true

theorem wellFormed_initial : initial.WellFormed := by
  refine ⟨initial_distinct, fun kind => ?_⟩
  cases kind <;> decide

theorem wellFormed_empty : ({} : Registry).WellFormed := by
  refine ⟨⟨List.nodup_nil, List.nodup_nil⟩, fun kind => ?_⟩
  cases kind <;> decide

namespace WellFormed

theorem grant (h : r.WellFormed) (hname : isName c.name = true)
    (hfree : r.holder? c.kind c.name = none) : (r.grant c).WellFormed := by
  refine ⟨?_, fun kind name hmem => ?_⟩
  · obtain ⟨kind, name, owner⟩ := c
    have hnew := lookup_eq_none_iff_notMem.mp (holder?_eq_lookup.symm.trans hfree)
    cases kind with
    | type => exact ⟨(nodup_keys_concat_iff h.distinct.types).mpr hnew, h.distinct.queryFields⟩
    | queryField =>
      exact ⟨h.distinct.types, (nodup_keys_concat_iff h.distinct.queryFields).mpr hnew⟩
  · rw [held_grant] at hmem
    split at hmem
    · rw [List.map_append, List.mem_append] at hmem
      obtain hold | hnew := hmem
      · exact h.legal kind name hold
      · rwa [List.mem_singleton.mp hnew]
    · exact h.legal kind name hmem

theorem step (h : r.WellFormed) (c : Claim) : (r.step c).2.WellFormed := by
  obtain ⟨e, hstep⟩ | ⟨hname, hfree, hstep⟩ := r.step_cases c
  · rwa [hstep]
  · rw [hstep]
    exact h.grant (checkName_eq_ok_iff.mp hname) hfree

theorem run (h : r.WellFormed) (claims : List Claim) : (r.run claims).2.WellFormed := by
  induction claims generalizing r with
  | nil => exact h
  | cons c rest ih => exact ih (h.step c)

/-- So a claim of a held name fails for being held. -/
theorem step_duplicate (h : r.WellFormed) (hfirst : r.holder? c.kind c.name = some first) :
    r.step c = (.error (.duplicateTypeName c.name first c.owner), r) := by
  refine step_of_held (checkName_eq_ok_iff.mpr (h.legal c.kind c.name ?_)) hfirst
  apply Decidable.not_not.mp
  intro hfree
  rw [← lookup_eq_none_iff_notMem, ← holder?_eq_lookup, hfirst] at hfree
  cases hfree

end WellFormed

/-- The names that are held at the start belong to the shared types. -/
theorem owner?_start (hstart : r = .initial ∨ r = {}) (h : name ∈ r.typeNames) :
    r.owner? name = some sharedOwner := by
  obtain ⟨owner, howner⟩ := Option.isSome_iff_exists.mp (mem_typeNames.mp h)
  obtain rfl | rfl := hstart
  · have hmem := (owner?_eq_some_iff initial_distinct).mp howner
    obtain ⟨_, _, hshared⟩ := List.mem_map.mp hmem
    cases hshared
    exact howner
  · cases howner

/-- What the claims so far, with what they came to, say about the registry and the next claim. -/
structure RunLaws (start : Registry) (claims : List Claim)
    (outcomes : List (Except SearchError Unit)) (r : Registry) : Prop where
  next : ∀ c, start.run (claims ++ [c]) = (outcomes ++ [(r.step c).1], (r.step c).2)
  granted : ∀ c, (r.step c).1 = .ok () ↔
    checkName c.name = .ok () ∧ r.holder? c.kind c.name = none
  given : ∀ c, (r.step c).1 = .ok () → (r.step c).2 = r.grant c
  failed : ∀ c e, (r.step c).1 = .error e → (r.step c).2 = r
  illegal : ∀ c e, checkName c.name = .error e → (r.step c).1 = .error e
  duplicate : ∀ c first, r.holder? c.kind c.name = some first →
    (r.step c).1 = .error (.duplicateTypeName c.name first c.owner)
  seeded : ∀ name ∈ start.typeNames, r.owner? name = some sharedOwner
  first : ∀ name ∉ start.typeNames, r.owner? name = firstGranted? claims outcomes .type name
  firstField : ∀ name, r.holder? .queryField name =
    firstGranted? claims outcomes .queryField name
  lasting : ∀ later kind name owner, r.holder? kind name = some owner →
    (start.run (claims ++ later)).2.holder? kind name = some owner
  apart : ∀ kind, r.held kind = (start.run (claims.filter (·.kind = kind))).2.held kind ∧
    ((claims.zip outcomes).filter (·.1.kind = kind)).map Prod.snd =
      (start.run (claims.filter (·.kind = kind))).1
  sorted : r.typeNames.Pairwise (· < ·)
  listed : ∀ name, name ∈ r.typeNames ↔ (r.owner? name).isSome

/-- Every run of claims, from the names of the shared types or from none, obeys the laws: legal
names go to the first who claims them and stay there, and claims that fail leave no trace. -/
theorem run_lawful {start : Registry} (hstart : start = .initial ∨ start = {})
    (claims : List Claim) :
    RunLaws start claims (start.run claims).1 (start.run claims).2 := by
  have hwell : start.WellFormed := by
    obtain rfl | rfl := hstart
    · exact wellFormed_initial
    · exact wellFormed_empty
  have hend := hwell.run claims
  have hfields : ∀ name, start.holder? .queryField name = none := by
    intro name
    obtain rfl | rfl := hstart <;> rfl
  have hfree : ∀ name ∉ start.typeNames, start.holder? .type name = none := by
    intro name h
    rwa [mem_typeNames, Option.not_isSome_iff_eq_none] at h
  have hseeded : ∀ name ∈ start.typeNames, start.holder? .type name = some sharedOwner :=
    fun name => owner?_start hstart
  exact {
    next := fun c => run_append start claims [c]
    granted := fun c => step_ok_iff
    given := fun c => step_ok
    failed := fun c e => step_error
    illegal := fun c e h => congrArg Prod.fst (step_of_illegal h)
    duplicate := fun c first h => congrArg Prod.fst (hend.step_duplicate h)
    seeded := fun name h => holder?_run_of_held (hseeded name h)
    first := fun name h => holder?_run_of_free (hfree name h)
    firstField := fun name => holder?_run_of_free (hfields name)
    lasting := fun later kind name owner h => by
      rw [run_append]
      exact holder?_run_of_held h
    apart := fun kind => run_filter rfl
    sorted := typeNames_sorted hend.distinct.types
    listed := fun name => mem_typeNames }

/-- Two shops claim names. The shared type stays where it is, the first shop keeps its type, and
the second one gets the root field of the same name. -/
theorem run_lawful_two_shops :
    (initial = initial ∨ initial = {}) ∧
      RunLaws initial
        [⟨.type, "Book", "Shop"⟩, ⟨.type, "PageInfo", "Shop"⟩, ⟨.type, "Book", "Library"⟩,
          ⟨.queryField, "Book", "Library"⟩, ⟨.type, "9lives", "Shop"⟩]
        [.ok (), .error (.duplicateTypeName "PageInfo" "<shared>" "Shop"),
          .error (.duplicateTypeName "Book" "Shop" "Library"), .ok (),
          .error (.invalidConfiguration "'9lives' is not a valid GraphQL name")]
        { types := initial.types ++ [("Book", "Shop")], queryFields := [("Book", "Library")] } :=
  ⟨.inl rfl, run_lawful (.inl rfl) _⟩

end Registry

end FacetSearch.Schema
