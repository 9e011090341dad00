import Mathlib.Data.List.Forall2
/-!
# Outcomes

When a chain of steps that may fail succeeds, and with which result. A traversal succeeds exactly
when every item does, and its results stand in the order of the items.
-/

namespace FacetSearch

variable {α β ε : Type}

/-- Two steps succeed exactly when the first does and the second does on its result. -/
theorem bind_eq_ok_iff {x : Except ε α} {f : α → Except ε β} {b : β} :
    (x >>= f) = .ok b ↔ ∃ a, x = .ok a ∧ f a = .ok b := by
  cases x <;> simp [bind, Except.bind]

/-- Two steps fail when the first does, or the second does on its result. -/
theorem bind_eq_error_iff {x : Except ε α} {f : α → Except ε β} {e : ε} :
    (x >>= f) = .error e ↔ x = .error e ∨ ∃ a, x = .ok a ∧ f a = .error e := by
  cases x <;> simp [bind, Except.bind]

theorem map_eq_ok_iff {x : Except ε α} {f : α → β} {b : β} :
    x.map f = .ok b ↔ ∃ a, x = .ok a ∧ f a = b := by
  cases x <;> simp [Except.map]

@[simp] theorem pure_eq_ok_iff {a b : α} : (pure a : Except ε α) = .ok b ↔ a = b := by
  simp [pure, Except.pure]

theorem mapM_eq_ok_iff {f : α → Except ε β} {items : List α} {results : List β} :
    items.mapM f = .ok results ↔ List.Forall₂ (fun a b => f a = .ok b) items results := by
  induction items generalizing results with
  | nil => cases results <;> simp
  | cons a rest ih =>
    rw [List.mapM_cons]
    simp only [bind_eq_ok_iff, pure_eq_ok_iff, ih]
    constructor
    · rintro ⟨b, hb, bs, hbs, rfl⟩
      exact .cons hb hbs
    · intro h
      cases h with
      | cons hb hbs => exact ⟨_, hb, _, hbs, rfl⟩

/-! ## The first failure -/

/-- The first item with a property. -/
def FirstWith (P : α → Prop) (items : List α) (a : α) : Prop :=
  ∃ before after, items = before ++ a :: after ∧ P a ∧ ∀ b ∈ before, ¬ P b

theorem not_firstWith_nil (P : α → Prop) (a : α) : ¬ FirstWith P [] a := by
  rintro ⟨before, after, h, _⟩
  simp at h

theorem firstWith_cons_iff {P : α → Prop} {b : α} {rest : List α} {a : α} :
    FirstWith P (b :: rest) a ↔ P b ∧ a = b ∨ ¬ P b ∧ FirstWith P rest a := by
  constructor
  · rintro ⟨before, after, h, ha, hbefore⟩
    cases before with
    | nil =>
      obtain ⟨rfl, rfl⟩ := List.cons.inj h
      exact .inl ⟨ha, rfl⟩
    | cons c before =>
      obtain ⟨rfl, rfl⟩ := List.cons.inj h
      obtain ⟨hb, hbefore⟩ := List.forall_mem_cons.mp hbefore
      exact .inr ⟨hb, before, after, rfl, ha, hbefore⟩
  · rintro (⟨hb, rfl⟩ | ⟨hb, before, after, rfl, ha, hbefore⟩)
    · exact ⟨[], rest, rfl, hb, by simp⟩
    · exact ⟨b :: before, after, rfl, ha, List.forall_mem_cons.mpr ⟨hb, hbefore⟩⟩

theorem FirstWith.mem {P : α → Prop} {items : List α} {a : α} (h : FirstWith P items a) :
    a ∈ items := by
  obtain ⟨before, after, rfl, _⟩ := h
  simp

theorem FirstWith.holds {P : α → Prop} {items : List α} {a : α} (h : FirstWith P items a) :
    P a := by
  obtain ⟨_, _, _, ha, _⟩ := h
  exact ha

/-- Some item has a property exactly when a first one has. -/
theorem exists_firstWith_iff {P : α → Prop} {items : List α} :
    (∃ a, FirstWith P items a) ↔ ∃ a ∈ items, P a := by
  constructor
  · rintro ⟨a, ha⟩
    exact ⟨a, ha.mem, ha.holds⟩
  · induction items with
    | nil => simp
    | cons b rest ih =>
      rintro ⟨a, ha, hP⟩
      by_cases hb : P b
      · exact ⟨b, firstWith_cons_iff.mpr (.inl ⟨hb, rfl⟩)⟩
      · obtain rfl | ha := List.mem_cons.mp ha
        · contradiction
        · obtain ⟨c, hc⟩ := ih ⟨a, ha, hP⟩
          exact ⟨c, firstWith_cons_iff.mpr (.inr ⟨hb, hc⟩)⟩

theorem FirstWith.congr {P Q : α → Prop} {items : List α} {a : α}
    (h : ∀ b ∈ items, P b ↔ Q b) : FirstWith P items a ↔ FirstWith Q items a := by
  induction items with
  | nil => simp [not_firstWith_nil]
  | cons b rest ih =>
    obtain ⟨hb, hrest⟩ := List.forall_mem_cons.mp h
    rw [firstWith_cons_iff, firstWith_cons_iff, hb, ih hrest]

/-- A search finds the first item that passes its test. -/
theorem find?_eq_some_iff_firstWith {p : α → Bool} {items : List α} {a : α} :
    items.find? p = some a ↔ FirstWith (fun b => p b = true) items a := by
  rw [List.find?_eq_some_iff_append, FirstWith]
  simp only [Bool.not_eq_true', Bool.not_eq_true]
  constructor
  · rintro ⟨ha, before, after, h, hbefore⟩
    exact ⟨before, after, h, ha, hbefore⟩
  · rintro ⟨before, after, h, ha, hbefore⟩
    exact ⟨ha, before, after, h, hbefore⟩

theorem not_exists_ok_iff {x : Except ε α} : (¬ ∃ a, x = .ok a) ↔ ∃ e, x = .error e := by
  cases x <;> simp

/-- A traversal fails with the error of the first item that fails. -/
theorem mapM_eq_error_iff {f : α → Except ε β} {items : List α} {e : ε} :
    items.mapM f = .error e ↔
      ∃ a, FirstWith (fun b => ¬ ∃ c, f b = .ok c) items a ∧ f a = .error e := by
  induction items with
  | nil => simp [not_firstWith_nil, pure, Except.pure]
  | cons b rest ih =>
    simp only [List.mapM_cons, bind_eq_error_iff, ih, firstWith_cons_iff]
    cases hb : f b with
    | error e' =>
      simp only [reduceCtorEq, exists_false, not_false_eq_true, true_and, not_true_eq_false,
        false_and, or_false, exists_eq_left, hb]
    | ok c => simp [pure, Except.pure]

/-- A traversal that fails does so at one of the items. -/
theorem exists_error_of_mapM {f : α → Except ε β} {items : List α} {e : ε}
    (h : items.mapM f = .error e) : ∃ a ∈ items, f a = .error e := by
  obtain ⟨a, hfirst, ha⟩ := mapM_eq_error_iff.mp h
  exact ⟨a, hfirst.mem, ha⟩

/-! ## Results of a traversal -/

/-- Each item of a successful traversal has a result of its own. -/
theorem exists_ok_of_mapM {f : α → Except ε β} {items : List α} {results : List β}
    (h : items.mapM f = .ok results) {a : α} (ha : a ∈ items) : ∃ b ∈ results, f a = .ok b := by
  have hr := mapM_eq_ok_iff.mp h
  clear h
  induction hr with
  | nil => simp at ha
  | cons hab _ ih =>
    rcases List.mem_cons.mp ha with rfl | ha
    · exact ⟨_, List.mem_cons_self, hab⟩
    · obtain ⟨b, hb, hf⟩ := ih ha
      exact ⟨b, List.mem_cons_of_mem _ hb, hf⟩

/-- Some result has a property exactly when some item leads to such a result. -/
theorem exists_mem_results_iff {f : α → Except ε β} {items : List α} {results : List β}
    (h : items.mapM f = .ok results) {P : β → Prop} :
    (∃ b ∈ results, P b) ↔ ∃ a ∈ items, ∃ b, f a = .ok b ∧ P b := by
  have hr := mapM_eq_ok_iff.mp h
  clear h
  induction hr with
  | nil => simp
  | cons hab _ ih => simp [hab, ih]

/-- Each result of a successful traversal comes from an item. -/
theorem exists_item_of_mapM {f : α → Except ε β} {items : List α} {results : List β}
    (h : items.mapM f = .ok results) {b : β} (hb : b ∈ results) : ∃ a ∈ items, f a = .ok b := by
  obtain ⟨a, ha, b', hf, rfl⟩ := (exists_mem_results_iff h (P := fun b' => b' = b)).mp ⟨b, hb, rfl⟩
  exact ⟨a, ha, hf⟩

/-- A traversal whose step is known on every item is a plain map. -/
theorem mapM_eq_ok_map {f : α → Except ε β} {g : α → β} {items : List α}
    (h : ∀ a ∈ items, f a = .ok (g a)) : items.mapM f = .ok (items.map g) := by
  rw [mapM_eq_ok_iff, List.forall₂_map_right_iff, List.forall₂_same]
  exact h

/-- What reads back each item reads back a list of them. -/
theorem mapM_map_eq_ok {encode : α → β} {read : β → Except ε α} {items : List α}
    (h : ∀ a ∈ items, read (encode a) = .ok a) : (items.map encode).mapM read = .ok items := by
  rw [mapM_eq_ok_iff, List.forall₂_map_left_iff, List.forall₂_same]
  exact h

/-- Checks of all items succeed exactly when each one does. -/
theorem forM_eq_ok_iff {f : α → Except ε Unit} {items : List α} :
    items.forM f = .ok () ↔ ∀ a ∈ items, f a = .ok () := by
  rw [List.forM_eq_forM]
  induction items with
  | nil => simp
  | cons a rest ih =>
    rw [List.forM_cons, bind_eq_ok_iff, List.forall_mem_cons, ← ih]
    exact ⟨fun ⟨_, ha, hr⟩ => ⟨ha, hr⟩, fun ⟨ha, hr⟩ => ⟨_, ha, hr⟩⟩

/-- Checks of all items fail with the error of the first item that fails. -/
theorem forM_eq_error_iff {f : α → Except ε Unit} {items : List α} {e : ε} :
    items.forM f = .error e ↔
      ∃ a, FirstWith (fun b => ¬ f b = .ok ()) items a ∧ f a = .error e := by
  rw [List.forM_eq_forM]
  induction items with
  | nil => simp [not_firstWith_nil, pure, Except.pure]
  | cons b rest ih =>
    simp only [List.forM_cons, bind_eq_error_iff, ih, firstWith_cons_iff]
    cases hb : f b with
    | error e' =>
      simp only [reduceCtorEq, exists_false, not_false_eq_true, true_and, not_true_eq_false,
        false_and, or_false, exists_eq_left, hb]
    | ok u => simp

/-! ## Which errors a step gives -/

/-- Every error of a step has a property. -/
def FailsOnly (P : ε → Prop) (x : Except ε α) : Prop := ∀ e, x = .error e → P e

namespace FailsOnly

variable {P : ε → Prop} {x : Except ε α}

theorem ok (a : α) : FailsOnly P (.ok a : Except ε α) := by
  rintro _ ⟨⟩

theorem error {e : ε} (h : P e) : FailsOnly P (.error e : Except ε α) := by
  rintro _ ⟨⟩
  exact h

theorem mono {Q : ε → Prop} (hx : FailsOnly P x) (h : ∀ e, P e → Q e) : FailsOnly Q x :=
  fun e he => h e (hx e he)

theorem mapError {δ : Type} {y : Except δ α} {f : δ → ε} (h : ∀ fault, P (f fault)) :
    FailsOnly P (y.mapError f) := by
  cases y with
  | ok a => exact ok a
  | error fault => exact error (h fault)

theorem map (hx : FailsOnly P x) (f : α → β) : FailsOnly P (x.map f) := by
  cases x with
  | error e => exact .error (hx e rfl)
  | ok a => exact .ok (f a)

theorem bind {f : α → Except ε β} (hx : FailsOnly P x) (hf : ∀ a, FailsOnly P (f a)) :
    FailsOnly P (x >>= f) := by
  intro e he
  rcases bind_eq_error_iff.mp he with h | ⟨a, _, h⟩
  · exact hx e h
  · exact hf a e h

/-- Nothing follows a step that throws. -/
theorem throw_bind {e : ε} (h : P e) (f : β → Except ε α) : FailsOnly P (throw e >>= f) :=
  error h

theorem mapM {f : α → Except ε β} (hf : ∀ a, FailsOnly P (f a)) (items : List α) :
    FailsOnly P (items.mapM f) := by
  intro e he
  obtain ⟨a, _, ha⟩ := exists_error_of_mapM he
  exact hf a e ha

theorem foldlM {f : β → α → Except ε β} (hf : ∀ b a, FailsOnly P (f b a)) (b : β)
    (items : List α) : FailsOnly P (items.foldlM f b) := by
  induction items generalizing b with
  | nil => exact ok b
  | cons a rest ih =>
    rw [List.foldlM_cons]
    exact (hf b a).bind fun b => ih b

theorem forM {f : α → Except ε Unit} (hf : ∀ a, FailsOnly P (f a)) (items : List α) :
    FailsOnly P (items.forM f) := by
  rw [List.forM_eq_forM]
  induction items with
  | nil => exact ok ()
  | cons a rest ih =>
    rw [List.forM_cons]
    exact (hf a).bind fun _ => ih

end FailsOnly

end FacetSearch
