import FacetSearch.Document.Pick
import FacetSearch.Document.Validity
import FacetSearch.Proofs.Ordered
/-!
# Selecting from a tree

A tree fits a type when its objects have the fields that their types declare, with values of the
types of these fields. Main statements: asked for all fields down to the leaves, a tree that fits
its type is shown as a whole; and what a valid document asks for is always found in it.
-/

namespace FacetSearch.Schema

open Document (Pick typenameField select cut cutItems answers)

/-! ## Trees that fit a type -/

/-- Values of a scalar, null apart. -/
inductive ScalarShows : String → Json → Prop
  | int (n : Int) : ScalarShows "Int" (.int n)
  | float (x : Float) : ScalarShows "Float" (.float x)
  | string (text : String) : ScalarShows "String" (.str text)
  | id (text : String) : ScalarShows "ID" (.str text)
  | boolean (b : Bool) : ScalarShows "Boolean" (.bool b)
  | any (value : Json) : ScalarShows "JSON" value

mutual

/-- A tree fits a type, with objects nested as deep as a bound at most. -/
inductive Conforms (s : Composed) : Nat → TypeRef → Node → Prop
  | null {depth : Nat} {type : TypeRef} (h : type.isNonNull = false) :
    Conforms s depth type (.leaf .null)
  | scalar {depth : Nat} {name : String} {value : Json} (hname : s.isScalar name = true)
    (h : ScalarShows name value) : Conforms s depth (.named name) (.leaf value)
  | object {depth : Nat} {name : String} {fields : List Field} {members : List (String × Node)}
    (hname : s.objectFields? name = some fields) (h : MembersConform s depth fields members) :
    Conforms s (depth + 1) (.named name) (.object name members)
  | list {depth : Nat} {element : TypeRef} {items : List Node}
    (h : ∀ item ∈ items, Conforms s depth element item) :
    Conforms s depth (.list element) (.list items)
  | nonNull {depth : Nat} {type : TypeRef} {node : Node} (h : Conforms s depth type node)
    (hne : node ≠ .leaf .null) : Conforms s depth (.nonNull type) node

/-- An object holds the declared fields in order and nothing else. -/
inductive MembersConform (s : Composed) : Nat → List Field → List (String × Node) → Prop
  | nil {depth : Nat} : MembersConform s depth [] []
  | cons {depth : Nat} {f : Field} {fields : List Field} {node : Node}
    {members : List (String × Node)} (h : Conforms s depth f.type node)
    (hrest : MembersConform s depth fields members) :
    MembersConform s depth (f :: fields) ((f.name, node) :: members)

end

mutual

/-- All that a tree holds, with the types of its objects. -/
def Node.json : Node → Json
  | .leaf value => value
  | .list items => .arr (jsonItems items)
  | .object type fields => .obj ((typenameField, .str type) :: jsonMembers fields)

def jsonItems : List Node → List Json
  | [] => []
  | item :: rest => item.json :: jsonItems rest

def jsonMembers : List (String × Node) → List (String × Json)
  | [] => []
  | (name, node) :: rest => (name, node.json) :: jsonMembers rest

end

/-- All fields of a type, and of the types that they have, to some depth. -/
def Composed.everything (s : Composed) : Nat → String → List Pick
  | 0, _ => []
  | depth + 1, type => match s.objectFields? type with
    | none => []
    | some fields => ⟨typenameField, typenameField, [], []⟩ ::
        fields.map fun f => ⟨f.name, f.name, [], s.everything depth f.type.base⟩

/-- No type has two fields of one name, nor one with the name under which its own is found. -/
def Composed.FieldsDistinct (s : Composed) : Prop := ∀ name fields,
  s.objectFields? name = some fields → (typenameField :: fields.map Field.name).Nodup

/-! ## Selecting everything -/

variable {s : Composed} {depth : Nat} {fields : List Field} {members : List (String × Node)}
  {name : String}

theorem jsonItems_eq_map (items : List Node) : jsonItems items = items.map Node.json := by
  induction items with
  | nil => rfl
  | cons item rest ih => rw [jsonItems, ih, List.map_cons]

theorem jsonMembers_eq_map (members : List (String × Node)) :
    jsonMembers members = members.map fun (name, node) => (name, node.json) := by
  induction members with
  | nil => rfl
  | cons member rest ih => rw [jsonMembers, ih, List.map_cons]

/-- Members with keys of their own are only put together. -/
theorem mergeMembers_of_nodup {known members : List (String × Json)}
    (h : ((known ++ members).map Prod.fst).Nodup) :
    Json.mergeMembers known members = known ++ members := by
  induction members generalizing known with
  | nil => rw [Json.mergeMembers, List.append_nil]
  | cons member rest ih =>
    obtain ⟨key, value⟩ := member
    rw [List.map_append, List.nodup_append] at h
    have hfresh : known.lookup key = none := by
      rw [List.lookup_eq_none_iff]
      intro entry hentry
      have hne := h.2.2 entry.1 (List.mem_map_of_mem hentry) key List.mem_cons_self
      simpa using Ne.symm hne
    rw [Json.mergeMembers, hfresh]
    dsimp only
    rw [ih (by simpa [List.nodup_append] using h), List.append_assoc]
    rfl

/-- Asked for everything, the field shows the member, which is its own. -/
structure ShowsMember (s : Composed) (depth : Nat) (f : Field) (member : String × Node) : Prop where
  key : member.1 = f.name
  shown : select (s.everything depth f.type.base) member.2 = some member.2.json

theorem keys_eq_of_showsMember (h : List.Forall₂ (ShowsMember s depth) fields members) :
    members.map Prod.fst = fields.map Field.name := by
  induction h with
  | nil => rfl
  | cons hm _ ih => rw [List.map_cons, List.map_cons, hm.key, ih]

/-- Fields that stand for some of the members of an object show these members. -/
theorem answers_of_showsMember (hn : (typenameField :: members.map Prod.fst).Nodup)
    {fields : List Field} {shown : List (String × Node)}
    (h : List.Forall₂ (ShowsMember s depth) fields shown) (hsub : shown ⊆ members) :
    answers name members
      (fields.map fun f => ⟨f.name, f.name, [], s.everything depth f.type.base⟩) =
        some (jsonMembers shown) := by
  obtain ⟨htypename, hkeys⟩ := List.nodup_cons.mp hn
  induction h with
  | nil => rw [List.map_nil, answers, jsonMembers]
  | @cons f member fields rest hm _ ih =>
    obtain ⟨key, node⟩ := member
    obtain ⟨rfl, hnode⟩ := hm
    obtain ⟨hmem, hrest⟩ := List.cons_subset.mp hsub
    have hne : f.name ≠ typenameField := by
      rintro heq
      exact htypename (heq ▸ List.mem_map_of_mem hmem)
    have hfound : members.lookup f.name = some node := (lookup_eq_some_iff_mem hkeys).mpr hmem
    have hanswer : Pick.answer name members
        ⟨f.name, f.name, [], s.everything depth f.type.base⟩ = some node.json := by
      rw [Pick.answer, if_neg hne, hfound]
      exact hnode
    rw [List.map_cons, answers, hanswer, ih hrest]
    rfl

/-- An object whose members are shown is shown as a whole. -/
theorem select_object (hname : s.objectFields? name = some fields)
    (hn : (typenameField :: fields.map Field.name).Nodup)
    (h : List.Forall₂ (ShowsMember s depth) fields members) :
    select (s.everything (depth + 1) name) (.object name members) =
      some (Node.object name members).json := by
  have hkeys : (typenameField :: members.map Prod.fst).Nodup := keys_eq_of_showsMember h ▸ hn
  have hshown : answers name members
      (fields.map fun f => ⟨f.name, f.name, [], s.everything depth f.type.base⟩) =
        some (jsonMembers members) := answers_of_showsMember hkeys h (List.Subset.refl _)
  have hmerged : Json.mergeMembers [] ((typenameField, .str name) :: jsonMembers members) =
      (typenameField, .str name) :: jsonMembers members := by
    refine mergeMembers_of_nodup ?_
    rw [jsonMembers_eq_map, List.nil_append, List.map_cons, List.map_map]
    exact hkeys
  have htype : Pick.answer name members ⟨typenameField, typenameField, [], []⟩ =
    some (.str name) := by rw [Pick.answer, if_pos rfl]
  rw [select, cut, Composed.everything, hname, answers, htype, hshown, Node.json, ← hmerged]
  rfl

theorem select_list {picks : List Pick} {items : List Node}
    (h : ∀ item ∈ items, select picks item = some item.json) :
    select picks (.list items) = some (Node.list items).json := by
  have hitems : cutItems (fun type fields => answers type fields picks) items =
      some (jsonItems items) := by
    induction items with
    | nil => rw [cutItems, jsonItems]
    | cons item rest ih =>
      obtain ⟨hitem, hrest⟩ := List.forall_mem_cons.mp h
      rw [select] at hitem
      rw [cutItems, hitem, ih hrest]
      rfl
  rw [select, cut, hitems, Node.json]
  rfl

mutual

/-- Asked for everything, a tree that fits its type is shown as a whole. -/
theorem Conforms.select_everything (hd : s.FieldsDistinct) {depth : Nat} {type : TypeRef}
    {node : Node} : Conforms s depth type node →
      select (s.everything depth type.base) node = some node.json
  | .null _ => by rw [select, cut, Node.json]
  | .scalar _ _ => by rw [select, cut, Node.json]
  | .object hname h => select_object hname (hd _ _ hname) (h.select_everything hd)
  | .list h => select_list fun item hitem => (h item hitem).select_everything hd
  | .nonNull h _ => h.select_everything hd

theorem MembersConform.select_everything (hd : s.FieldsDistinct) {depth : Nat}
    {fields : List Field} {members : List (String × Node)} : MembersConform s depth fields members →
      List.Forall₂ (ShowsMember s depth) fields members
  | .nil => .nil
  | .cons h hrest => .cons ⟨rfl, h.select_everything hd⟩ (hrest.select_everything hd)

end

/-! ## Selecting what a type has -/

mutual

/-- A pick of a field that the type has, and so on below it, or of the name of the type. -/
def PickFits (s : Composed) : Pick → String → Prop
  | ⟨_, name, _, picks⟩, type => name = typenameField ∨
      ∃ f, s.field? type name = some f ∧ PicksFit s picks f.type.base

def PicksFit (s : Composed) : List Pick → String → Prop
  | [], _ => True
  | pick :: rest, type => PickFits s pick type ∧ PicksFit s rest type

end

/-- Fields that an object has are found in it, with values that fit. -/
theorem MembersConform.exists_lookup {f : Field} {fields : List Field}
    {members : List (String × Node)} : MembersConform s depth fields members → f ∈ fields →
      (fields.map Field.name).Nodup →
        ∃ node, members.lookup f.name = some node ∧ Conforms s depth f.type node
  | .cons (f := first) h hrest, hf, hn => by
    obtain ⟨hnew, hn⟩ := List.nodup_cons.mp hn
    rcases List.mem_cons.mp hf with rfl | hf
    · exact ⟨_, List.lookup_cons_self, h⟩
    · have hne : (f.name == first.name) = false :=
        beq_eq_false_iff_ne.mpr fun heq => hnew (heq ▸ List.mem_map_of_mem hf)
      obtain ⟨node, hnode, hfits⟩ := hrest.exists_lookup hf hn
      refine ⟨node, ?_, hfits⟩
      rw [List.lookup_cons, hne]
      exact hnode

theorem exists_cutItems {picks : List Pick} {items : List Node}
    (h : ∀ item ∈ items, ∃ value, select picks item = some value) :
    ∃ values, cutItems (fun type fields => answers type fields picks) items = some values := by
  induction items with
  | nil => exact ⟨[], by rw [cutItems]⟩
  | cons item rest ih =>
    obtain ⟨hitem, hrest⟩ := List.forall_mem_cons.mp h
    obtain ⟨value, hvalue⟩ := hitem
    obtain ⟨values, hvalues⟩ := ih hrest
    rw [select] at hvalue
    exact ⟨value :: values, by rw [cutItems, hvalue, hvalues]; rfl⟩

/-- Picks that every object of the type answers are answered by every tree of the type. -/
theorem Conforms.exists_select {picks : List Pick} {depth : Nat} {type : TypeRef} {node : Node} :
    Conforms s depth type node → (∀ depth fields members, s.objectFields? type.base = some fields →
      MembersConform s depth fields members →
        ∃ shown, answers type.base members picks = some shown) →
    ∃ value, select picks node = some value
  | .null _, _ => ⟨_, by rw [select, cut]⟩
  | .scalar _ _, _ => ⟨_, by rw [select, cut]⟩
  | .object hname h, hp => by
    obtain ⟨shown, hshown⟩ := hp _ _ _ hname h
    exact ⟨_, by rw [select, cut]; exact congrArg _ hshown⟩
  | .list h, hp => by
    obtain ⟨values, hvalues⟩ := exists_cutItems fun item hitem => (h item hitem).exists_select hp
    exact ⟨.arr values, by rw [select, cut, hvalues]; rfl⟩
  | .nonNull h _, hp => h.exists_select hp

mutual

theorem exists_answer (hd : s.FieldsDistinct) {type : String} {depth : Nat} {fields : List Field}
    {members : List (String × Node)} (hname : s.objectFields? type = some fields)
    (h : MembersConform s depth fields members) :
    ∀ pick, PickFits s pick type → ∃ value, Pick.answer type members pick = some value
  | ⟨key, name, arguments, picks⟩, hpick => by
    rw [PickFits] at hpick
    rw [Pick.answer]
    split
    · exact ⟨_, rfl⟩
    · next hne =>
      obtain ⟨f, hf, hpicks⟩ := hpick.resolve_left hne
      rw [Composed.field?, hname, Option.bind_some] at hf
      obtain rfl : f.name = name := by simpa using List.find?_some hf
      obtain ⟨node, hnode, hfits⟩ := h.exists_lookup (List.mem_of_find?_eq_some hf)
        (List.nodup_cons.mp (hd _ _ hname)).2
      rw [hnode]
      exact hfits.exists_select fun _ _ _ hname' h' => exists_answers hd hname' h' picks hpicks

theorem exists_answers (hd : s.FieldsDistinct) {type : String} {depth : Nat} {fields : List Field}
    {members : List (String × Node)} (hname : s.objectFields? type = some fields)
    (h : MembersConform s depth fields members) :
    ∀ picks, PicksFit s picks type → ∃ shown, answers type members picks = some shown
  | [], _ => ⟨[], by rw [answers]⟩
  | pick :: rest, hpicks => by
    rw [PicksFit] at hpicks
    obtain ⟨value, hvalue⟩ := exists_answer hd hname h pick hpicks.1
    obtain ⟨shown, hshown⟩ := exists_answers hd hname h rest hpicks.2
    exact ⟨(pick.key, value) :: shown, by rw [answers, hvalue, hshown]; rfl⟩

end

theorem picksFit_append {picks picks' : List Pick} {type : String} :
    PicksFit s (picks ++ picks') type ↔ PicksFit s picks type ∧ PicksFit s picks' type := by
  induction picks with
  | nil => simp [PicksFit]
  | cons pick rest ih => rw [List.cons_append, PicksFit, PicksFit, ih, and_assoc]

theorem PicksFit.mem {picks : List Pick} {pick : Pick} {type : String}
    (h : PicksFit s picks type) (hm : pick ∈ picks) : PickFits s pick type := by
  induction picks with
  | nil => cases hm
  | cons first rest ih =>
    rw [PicksFit] at h
    rcases List.mem_cons.mp hm with rfl | hm
    · exact h.1
    · exact ih h.2 hm

end FacetSearch.Schema

/-! ## Valid documents -/

namespace FacetSearch.Document

open Schema (PickFits PicksFit picksFit_append)

variable {c : Check} {provided : List (String × Value)}

mutual

/-- A fragment stands where its type does, so what it selects is selected of that type. -/
theorem picksFit_of_selection (hf : ∀ f ∈ c.document.fragments, c.fragment f = true) (depth : Nat)
    (parent : String) (selection : Selection) (h : c.selection parent selection = true) :
    PicksFit c.schema (selection.picks c.document provided depth) parent := by
  match selection with
  | .field key name arguments directives selections =>
    rw [Selection.picks]
    split
    · refine ⟨?_, trivial⟩
      rw [PickFits]
      rw [Check.selection, Bool.or_eq_true, decide_eq_true_eq] at h
      refine h.imp_right fun h => ?_
      cases hfield : c.schema.field? parent name with
      | none => simp [hfield] at h
      | some f =>
        simp only [hfield, Bool.and_eq_true] at h
        refine ⟨f, rfl, ?_⟩
        obtain ⟨_, h⟩ := h
        split at h
        · simp only [Bool.and_eq_true] at h
          exact picksFit_of_allSelections hf depth f.type.base selections h.2
        · obtain rfl := List.isEmpty_iff.mp h
          rw [picksOf]
          trivial
    · trivial
  | .spread name directives =>
    match depth with
    | 0 =>
      rw [Selection.picks]
      · trivial
      · rintro _ _ _ _ _ ⟨⟩
    | depth + 1 =>
      rw [Selection.picks]
      split
      · next _ f hname _ =>
        simp only [Check.selection, hname, Bool.and_eq_true, Option.any_some,
          decide_eq_true_eq] at h
        obtain ⟨_, rfl⟩ := h
        have hvalid := hf f (List.mem_of_find?_eq_some hname)
        simp only [Check.fragment, Bool.and_eq_true] at hvalid
        exact picksFit_of_allSelections hf depth f.condition f.selections hvalid.2
      · trivial
  | .inline condition directives selections =>
    match depth with
    | 0 =>
      rw [Selection.picks]
      · trivial
      · rintro _ _ _ _ _ ⟨⟩
    | depth + 1 =>
      rw [Selection.picks]
      split
      · simp only [Check.selection, Bool.and_eq_true] at h
        exact picksFit_of_allSelections hf depth parent selections h.2
      · trivial
  termination_by (depth, sizeOf selection)

theorem picksFit_of_allSelections (hf : ∀ f ∈ c.document.fragments, c.fragment f = true)
    (depth : Nat) (parent : String) (selections : List Selection)
    (h : c.allSelections parent selections = true) :
    PicksFit c.schema (picksOf c.document provided depth selections) parent := by
  match selections with
  | [] =>
    rw [picksOf, PicksFit]
    trivial
  | selection :: rest =>
    rw [Check.allSelections, Bool.and_eq_true] at h
    rw [picksOf, picksFit_append]
    exact ⟨picksFit_of_selection hf depth parent selection h.1,
      picksFit_of_allSelections hf depth parent rest h.2⟩
  termination_by (depth, sizeOf selections)

end

/-- All that a valid document asks for is there to be answered. -/
theorem picksFit_of_valid (hv : c.valid = true) {o : Operation} (ho : o ∈ c.document.operations) :
    PicksFit c.schema (o.picks c.document provided) Schema.queryType := by
  simp only [Check.valid, Bool.and_eq_true, List.all_eq_true] at hv
  obtain ⟨⟨hoperations, hfragments⟩, _⟩ := hv
  have hoperation := hoperations o ho
  simp only [Check.operation, Bool.and_eq_true] at hoperation
  exact picksFit_of_allSelections hfragments _ _ _ hoperation.2

end FacetSearch.Document
