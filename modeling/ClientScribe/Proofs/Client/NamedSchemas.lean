import ClientScribe.Proofs.Client.Registry

/-!
# What Becomes of the Named Schemas

The registry of definitions starts with the schemas that a description keeps under a name. The
elements of an inline array are never put in the place of one of them, as an array asks whether the
name is taken. An inline object does not ask: `lookup_of_definitions` says that behind all
operations a name stands for the last inline object that is declared under it, and for its own
schema if there is none. `exists_replaced` is a description whose schema is replaced.
-/

namespace ClientScribe.Client

open Api (Operation)
open Document (Value Entries lookup put record)
open Schema (isInlineObject nameOf)

variable {document : Value} {ops : List Operation} {c : Body} {cs : List Body}
  {acc defs defs' : Entries} {name : Text}

/-! ### One body -/

/-- The inline object that is put under a name last, if there is one. -/
def replacement? (cs : List Body) (name : Text) : Option Value :=
  ((cs.filter fun c => isInlineObject c.schema && c.name == name).getLast?).map Body.schema

/-- Without bodies nothing is put under a name. -/
@[simp] theorem replacement?_nil (name : Text) : replacement? [] name = none := rfl

/-- An inline object is the last one under its name if no later one has it. -/
theorem replacement?_cons (c : Body) (cs : List Body) (name : Text) :
    replacement? (c :: cs) name =
      if isInlineObject c.schema = true ∧ c.name = name
      then some ((replacement? cs name).getD c.schema) else replacement? cs name := by
  by_cases hput : isInlineObject c.schema = true ∧ c.name = name
  · simp only [replacement?, List.filter_cons, hput, beq_self_eq_true, Bool.and_self, if_true,
      and_self, List.getLast?_cons]
    cases (cs.filter fun c => isInlineObject c.schema && c.name == name).getLast? <;> rfl
  · simp [replacement?, hput]

/-- Without an inline object under a name nothing is put there. -/
theorem replacement?_eq_none
    (h : ∀ c ∈ cs, isInlineObject c.schema = true → c.name ≠ name) :
    replacement? cs name = none := by
  have hfilter : cs.filter (fun c => isInlineObject c.schema && c.name == name) = [] :=
    List.filter_eq_nil_iff.mpr fun c hc hput => by
      rw [Bool.and_eq_true, beq_iff_eq] at hput
      exact h c hc hput.1 hput.2
  simp [replacement?, hfilter]

/-- **What one body does to a name that is taken**: an inline object under this name is put in its
place, and any other body leaves it. -/
theorem lookup_of_result_addBody {component : Value} (hname : lookup name defs = some component)
    (h : (addBody defs c.schema c.name).result = .ok defs') :
    lookup name defs' =
      some (if isInlineObject c.schema = true ∧ c.name = name then c.schema else component) := by
  obtain ⟨hnone, rfl⟩ | ⟨hobject, rfl⟩ | ⟨items, own, helements, -, hcases⟩ :=
    result_addBody_cases h
  · have hobject : ¬isInlineObject c.schema = true := fun hobject => by
      rw [ownDefinition?_of_isInlineObject hobject] at hnone
      cases hnone
    rw [if_neg fun hput => hobject hput.1, hname]
  · by_cases heq : c.name = name
    · subst heq
      rw [if_pos ⟨hobject, rfl⟩, Document.lookup_put_self]
    · rw [if_neg fun hput => heq hput.2, Document.lookup_put_of_ne (Ne.symm heq), hname]
  · have hobject : isInlineObject c.schema = false :=
      isInlineObject_eq_false_of_array (inlineElements?_eq_some_iff.mp helements).2.1
    rw [if_neg fun hput => by simp [hobject] at hput]
    obtain ⟨-, rfl⟩ | ⟨hfree, rfl⟩ := hcases
    · exact hname
    · have hne : name ≠ own := fun heq => by simp [heq, hfree] at hname
      rw [Document.lookup_put_of_ne hne, hname]

/-- An entry stays unless an inline object is declared under its key. -/
theorem mem_of_result_addBody {entry : Value × Value} (hentry : entry ∈ defs)
    (hkey : isInlineObject c.schema = true → entry.1 ≠ .str c.name)
    (h : (addBody defs c.schema c.name).result = .ok defs') : entry ∈ defs' := by
  obtain ⟨-, rfl⟩ | ⟨hobject, rfl⟩ | ⟨items, own, -, -, ⟨-, rfl⟩ | ⟨hfree, rfl⟩⟩ :=
    result_addBody_cases h
  · exact hentry
  · exact Document.mem_put_of_ne hentry (hkey hobject)
  · exact hentry
  · exact Document.mem_put_of_ne hentry (Document.lookup_eq_none_iff.mp hfree entry hentry)

/-! ### All bodies -/

/-- A run over operations is a run over their bodies. -/
theorem exists_foldlM_addBody
    (h : ops.foldlM (fun acc op => (addBodies document acc op).result) acc = .ok defs) :
    ∃ all, ops.mapM (bodies document) = .ok all ∧
      (all.flatMap Bodies.toList).foldlM
        (fun acc c => (addBody acc c.schema c.name).result) acc = .ok defs := by
  induction ops generalizing acc with
  | nil => exact ⟨[], rfl, h⟩
  | cons op ops ih =>
      simp only [List.foldlM_cons, Result.bind_eq_ok_iff] at h
      obtain ⟨next, hnext, h⟩ := h
      obtain ⟨b, between, hb, hrequest, hresponse⟩ := exists_bodies_of_result_addBodies hnext
      obtain ⟨all, hall, hfold⟩ := ih h
      refine ⟨b :: all, by simp [hb, hall], ?_⟩
      simp [Bodies.toList, hrequest, hresponse, hfold]

/-- Behind a run over bodies a name that was taken stands for the last inline object under it, and
for what it stood for before if there is none. -/
theorem lookup_of_foldlM_addBody {component : Value} (hname : lookup name acc = some component)
    (h : cs.foldlM (fun acc c => (addBody acc c.schema c.name).result) acc = .ok defs) :
    lookup name defs = some ((replacement? cs name).getD component) := by
  induction cs generalizing acc component with
  | nil =>
      obtain rfl := Except.ok.inj h
      exact hname
  | cons c cs ih =>
      simp only [List.foldlM_cons, Result.bind_eq_ok_iff] at h
      obtain ⟨next, hnext, h⟩ := h
      rw [ih (lookup_of_result_addBody hname hnext) h, replacement?_cons]
      split <;> rfl

/-- An entry stays behind a run over bodies if no inline object is declared under its key. -/
theorem mem_of_foldlM_addBody {entry : Value × Value} (hentry : entry ∈ acc)
    (hkey : ∀ c ∈ cs, isInlineObject c.schema = true → entry.1 ≠ .str c.name)
    (h : cs.foldlM (fun acc c => (addBody acc c.schema c.name).result) acc = .ok defs) :
    entry ∈ defs := by
  induction cs generalizing acc with
  | nil =>
      obtain rfl := Except.ok.inj h
      exact hentry
  | cons c cs ih =>
      simp only [List.foldlM_cons, Result.bind_eq_ok_iff] at h
      obtain ⟨next, hnext, h⟩ := h
      exact ih (mem_of_result_addBody hentry (hkey c List.mem_cons_self) hnext)
        (fun d hd => hkey d (List.mem_cons_of_mem _ hd)) h

/-- **What becomes of the named schemas.** Behind all operations

* the name of a schema stands for the last inline object that is declared under it, and for the
  schema if there is none;
* so a schema keeps its name if no inline object takes it, whatever arrays and other bodies there
  are, and its entry stays, also under a key that is no text. -/
theorem lookup_of_definitions (h : (definitions document ops).result = .ok defs) :
    ∃ named all, (Api.schemas document >>= Value.asEntries) = .ok named ∧
      ops.mapM (bodies document) = .ok all ∧
      (∀ name component, lookup name named = some component →
        lookup name defs =
          some ((replacement? (all.flatMap Bodies.toList) name).getD component)) ∧
      (∀ name component, lookup name named = some component →
        (∀ c ∈ all.flatMap Bodies.toList, isInlineObject c.schema = true → c.name ≠ name) →
        lookup name defs = some component) ∧
      ∀ entry ∈ named,
        (∀ c ∈ all.flatMap Bodies.toList, isInlineObject c.schema = true →
          entry.1 ≠ .str c.name) → entry ∈ defs := by
  obtain ⟨named, hnamed, hfold⟩ := result_definitions_eq_ok_iff.mp h
  obtain ⟨all, hall, hrun⟩ := exists_foldlM_addBody hfold
  refine ⟨named, all, hnamed, hall, fun name component hname =>
    lookup_of_foldlM_addBody hname hrun, fun name component hname hfree => ?_,
    fun entry hentry hkey => mem_of_foldlM_addBody hentry hkey hrun⟩
  rw [lookup_of_foldlM_addBody hname hrun, replacement?_eq_none hfree, Option.getD_none]

/-- The schema of a pet keeps its name beside the bodies of the operations on pets. -/
theorem lookup_of_definitions_petOperations : ∃ defs,
    (definitions petDocument petOperations).result = .ok defs ∧
      lookup "Pet" defs = some namedObject := by
  have hdefs : (definitions petDocument petOperations).result = .ok _ := rfl
  obtain ⟨named, all, hnamed, hall, -, hkeeps, -⟩ := lookup_of_definitions hdefs
  obtain rfl := Except.ok.inj hnamed
  obtain rfl := Except.ok.inj hall
  exact ⟨_, hdefs, hkeeps "Pet" namedObject rfl (by decide)⟩

/-- A description that keeps a text under the name that is declared for the request of its only
operation. -/
def takenDocument : Value :=
  record [
    ("paths", record [("/pets", record [("post", record [("operationId", .str "createPet"),
      ("requestBody", record [("content", jsonContent namedObject)])])])]),
    ("components", record [("schemas", record [
      ("createPet_request", record [("type", .str "string")])])])]

/-- **A schema that is replaced.** The inline object that the operation takes is put in the place of
the schema that the description keeps under its name. -/
theorem exists_replaced : ∃ ops named defs,
    Api.findOperations takenDocument = .ok ops ∧
      ops.map Operation.id = [.str "createPet"] ∧
      (Api.schemas takenDocument >>= Value.asEntries) = .ok named ∧
      (definitions takenDocument ops).result = .ok defs ∧
      lookup "createPet_request" named = some (record [("type", .str "string")]) ∧
      lookup "createPet_request" defs = some namedObject ∧
      namedObject ≠ record [("type", .str "string")] := by
  refine ⟨_, _, _, rfl, rfl, rfl, rfl, rfl, rfl, fun h => ?_⟩
  have hproperties := congrArg (fun v => (v.get? "properties").isSome) h
  exact absurd hproperties (by decide)

end ClientScribe.Client
