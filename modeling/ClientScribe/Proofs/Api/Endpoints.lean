import ClientScribe.Api.Operation
import ClientScribe.Proofs.Document.Field
import Mathlib.Data.List.Nodup

/-!
# Endpoints

An endpoint is a method that an item of the paths has under its name. The other keys of an item,
such as the parameters for all its methods, are none. `endpoints` lists them path by path and within
a path in the order of the methods; `forall₂_endpoints` says that the operations of a description
are these endpoints, one by one. What an operation is read from is taken apart once and for all
(`exists_isReadFrom_of_operation`).
-/

namespace ClientScribe.Api

open Document (Value Entries)

variable {document path pathItem : Value} {entries : Entries} {method : Text}
  {op : Operation} {ops : List Operation}

/-- A path with its item and a method. -/
structure Endpoint where
  path : Value
  pathItem : Value
  method : Text

/-- The endpoints of a path. -/
def endpointsOfPath (path pathItem : Value) : List Endpoint :=
  (methods.filter fun method => (pathItem.get? method).isSome).map (Endpoint.mk path pathItem)

/-- The endpoints of paths. -/
def endpoints (entries : Entries) : List Endpoint :=
  entries.flatMap fun entry => endpointsOfPath entry.1 entry.2

/-- The operation that an endpoint is read as: it has the endpoint's path and method. -/
structure Endpoint.IsReadAs (document : Value) (e : Endpoint) (op : Operation) : Prop where
  read : operation document e.pathItem e.path e.method = .ok op
  path_eq : op.path = e.path
  method_eq : op.method = e.method

/-- The endpoints are the methods that the items of the paths have. -/
theorem mem_endpoints_iff {e : Endpoint} :
    e ∈ endpoints entries ↔ (e.path, e.pathItem) ∈ entries ∧ e.method ∈ methods ∧
      (e.pathItem.get? e.method).isSome = true := by
  obtain ⟨path, pathItem, method⟩ := e
  simp only [endpoints, endpointsOfPath, List.mem_flatMap, List.mem_map, List.mem_filter,
    Endpoint.mk.injEq]
  constructor
  · rintro ⟨⟨_, _⟩, hentry, _, hmethod, rfl, rfl, rfl⟩
    exact ⟨hentry, hmethod⟩
  · rintro ⟨hentry, hmethod⟩
    exact ⟨(path, pathItem), hentry, method, hmethod, rfl, rfl, rfl⟩

/-- If no path stands twice, no path has a method twice. -/
theorem nodup_endpoints (h : (entries.map Prod.fst).Nodup) :
    ((endpoints entries).map fun e => (e.path, e.method)).Nodup := by
  rw [endpoints, List.map_flatMap, List.nodup_flatMap]
  constructor
  · rintro ⟨path, pathItem⟩ -
    have hmethods : methods.Nodup := by decide
    rw [endpointsOfPath, List.map_map]
    exact (hmethods.filter _).map fun method other heq => (Prod.mk.inj heq).2
  · refine (List.pairwise_map.mp h).imp fun {entry other} hne => ?_
    intro key hkey hother
    simp only [endpointsOfPath, List.map_map, List.mem_map, Function.comp_apply] at hkey hother
    obtain ⟨_, -, rfl⟩ := hkey
    obtain ⟨_, -, heq⟩ := hother
    exact hne (Prod.mk.inj heq).1.symm

/-- What an operation but for its id is read from: the item of its path, and the fields that the
item has under the method. -/
structure Operation.IsReadFrom (document pathItem fields path : Value) (method : Text)
    (op : Operation) : Prop where
  found : pathItem.demand method = .ok fields
  path_eq : op.path = path
  method_eq : op.method = method
  tags : (fields.field "tags").map (·.orElse (.list [])) = .ok op.tags
  group : Identifier.groupName op.tags = .ok op.group
  summary : fields.fieldOr "summary" (.str []) = .ok op.summary
  description : fields.fieldOr "description" (.str []) = .ok op.description
  parameters : (do
      mergeParameters (← pathItem.fieldOr "parameters" (.list []))
        (← fields.fieldOr "parameters" (.list []))) = .ok op.parameters
  requestBody : fields.field "requestBody" = .ok op.requestBody
  responses : (do
      (← ((← fields.field "responses").orElse (.map [])).entries).mapM
        fun (code, response) => withCode code response) = .ok op.responses
  security : Api.security document fields = .ok op.security

/-- **An operation taken apart.** -/
theorem exists_isReadFrom_of_operation (h : operation document pathItem path method = .ok op) :
    ∃ fields, op.IsReadFrom document pathItem fields path method := by
  simp only [operation, Result.bind_eq_ok_iff, Result.pure_def] at h
  obtain ⟨fields, hfields, responses, hresponses, entries, hentries, read, hread, tags, htags,
    given, -, h⟩ := h
  -- The id is the given one or made of the path and the method.
  split at h
  all_goals
    simp only [Result.bind_eq_ok_iff, Except.ok.injEq] at h
    obtain ⟨_, -, group, hgroup, summary, hsummary, description, hdescription, ofPath, hofPath,
      ofOperation, hofOperation, parameters, hparameters, requestBody, hrequestBody, security,
      hsecurity, rfl⟩ := h
    refine ⟨fields, {
      found := hfields
      path_eq := rfl
      method_eq := rfl
      tags := Result.map_eq_ok_iff.mpr ⟨tags, htags, rfl⟩
      group := hgroup
      summary := hsummary
      description := hdescription
      parameters := by simp [hofPath, hofOperation, hparameters]
      requestBody := hrequestBody
      responses := by simp [hresponses, hentries, hread]
      security := hsecurity }⟩

/-- An operation has the path and the method that it is read at. -/
theorem isReadAs_of_operation (h : operation document pathItem path method = .ok op) :
    Endpoint.IsReadAs document ⟨path, pathItem, method⟩ op := by
  obtain ⟨fields, hread⟩ := exists_isReadFrom_of_operation h
  exact ⟨h, hread.path_eq, hread.method_eq⟩

/-- Operations have the paths and the methods of what they are read from. -/
theorem map_path_method_of_isReadAs {es : List Endpoint}
    (h : List.Forall₂ (Endpoint.IsReadAs document) es ops) :
    (ops.map fun op => (op.path, op.method)) = es.map fun e => (e.path, e.method) := by
  induction h with
  | nil => rfl
  | cons hop _ ih => rw [List.map_cons, List.map_cons, ih, hop.path_eq, hop.method_eq]

/-- The operations of a path are its endpoints. -/
theorem forall₂_endpointsOfPath (h : operationsOfPath document path pathItem = .ok ops) :
    List.Forall₂ (Endpoint.IsReadAs document) (endpointsOfPath path pathItem) ops := by
  simp only [operationsOfPath, Result.bind_eq_ok_iff] at h
  obtain ⟨_, hparameters, present, hpresent, hops⟩ := h
  -- Asking for the parameters ends the run where the item is no mapping.
  obtain ⟨⟨es, hview⟩, -⟩ := Value.fieldOr_eq_ok_iff.mp hparameters
  rw [Result.filterM_eq_ok fun method _ => Value.has_of_view hview, Except.ok.injEq] at hpresent
  subst hpresent
  rw [endpointsOfPath, List.forall₂_map_left_iff]
  exact (Result.mapM_eq_ok_iff.mp hops).imp fun _ _ => isReadAs_of_operation

/-- **The operations of a description are its endpoints**, one by one and in order. -/
theorem forall₂_endpoints (h : findOperations document = .ok ops) :
    ∃ entries, (paths document >>= Value.entries) = .ok entries ∧
      List.Forall₂ (Endpoint.IsReadAs document) (endpoints entries) ops := by
  simp only [findOperations, Result.bind_eq_ok_iff, Result.pure_def, Except.ok.injEq] at h
  obtain ⟨pathsValue, hpaths, entries, hentries, found, hfound, rfl⟩ := h
  refine ⟨entries, Result.bind_eq_ok_iff.mpr ⟨pathsValue, hpaths, hentries⟩, ?_⟩
  rw [endpoints, List.flatMap_def]
  refine List.rel_flatten (List.forall₂_map_left_iff.mpr ?_)
  exact (Result.mapM_eq_ok_iff.mp hfound).imp fun _ _ => forall₂_endpointsOfPath

/-- The group of an operation is made of its tags. -/
theorem groupName_of_mem (h : findOperations document = .ok ops) {op : Operation}
    (hop : op ∈ ops) : Identifier.groupName op.tags = .ok op.group := by
  obtain ⟨entries, -, hreads⟩ := forall₂_endpoints h
  obtain ⟨i, hi, rfl⟩ := List.getElem_of_mem hop
  obtain ⟨fields, hread⟩ :=
    exists_isReadFrom_of_operation (hreads.get (hreads.length_eq ▸ hi) hi).read
  exact hread.group

end ClientScribe.Api
