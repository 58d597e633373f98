import ClientScribe.Client.Signature
import ClientScribe.Proofs.Client.InlineBody
import Mathlib.Data.List.Nodup

/-!
# The Registry of Definitions

The registry starts with the schemas that a description keeps under a name and is passed from
operation to operation; each may add a definition for the body of its request and one for the body
of its best response. A definition for an object replaces what stands under its name, one for the
elements of an array does not, so what an operation adds depends on what is there already.

`result_addBody_cases` says all that one body can do to the registry. From it follow what one
operation does and, by induction over the operations, what all of them do:

* `lookup_name_isSome_of_foldlM_addBodies`: every inline body has a definition under its name;
* `definitions_eq_append_entries`: where names do not clash, the registry is exactly the schemas of
  the description, and behind them one definition for every inline body.
-/

namespace ClientScribe.Client

open Api (Operation)
open Document (Value Entries lookup put record)
open Schema (isInlineObject nameOf qualifiedName)

/-! ### One body -/

/-- A body with the name that is declared for it. -/
structure Body where
  schema : Value
  name : Text

/-- The entry that a body adds to a registry without its name. -/
def Body.entry? (c : Body) : Option (Value × Value) :=
  (ownDefinition? c.schema).map fun own => (.str c.name, own)

section Body

variable {schema items : Value} {name : Text} {defs defs' : Entries}

/-- What a schema with an array's type does to the registry: its elements are put under their name
unless they are not inline or the name is taken. -/
theorem result_addElements_cases (href : schema.get? "$ref" = none)
    (harray : ((schema.get? "type").getD .null).isText "array" = true)
    (h : (addElements defs schema name).result = .ok defs') :
    (ownDefinition? schema = none ∧ defs' = defs) ∨
    ∃ items own, inlineElements? schema = some items ∧ nameOf schema name true = .ok own ∧
      ((lookup own defs).isSome = true ∧ defs' = defs ∨
        lookup own defs = none ∧
          defs' = put (.str own) (elementsDefinition schema items) defs) := by
  have hobject : isInlineObject schema = false := isInlineObject_eq_false_of_array harray
  simp only [addElements, Logged.result_bind, Logged.result_liftM, Result.bind_eq_ok_iff] at h
  obtain ⟨_, hfield, isReference, hhas, h⟩ := h
  obtain ⟨-, rfl⟩ := Value.field_eq_ok_iff.mp hfield
  rw [isInlineObject_orElse] at h
  cases hinline : isInlineObject ((schema.get? "items").getD .null) with
  | false =>
      have hnone : ownDefinition? schema = none :=
        ownDefinition?_of_items hobject fun items hitems => by simpa [hitems] using hinline
      rw [hinline] at h
      split at h
      · simp only [Logged.result_bind, Logged.result_liftM, Logged.result_note,
          Logged.result_pure, Result.bind_eq_ok_iff, Except.ok.injEq] at h
        obtain ⟨-, -, -, -, rfl⟩ := h
        exact .inl ⟨hnone, rfl⟩
      · exact .inl ⟨hnone, (Except.ok.inj h).symm⟩
  | true =>
      obtain ⟨items, hitems⟩ : ∃ items, schema.get? "items" = some items := by
        cases hnone : schema.get? "items" with
        | none =>
            rw [hnone] at hinline
            cases hinline
        | some items => exact ⟨items, rfl⟩
      simp only [hitems, Option.getD_some] at hinline hhas h
      have helements : inlineElements? schema = some items :=
        inlineElements?_eq_some_iff.mpr ⟨href, harray, hitems, hinline⟩
      have hgiven : items.orElse (.map []) = items := by
        simp [Value.orElse, isTrue_of_isInlineObject hinline]
      obtain ⟨⟨fields, hfields⟩, hitemsRef, -⟩ := isInlineObject_iff.mp hinline
      obtain rfl : false = isReference := by
        simpa [hgiven, Value.has_of_view hfields, hitemsRef] using hhas
      simp only [Bool.false_eq_true, if_false, hinline, Bool.not_true, Logged.result_bind,
        Logged.result_liftM, Result.bind_eq_ok_iff] at h
      obtain ⟨own, hown, h⟩ := h
      refine .inr ⟨items, own, helements, hown, ?_⟩
      split at h
      · next htaken => exact .inl ⟨htaken, (Except.ok.inj h).symm⟩
      · next htaken =>
        rw [hgiven, flattened_of_inlineElements? helements] at h
        exact .inr ⟨by simpa using htaken, (Except.ok.inj h).symm⟩

/-- **What one body does to the registry.** A body that is not inline leaves it. An object is put
under the declared name. The elements of an array are put under their name unless it is taken. -/
theorem result_addBody_cases (h : (addBody defs schema name).result = .ok defs') :
    (ownDefinition? schema = none ∧ defs' = defs) ∨
    (isInlineObject schema = true ∧ defs' = put (.str name) schema defs) ∨
    ∃ items own, inlineElements? schema = some items ∧ nameOf schema name true = .ok own ∧
      ((lookup own defs).isSome = true ∧ defs' = defs ∨
        lookup own defs = none ∧
          defs' = put (.str own) (elementsDefinition schema items) defs) := by
  unfold addBody at h
  split at h
  · next hnull =>
    obtain rfl : schema = .null := by cases schema <;> simp_all [Value.isNull]
    exact .inl ⟨rfl, (Except.ok.inj h).symm⟩
  · simp only [Logged.result_bind, Logged.result_liftM, Result.bind_eq_ok_iff] at h
    obtain ⟨isReference, hhas, h⟩ := h
    cases isReference with
    | true =>
        simp only [if_true, Logged.result_bind, Logged.result_liftM, Logged.result_note,
          Logged.result_pure, Result.bind_eq_ok_iff, Except.ok.injEq] at h
        obtain ⟨target, htarget, -, -, rfl⟩ := h
        exact .inl ⟨ownDefinition?_of_reference (Value.demand_eq_ok_iff.mp htarget), rfl⟩
    | false =>
        simp only [Bool.false_eq_true, if_false, Logged.result_bind, Logged.result_liftM,
          Result.bind_eq_ok_iff] at h
        obtain ⟨type, htype, h⟩ := h
        obtain ⟨⟨es, hv⟩, rfl⟩ := Value.field_eq_ok_iff.mp htype
        have href : schema.get? "$ref" = none := by simpa [Value.has_of_view hv] using hhas
        split at h
        · next harray => exact (result_addElements_cases href harray h).imp_right .inr
        · next harray =>
          split at h
          · next hinline => exact .inr (.inl ⟨hinline, (Except.ok.inj h).symm⟩)
          · next hinline =>
            rw [Bool.not_eq_true] at harray hinline
            exact .inl ⟨ownDefinition?_of_type hinline harray, (Except.ok.inj h).symm⟩

/-- No body takes a definition out of the registry. -/
theorem lookup_isSome_of_result_addBody {key : Text}
    (h : (addBody defs schema name).result = .ok defs') (hkey : (lookup key defs).isSome = true) :
    (lookup key defs').isSome = true := by
  obtain ⟨-, rfl⟩ | ⟨-, rfl⟩ | ⟨items, own, -, -, ⟨-, rfl⟩ | ⟨-, rfl⟩⟩ := result_addBody_cases h
  · exact hkey
  · exact Document.lookup_put_isSome hkey
  · exact hkey
  · exact Document.lookup_put_isSome hkey

/-- Behind an inline body there is a definition under the declared name: its own, or one that had
the name before. -/
theorem lookup_name_isSome_of_result_addBody (hinline : (ownDefinition? schema).isSome = true)
    (hplain : IsUnwrapped schema) (h : (addBody defs schema name).result = .ok defs') :
    (lookup name defs').isSome = true := by
  obtain ⟨hnone, -⟩ | ⟨-, rfl⟩ | ⟨items, own, helements, hown, hcases⟩ := result_addBody_cases h
  · simp [hnone] at hinline
  · simp
  · rw [nameOf_of_inlineElements? helements hplain true] at hown
    obtain rfl : name = own := by simpa using hown
    obtain ⟨htaken, rfl⟩ | ⟨-, rfl⟩ := hcases
    · exact htaken
    · simp

/-- Where nothing has the declared name, an inline body appends its own definition and any other
body nothing. -/
theorem result_addBody_of_lookup_eq_none {c : Body} (hfresh : lookup c.name defs = none)
    (hplain : IsUnwrapped c.schema) (h : (addBody defs c.schema c.name).result = .ok defs') :
    defs' = defs ++ c.entry?.toList := by
  obtain ⟨hnone, rfl⟩ | ⟨hobject, rfl⟩ | ⟨items, own, helements, hown, hcases⟩ :=
    result_addBody_cases h
  · simp [Body.entry?, hnone]
  · simp [Body.entry?, ownDefinition?_of_isInlineObject hobject,
      Document.put_of_lookup_eq_none hfresh]
  · rw [nameOf_of_inlineElements? helements hplain true] at hown
    obtain rfl : c.name = own := by simpa using hown
    obtain ⟨htaken, -⟩ | ⟨-, rfl⟩ := hcases
    · simp [hfresh] at htaken
    · simp [Body.entry?, ownDefinition?_of_inlineElements? helements,
        Document.put_of_lookup_eq_none hfresh]

/-- The entry of a body has no other name than the declared one. -/
theorem lookup_entry_eq_none {c : Body} {key : Text} (h : key ≠ c.name) :
    lookup key c.entry?.toList = none := by
  refine Document.lookup_eq_none_iff.mpr fun e he hkey => ?_
  obtain ⟨own, -, rfl⟩ := Option.map_eq_some_iff.mp (Option.mem_toList.mp he)
  exact h (Value.str.inj hkey).symm

end Body

/-! ### The bodies of an operation -/

/-- The bodies of an operation that a type may be declared for. -/
structure Bodies where
  request : Body
  /-- The body of the best response. -/
  response : Body

/-- The bodies in the order in which they are added. -/
def Bodies.toList (b : Bodies) : List Body := [b.request, b.response]

/-- The bodies of an operation are the two and no others. -/
@[simp] theorem Bodies.mem_toList_iff {b : Bodies} {c : Body} :
    c ∈ b.toList ↔ c = b.request ∨ c = b.response := by
  simp [toList]

/-- The entries that the bodies of an operation add where nothing has their names. -/
def Bodies.entries (b : Bodies) : Entries := b.toList.filterMap Body.entry?

/-- The bodies of an operation. -/
def bodies (document : Value) (op : Operation) : Result Bodies := do
  let request ← Api.requestSchema document op.requestBody
  let requestName ← requestTypeName op.id
  let response ← schemaOf (← Api.bestOf op.responses)
  let responseName ← responseTypeName op.id
  return ⟨⟨request, requestName⟩, ⟨response, responseName⟩⟩

section Operation

variable {document : Value} {op : Operation} {b : Bodies} {defs defs' : Entries}

/-- The two bodies of an operation are named after it. -/
theorem bodies_eq_ok_iff : bodies document op = .ok b ↔
    Api.requestSchema document op.requestBody = .ok b.request.schema ∧
      requestTypeName op.id = .ok b.request.name ∧
      (Api.bestOf op.responses >>= schemaOf) = .ok b.response.schema ∧
      responseTypeName op.id = .ok b.response.name := by
  obtain ⟨⟨request, requestName⟩, ⟨response, responseName⟩⟩ := b
  simp only [bodies, Result.bind_eq_ok_iff, Result.pure_def, Except.ok.injEq, Bodies.mk.injEq,
    Body.mk.injEq]
  constructor
  · rintro ⟨_, hrequest, _, hrequestName, best, hbest, _, hresponse, _, hresponseName, ⟨rfl, rfl⟩,
      rfl, rfl⟩
    exact ⟨hrequest, hrequestName, ⟨best, hbest, hresponse⟩, hresponseName⟩
  · rintro ⟨hrequest, hrequestName, ⟨best, hbest, hresponse⟩, hresponseName⟩
    exact ⟨_, hrequest, _, hrequestName, best, hbest, _, hresponse, _, hresponseName, ⟨rfl, rfl⟩,
      rfl, rfl⟩

/-- **What an operation does to the registry**: it adds its bodies one after the other. An operation
without a request adds nothing for it, as the schema of that body is null. -/
theorem exists_bodies_of_result_addBodies
    (h : (addBodies document defs op).result = .ok defs') :
    ∃ b between, bodies document op = .ok b ∧
      (addBody defs b.request.schema b.request.name).result = .ok between ∧
      (addBody between b.response.schema b.response.name).result = .ok defs' := by
  unfold addBodies at h
  split at h
  · simp only [Logged.result_bind, Logged.result_liftM, Result.bind_eq_ok_iff] at h
    obtain ⟨request, hrequest, requestName, hrequestName, between, hadd, best, hbest, response,
      hresponse, responseName, hresponseName, h⟩ := h
    have hbody : (Api.bestOf op.responses >>= schemaOf) = .ok response :=
      Result.bind_eq_ok_iff.mpr ⟨best, hbest, hresponse⟩
    exact ⟨⟨⟨request, requestName⟩, ⟨response, responseName⟩⟩, between,
      bodies_eq_ok_iff.mpr ⟨hrequest, hrequestName, hbody, hresponseName⟩, hadd, h⟩
  · next hfalse =>
    simp only [Logged.result_bind, Logged.result_liftM, Logged.result_pure, Result.ok_bind,
      Result.bind_eq_ok_iff] at h
    obtain ⟨best, hbest, response, hresponse, responseName, hresponseName, h⟩ := h
    have hbody : (Api.bestOf op.responses >>= schemaOf) = .ok response :=
      Result.bind_eq_ok_iff.mpr ⟨best, hbest, hresponse⟩
    have hschema : Api.requestSchema document op.requestBody = .ok .null := by
      simp [Api.requestSchema, hfalse]
    obtain ⟨id, hid, -⟩ := Result.bind_eq_ok_iff.mp hresponseName
    have hname : requestTypeName op.id = .ok (id ++ "_request") := by
      simp [requestTypeName, hid]
    exact ⟨⟨⟨.null, id ++ "_request"⟩, ⟨response, responseName⟩⟩, defs,
      bodies_eq_ok_iff.mpr ⟨hschema, hname, hbody, hresponseName⟩, rfl, h⟩

/-- No operation takes a definition out of the registry. -/
theorem lookup_isSome_of_result_addBodies {key : Text}
    (h : (addBodies document defs op).result = .ok defs')
    (hkey : (lookup key defs).isSome = true) : (lookup key defs').isSome = true := by
  obtain ⟨b, between, -, hrequest, hresponse⟩ := exists_bodies_of_result_addBodies h
  exact lookup_isSome_of_result_addBody hresponse (lookup_isSome_of_result_addBody hrequest hkey)

/-- Behind an operation there is a definition for each of its inline bodies. -/
theorem lookup_name_isSome_of_result_addBodies (hb : bodies document op = .ok b) {c : Body}
    (hc : c ∈ b.toList) (hinline : (ownDefinition? c.schema).isSome = true)
    (hplain : IsUnwrapped c.schema)
    (h : (addBodies document defs op).result = .ok defs') :
    (lookup c.name defs').isSome = true := by
  obtain ⟨b', between, hb', hrequest, hresponse⟩ := exists_bodies_of_result_addBodies h
  obtain rfl : b = b' := Except.ok.inj (hb.symm.trans hb')
  obtain rfl | rfl := Bodies.mem_toList_iff.mp hc
  · exact lookup_isSome_of_result_addBody hresponse
      (lookup_name_isSome_of_result_addBody hinline hplain hrequest)
  · exact lookup_name_isSome_of_result_addBody hinline hplain hresponse

end Operation

/-! ### All operations -/

section Operations

variable {document : Value} {ops : List Operation} {defs acc : Entries}

/-- The registry of a description comes from its schemas by a fold over the operations. -/
theorem result_definitions_eq_ok_iff : (definitions document ops).result = .ok defs ↔
    ∃ named, (Api.schemas document >>= Value.asEntries) = .ok named ∧
      ops.foldlM (fun acc op => (addBodies document acc op).result) named = .ok defs := by
  simp only [definitions, Logged.result_bind, Logged.result_liftM, Logged.result_foldlM,
    Result.bind_eq_ok_iff]
  constructor
  · rintro ⟨schemas, hschemas, named, hnamed, h⟩
    exact ⟨named, ⟨schemas, hschemas, hnamed⟩, h⟩
  · rintro ⟨named, ⟨schemas, hschemas, hnamed⟩, h⟩
    exact ⟨schemas, hschemas, named, hnamed, h⟩

/-- No run over operations takes a definition out of the registry. -/
theorem lookup_isSome_of_foldlM_addBodies {key : Text}
    (h : ops.foldlM (fun acc op => (addBodies document acc op).result) acc = .ok defs)
    (hkey : (lookup key acc).isSome = true) : (lookup key defs).isSome = true := by
  induction ops generalizing acc with
  | nil =>
      obtain rfl := Except.ok.inj h
      exact hkey
  | cons op ops ih =>
      simp only [List.foldlM_cons, Result.bind_eq_ok_iff] at h
      obtain ⟨next, hnext, h⟩ := h
      exact ih h (lookup_isSome_of_result_addBodies hnext hkey)

/-- Behind a run over operations there is a definition for each inline body of each of them. -/
theorem lookup_name_isSome_of_foldlM_addBodies {op : Operation} {b : Bodies} {c : Body}
    (h : ops.foldlM (fun acc op => (addBodies document acc op).result) acc = .ok defs)
    (hop : op ∈ ops) (hb : bodies document op = .ok b) (hc : c ∈ b.toList)
    (hinline : (ownDefinition? c.schema).isSome = true)
    (hplain : IsUnwrapped c.schema) :
    (lookup c.name defs).isSome = true := by
  induction ops generalizing acc with
  | nil => cases hop
  | cons first ops ih =>
      simp only [List.foldlM_cons, Result.bind_eq_ok_iff] at h
      obtain ⟨next, hnext, h⟩ := h
      obtain rfl | hop := List.mem_cons.mp hop
      · exact lookup_isSome_of_foldlM_addBodies h
          (lookup_name_isSome_of_result_addBodies hb hc hinline hplain hnext)
      · exact ih h hop

/-- A run over operations finds the bodies of each of them. -/
theorem exists_bodies_of_foldlM_addBodies {op : Operation}
    (h : ops.foldlM (fun acc op => (addBodies document acc op).result) acc = .ok defs)
    (hop : op ∈ ops) : ∃ b, bodies document op = .ok b := by
  induction ops generalizing acc with
  | nil => cases hop
  | cons first ops ih =>
      simp only [List.foldlM_cons, Result.bind_eq_ok_iff] at h
      obtain ⟨next, hnext, h⟩ := h
      obtain rfl | hop := List.mem_cons.mp hop
      · obtain ⟨b, -, hb, -⟩ := exists_bodies_of_result_addBodies hnext
        exact ⟨b, hb⟩
      · exact ih h hop

end Operations

/-! ### Operations whose bodies have names of their own -/

/-- Operations whose bodies have names of their own beside the names of a registry: their ids are
different texts, nothing is kept under a name that is made of one of them, and no body wraps another
schema. -/
structure HaveOwnNames (document : Value) (named : Entries) (ops : List Operation) : Prop where
  text : ∀ op ∈ ops, ∃ id, op.id = .str id
  distinct : ops.Pairwise fun op other => op.id ≠ other.id
  fresh : ∀ op ∈ ops, ∀ id, op.id = .str id →
    lookup (id ++ "_request") named = none ∧ lookup (id ++ "_response") named = none
  unwrapped : ∀ op ∈ ops, ∀ b, bodies document op = .ok b → ∀ c ∈ b.toList, IsUnwrapped c.schema

section OwnNames

variable {document : Value} {op : Operation} {ops : List Operation} {b : Bodies}
  {named defs defs' : Entries} {id : Text}

/-- The name of a request is never that of a response. -/
theorem append_request_ne_append_response (s t : Text) :
    s ++ Text.ofString "_request" ≠ t ++ Text.ofString "_response" := by
  intro h
  have hlast := congrArg List.getLast? h
  simp [Text.ofString, Text.ofChars] at hlast

/-- The names of the bodies of an operation whose id is a text. -/
theorem names_of_bodies (hid : op.id = .str id) (hb : bodies document op = .ok b) :
    b.request.name = id ++ Text.ofString "_request" ∧
      b.response.name = id ++ Text.ofString "_response" := by
  obtain ⟨-, hrequest, -, hresponse⟩ := bodies_eq_ok_iff.mp hb
  simp only [requestTypeName, responseTypeName, hid, Value.text_str, Result.ok_bind,
    Result.pure_def, Except.ok.injEq] at hrequest hresponse
  exact ⟨hrequest.symm, hresponse.symm⟩

/-- The entries of an operation are that of its request and that of its response. -/
theorem entries_eq_append (b : Bodies) :
    b.entries = b.request.entry?.toList ++ b.response.entry?.toList := by
  cases h : b.request.entry? <;> cases h' : b.response.entry? <;>
    simp [Bodies.entries, Bodies.toList, h, h']

/-- The entries of an operation have no other names than those of its bodies. -/
theorem lookup_entries_eq_none {key : Text} (hrequest : key ≠ b.request.name)
    (hresponse : key ≠ b.response.name) : lookup key b.entries = none := by
  rw [entries_eq_append, Document.lookup_append, lookup_entry_eq_none hrequest,
    lookup_entry_eq_none hresponse, Option.none_or]

/-- Before such operations nothing is kept under the name of a body. -/
theorem HaveOwnNames.lookup_name_eq_none {c : Body} (h : HaveOwnNames document named ops)
    (hop : op ∈ ops) (hb : bodies document op = .ok b) (hc : c ∈ b.toList) :
    lookup c.name named = none := by
  obtain ⟨id, hid⟩ := h.text op hop
  obtain ⟨hrequest, hresponse⟩ := names_of_bodies hid hb
  obtain ⟨hfreshRequest, hfreshResponse⟩ := h.fresh op hop id hid
  obtain rfl | rfl := Bodies.mem_toList_iff.mp hc
  · exact hrequest ▸ hfreshRequest
  · exact hresponse ▸ hfreshResponse

/-- The first of such operations appends the entries of its bodies. -/
theorem HaveOwnNames.result_addBodies (h : HaveOwnNames document named (op :: ops))
    (hb : bodies document op = .ok b) (hadd : (addBodies document named op).result = .ok defs) :
    defs = named ++ b.entries := by
  obtain ⟨id, hid⟩ := h.text op List.mem_cons_self
  obtain ⟨hrequestName, hresponseName⟩ := names_of_bodies hid hb
  have hne : b.response.name ≠ b.request.name := by
    rw [hrequestName, hresponseName]
    exact (append_request_ne_append_response id id).symm
  have hfresh : ∀ c ∈ b.toList, lookup c.name named = none := fun c hc =>
    h.lookup_name_eq_none List.mem_cons_self hb hc
  have hplain := h.unwrapped op List.mem_cons_self b hb
  obtain ⟨b', between, hb', hrequest, hresponse⟩ := exists_bodies_of_result_addBodies hadd
  obtain rfl : b = b' := Except.ok.inj (hb.symm.trans hb')
  obtain rfl := result_addBody_of_lookup_eq_none (hfresh b.request (by simp))
    (hplain b.request (by simp)) hrequest
  -- the request's entry does not take the name of the response
  have hfreshBetween : lookup b.response.name (named ++ b.request.entry?.toList) = none := by
    rw [Document.lookup_append, hfresh b.response (by simp), lookup_entry_eq_none hne,
      Option.none_or]
  rw [result_addBody_of_lookup_eq_none hfreshBetween (hplain b.response (by simp)) hresponse,
    List.append_assoc, entries_eq_append]

/-- The other operations have names of their own beside what the first one appends. -/
theorem HaveOwnNames.tail (h : HaveOwnNames document named (op :: ops))
    (hb : bodies document op = .ok b) : HaveOwnNames document (named ++ b.entries) ops := by
  obtain ⟨id, hid⟩ := h.text op List.mem_cons_self
  obtain ⟨hrequestName, hresponseName⟩ := names_of_bodies hid hb
  have hdistinct := List.pairwise_cons.mp h.distinct
  refine ⟨fun other hother => h.text other (List.mem_cons_of_mem _ hother), hdistinct.2, ?_,
    fun other hother => h.unwrapped other (List.mem_cons_of_mem _ hother)⟩
  intro other hother id' hid'
  obtain ⟨hfreshRequest, hfreshResponse⟩ := h.fresh other (List.mem_cons_of_mem _ hother) id' hid'
  have hne : id' ≠ id := fun heq => hdistinct.1 other hother (by rw [hid, hid', heq])
  rw [Document.lookup_append, Document.lookup_append, hfreshRequest, hfreshResponse,
    Option.none_or, Option.none_or]
  refine ⟨lookup_entries_eq_none ?_ ?_, lookup_entries_eq_none ?_ ?_⟩
  · simpa [hrequestName] using hne
  · rw [hresponseName]
    exact append_request_ne_append_response id' id
  · rw [hrequestName]
    exact (append_request_ne_append_response id id').symm
  · simpa [hresponseName] using hne

/-- A run over such operations appends the entries of all their bodies in order. -/
theorem HaveOwnNames.foldlM_addBodies (hown : HaveOwnNames document named ops)
    (h : ops.foldlM (fun acc op => (addBodies document acc op).result) named = .ok defs) :
    ∃ all, ops.mapM (bodies document) = .ok all ∧ defs = named ++ all.flatMap Bodies.entries := by
  induction ops generalizing named with
  | nil =>
      obtain rfl := Except.ok.inj h
      exact ⟨[], rfl, by simp⟩
  | cons op ops ih =>
      simp only [List.foldlM_cons, Result.bind_eq_ok_iff] at h
      obtain ⟨next, hnext, h⟩ := h
      obtain ⟨b, -, hb, -⟩ := exists_bodies_of_result_addBodies hnext
      obtain rfl := hown.result_addBodies hb hnext
      obtain ⟨all, hall, rfl⟩ := ih (hown.tail hb) h
      exact ⟨b :: all, by simp [hb, hall], by simp⟩

/-- Among such operations an id belongs to one only. -/
theorem HaveOwnNames.eq_of_id {op op' : Operation} (h : HaveOwnNames document named ops)
    (hop : op ∈ ops) (hop' : op' ∈ ops) (hid : op.id = op'.id) : op = op' :=
  List.inj_on_of_nodup_map (List.pairwise_map.mpr h.distinct) hop hop' hid

/-- Among such operations a declared name belongs to one body only. -/
theorem HaveOwnNames.schema_of_name {op op' : Operation} {b b' : Bodies} {c c' : Body}
    (h : HaveOwnNames document named ops) (hop : op ∈ ops) (hop' : op' ∈ ops)
    (hb : bodies document op = .ok b) (hb' : bodies document op' = .ok b') (hc : c ∈ b.toList)
    (hc' : c' ∈ b'.toList) (hname : c.name = c'.name) : c.schema = c'.schema := by
  obtain ⟨id, hid⟩ := h.text op hop
  obtain ⟨id', hid'⟩ := h.text op' hop'
  obtain ⟨hrequest, hresponse⟩ := names_of_bodies hid hb
  obtain ⟨hrequest', hresponse'⟩ := names_of_bodies hid' hb'
  have hsame (heq : id = id') : b = b' := by
    obtain rfl := h.eq_of_id hop hop' (by rw [hid, hid', heq])
    exact Except.ok.inj (hb.symm.trans hb')
  obtain rfl | rfl := Bodies.mem_toList_iff.mp hc
  · obtain rfl | rfl := Bodies.mem_toList_iff.mp hc'
    · rw [hrequest, hrequest', List.append_left_inj] at hname
      rw [hsame hname]
    · rw [hrequest, hresponse'] at hname
      exact absurd hname (append_request_ne_append_response id id')
  · obtain rfl | rfl := Bodies.mem_toList_iff.mp hc'
    · rw [hresponse, hrequest'] at hname
      exact absurd hname.symm (append_request_ne_append_response id' id)
    · rw [hresponse, hresponse', List.append_left_inj] at hname
      rw [hsame hname]

/-- The entries of an operation are those of its inline bodies. -/
theorem mem_entries_iff {e : Value × Value} : e ∈ b.entries ↔
    ∃ c ∈ b.toList, ∃ own, ownDefinition? c.schema = some own ∧ e = (.str c.name, own) := by
  simp only [Bodies.entries, List.mem_filterMap, Body.entry?, Option.map_eq_some_iff]
  constructor
  · rintro ⟨c, hc, own, hown, rfl⟩
    exact ⟨c, hc, own, hown, rfl⟩
  · rintro ⟨c, hc, own, hown, rfl⟩
    exact ⟨c, hc, own, hown, rfl⟩

/-- Behind a run over such operations the name of an inline body stands for its own definition
only. -/
theorem HaveOwnNames.mem_iff {op : Operation} {c : Body} {own d : Value}
    (hown : HaveOwnNames document named ops)
    (h : ops.foldlM (fun acc op => (addBodies document acc op).result) named = .ok defs)
    (hop : op ∈ ops) (hb : bodies document op = .ok b) (hc : c ∈ b.toList)
    (hinline : ownDefinition? c.schema = some own) : (.str c.name, d) ∈ defs ↔ d = own := by
  obtain ⟨all, hall, rfl⟩ := hown.foldlM_addBodies h
  rw [List.mem_append, List.mem_flatMap]
  constructor
  · rintro (hmem | ⟨b', hb', hmem⟩)
    · -- nothing was kept under the name before
      have hfresh := hown.lookup_name_eq_none hop hb hc
      exact absurd rfl (Document.lookup_eq_none_iff.mp hfresh _ hmem)
    · obtain ⟨op', hop', hopBodies⟩ := Result.exists_of_mem_mapM hall hb'
      obtain ⟨c', hc', own', hinline', heq⟩ := mem_entries_iff.mp hmem
      obtain ⟨hname, rfl⟩ : c.name = c'.name ∧ d = own' := by simpa using heq
      have hschema := hown.schema_of_name hop hop' hb hopBodies hc hc' hname
      rw [hschema, hinline'] at hinline
      exact Option.some.inj hinline
  · rintro rfl
    obtain ⟨b', hb', hopBodies⟩ := Result.exists_of_mem_of_mapM hall hop
    obtain rfl := Except.ok.inj (hb.symm.trans hopBodies)
    exact .inr ⟨b, hb', mem_entries_iff.mpr ⟨c, hc, d, hinline, rfl⟩⟩

end OwnNames

/-! ### The registry and the types of bodies -/

/-- The type of an inline body is made of the declared name. -/
theorem bodyType_of_ownDefinition? {schema : Value}
    (hinline : (ownDefinition? schema).isSome = true) (hplain : IsUnwrapped schema) (name : Text) :
    bodyType schema name = .ok (.str (qualifiedName name true ++ ownBrackets schema)) := by
  cases hobject : isInlineObject schema with
  | true => simp [bodyType_of_isInlineObject hobject, ownBrackets, hobject]
  | false =>
      obtain ⟨items, helements⟩ : ∃ items, inlineElements? schema = some items := by
        simpa [ownDefinition?, hobject, Option.isSome_iff_exists] using hinline
      simp [bodyType_of_inlineElements? helements hplain, ownBrackets, hobject]

/-- The type that an operation returns is the type of the body of its best response. -/
theorem returnTypeOf_of_bodies {document : Value} {op : Operation} {b : Bodies}
    (hb : bodies document op = .ok b) :
    returnTypeOf op = bodyType b.response.schema b.response.name := by
  obtain ⟨-, -, hresponse, hresponseName⟩ := bodies_eq_ok_iff.mp hb
  obtain ⟨best, hbest, hschema⟩ := Result.bind_eq_ok_iff.mp hresponse
  simp [returnTypeOf, returnType, hbest, hschema, hresponseName]

/-- The type of the body in a signature is the type of the body of the request. -/
theorem bodyArgument_of_bodies {document : Value} {op : Operation} {b : Bodies}
    (hb : bodies document op = .ok b) :
    bodyArgument document op true =
      (bodyType b.request.schema b.request.name >>= Value.text) >>= fun type =>
        .ok ⟨"body", false, some type⟩ := by
  obtain ⟨hrequest, hrequestName, -, -⟩ := bodies_eq_ok_iff.mp hb
  simp [bodyArgument, hrequest, hrequestName]

/-- **The registry, exactly.** Where the bodies of operations have names of their own, the registry
is the schemas of the description, unchanged and in order, and behind them, operation by operation,
the entries of the inline bodies. These are also exactly the bodies whose type, in a return type and
in a signature, is made of the declared name: that of any other body does not depend on the name. -/
theorem definitions_eq_append_entries {document schemas : Value} {named defs : Entries}
    {ops : List Operation} (hschemas : Api.schemas document = .ok schemas)
    (hnamed : schemas.view = .map named) (hown : HaveOwnNames document named ops)
    (h : (definitions document ops).result = .ok defs) :
    ∃ all, ops.mapM (bodies document) = .ok all ∧
      defs = named ++ all.flatMap Bodies.entries ∧
      (∀ b ∈ all, ∀ c ∈ b.toList,
        ((ownDefinition? c.schema).isSome = true → bodyType c.schema c.name =
          .ok (.str (qualifiedName c.name true ++ ownBrackets c.schema))) ∧
        (ownDefinition? c.schema = none →
          ∀ other, bodyType c.schema other = bodyType c.schema c.name)) ∧
      List.Forall₂ (fun op b =>
        returnTypeOf op = bodyType b.response.schema b.response.name ∧
        bodyArgument document op true =
          (bodyType b.request.schema b.request.name >>= Value.text) >>= fun type =>
            .ok ⟨"body", false, some type⟩) ops all := by
  obtain ⟨named', hnamed', hfold⟩ := result_definitions_eq_ok_iff.mp h
  obtain rfl : named = named' := by
    rw [hschemas, Result.ok_bind, Value.asEntries_of_view hnamed] at hnamed'
    exact Except.ok.inj hnamed'
  obtain ⟨all, hall, rfl⟩ := hown.foldlM_addBodies hfold
  refine ⟨all, hall, rfl, ?_, ?_⟩
  · intro b hb c hc
    obtain ⟨op, hop, hopBodies⟩ := Result.exists_of_mem_mapM hall hb
    have hplain := hown.unwrapped op hop b hopBodies c hc
    exact ⟨fun hinline => bodyType_of_ownDefinition? hinline hplain c.name,
      fun hnone other => bodyType_eq_of_ownDefinition?_eq_none hnone other c.name⟩
  · exact (Result.mapM_eq_ok_iff.mp hall).imp fun op b hb =>
      ⟨returnTypeOf_of_bodies hb, bodyArgument_of_bodies hb⟩

/-! ### Operations on pets -/

/-- The schema of an object with a name. -/
def namedObject : Value :=
  record [("type", .str "object"),
    ("properties", record [("name", record [("type", .str "string")])])]

/-- The content of a body in JSON. -/
def jsonContent (schema : Value) : Value :=
  record [("application/json", record [("schema", schema)])]

/-- A description that keeps the schema of a pet. -/
def petDocument : Value :=
  record [("components", record [("schemas", record [("Pet", namedObject)])])]

/-- An operation on pets. -/
def petOperation (id : Text) (request response : Value) : Operation where
  id := .str id
  method := "post"
  path := .str "/pets"
  group := "pets"
  summary := .null
  description := .null
  parameters := []
  requestBody := record [("content", jsonContent request)]
  responses := [record [("code", .str "404"), ("content", jsonContent namedObject)],
    record [("code", .str "200"), ("content", jsonContent response)]]
  security := none
  tags := .null

/-- Two operations on pets: one is sent an object and returns an array of objects, the other is sent
a pet and returns nothing that is inline. -/
def petOperations : List Operation :=
  [petOperation "search" namedObject
      (record [("type", .str "array"), ("description", .str "Hits"), ("items", namedObject)]),
    petOperation "save" (record [("$ref", .str "#/components/schemas/Pet")])
      (record [("type", .str "string")])]

/-- The bodies of the operations on pets have names of their own beside the pet. -/
theorem haveOwnNames_petOperations :
    HaveOwnNames petDocument [(.str "Pet", namedObject)] petOperations where
  text := by simp [petOperations, petOperation]
  distinct := by simp [petOperations, petOperation, Text.ofString, Text.ofChars]
  fresh := by
    intro op hop id hid
    obtain rfl | rfl : op = _ ∨ op = _ := by simpa [petOperations] using hop
    · obtain rfl := Value.str.inj hid
      exact ⟨rfl, rfl⟩
    · obtain rfl := Value.str.inj hid
      exact ⟨rfl, rfl⟩
  unwrapped := by
    intro op hop b hb c hc
    obtain rfl | rfl : op = _ ∨ op = _ := by simpa [petOperations] using hop
    · obtain rfl := Except.ok.inj hb
      obtain rfl | rfl := Bodies.mem_toList_iff.mp hc
      all_goals decide
    · obtain rfl := Except.ok.inj hb
      obtain rfl | rfl := Bodies.mem_toList_iff.mp hc
      all_goals decide

/-- The registry of the operations on pets has the pet and behind it the two inline bodies. -/
theorem definitions_petOperations :
    HaveOwnNames petDocument [(.str "Pet", namedObject)] petOperations ∧
      ∃ defs all, (definitions petDocument petOperations).result = .ok defs ∧
        petOperations.mapM (bodies petDocument) = .ok all ∧
        defs = (.str "Pet", namedObject) :: all.flatMap Bodies.entries ∧
        (all.flatMap Bodies.entries).map (·.1) =
          [.str "search_request", .str "search_response"] := by
  have hdefs : (definitions petDocument petOperations).result = .ok _ := rfl
  obtain ⟨all, hall, hentries, -⟩ :=
    definitions_eq_append_entries rfl rfl haveOwnNames_petOperations hdefs
  refine ⟨haveOwnNames_petOperations, _, all, hdefs, hall, hentries, ?_⟩
  obtain rfl := Except.ok.inj hall
  rfl

end ClientScribe.Client
