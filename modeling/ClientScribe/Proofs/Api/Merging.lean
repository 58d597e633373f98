import ClientScribe.Api.Parameter
import ClientScribe.Proofs.Api.Endpoints

/-!
# Parameters of an Operation and of its Path

An operation takes over the parameters of its path, but for those that it replaces.
`mergeParameters_eq_ok_iff` says when the two lists can be merged and what comes out: the parameters
of the path that are not replaced, in order, and behind them those of the operation.

Parameters are compared as they are written. One that is written as a reference has no name and no
location there, so it neither replaces a parameter nor is replaced. Lists of different parameters
give a list of different parameters as long as references are left aside
(`exists_mergeParameters_eq_ok`). With what the references lead to in their place, they do so
exactly if none of them leads to a parameter that the other list has as well
(`areDistinctResolved_parameters_iff`).
-/

namespace ClientScribe.Api

open Document (Value record)

variable {document pathItem path ofPath ofOperation p q : Value} {ps qs merged : List Value}
  {key : Option (Value × Value)} {method : Text} {op : Operation}

/-! ### Parameters as they are written -/

/-- Whether a parameter is written as a reference. -/
def isReference (p : Value) : Bool := (p.get? "$ref").isSome

/-- The name and the location that a parameter is written with, null where they are absent. -/
def nameAndLocation (p : Value) : Value × Value :=
  ((p.get? "name").getD .null, (p.get? "in").getD .null)

/-- The name and the location of a parameter that is no reference. -/
def writtenKey? (p : Value) : Option (Value × Value) :=
  if isReference p then none else some (nameAndLocation p)

/-- A parameter that is no reference has a name and a location that can be keys. -/
def HasKey (p : Value) : Prop :=
  isReference p = false →
    (nameAndLocation p).1.isKey = true ∧ (nameAndLocation p).2.isKey = true

/-- Neither of two parameters is a reference, and their names and locations are the same. -/
def SameParameter (p q : Value) : Prop :=
  isReference p = false ∧ isReference q = false ∧
    sameKey (nameAndLocation p) (nameAndLocation q) = true

/-- Among the parameters of an operation there is the same one. -/
def IsReplaced (own : List Value) (p : Value) : Prop := ∃ q ∈ own, SameParameter p q

/-- No two parameters are the same. -/
def AreDistinct (ps : List Value) : Prop := ps.Pairwise fun p q => ¬ SameParameter p q

instance : Decidable (HasKey p) := inferInstanceAs (Decidable (_ → _))

instance : Decidable (SameParameter p q) := inferInstanceAs (Decidable (_ ∧ _ ∧ _))

instance : Decidable (IsReplaced qs p) := inferInstanceAs (Decidable (∃ q ∈ qs, SameParameter p q))

instance : Decidable (AreDistinct ps) :=
  inferInstanceAs (Decidable (ps.Pairwise fun p q => ¬ SameParameter p q))


/-- The key of a parameter that is a mapping. -/
theorem parameterKey_eq_ok_iff (hmap : p.isMap = true) :
    parameterKey p = .ok key ↔ HasKey p ∧ key = writtenKey? p := by
  obtain ⟨es, hview⟩ := Value.isMap_iff.mp hmap
  have hhas : p.has "$ref" = .ok (isReference p) := Value.has_of_view hview
  have hname : p.field "name" = .ok (nameAndLocation p).1 := Value.field_of_view hview
  have hlocation : p.field "in" = .ok (nameAndLocation p).2 := Value.field_of_view hview
  simp only [parameterKey, hhas, hname, hlocation, Result.ok_bind, Result.pure_def, HasKey,
    writtenKey?]
  cases isReference p with
  | true => simpa using eq_comm
  | false =>
      simp only [Bool.false_eq_true, if_false, forall_const, ← Bool.and_eq_true]
      split
      · next hkey => simpa [hkey] using eq_comm
      · next hkey => simp [hkey, Document.misfit]

/-- A parameter is replaced if the operation has a parameter with its key. -/
theorem decide_isReplaced (hreference : isReference p = false) :
    decide (IsReplaced qs p) = (qs.filterMap writtenKey?).any (sameKey (nameAndLocation p)) := by
  rw [Bool.eq_iff_iff, decide_eq_true_iff, List.any_filterMap, List.any_eq_true]
  simp only [IsReplaced, SameParameter, hreference, true_and, writtenKey?]
  refine exists_congr fun q => and_congr_right fun _ => ?_
  cases isReference q <;> simp

/-- A reference is never replaced. -/
theorem not_isReplaced_of_isReference (h : isReference p = true) : ¬ IsReplaced qs p := by
  rintro ⟨q, -, hwritten, -⟩
  cases h.symm.trans hwritten

/-! ### Merging -/

/-- Whether a parameter of a path stays, given the keys of the operation's. -/
def stays (ownKeys : List (Value × Value)) (p : Value) : Result Bool := do
  match ← parameterKey p with
  | none => return true
  | some key => return !ownKeys.any (sameKey key)

/-- A parameter of a path stays exactly when it has a key and none of the operation's replaces it.
-/
theorem stays_eq_ok_iff {holds : Bool} (hmap : p.isMap = true) :
    stays (qs.filterMap writtenKey?) p = .ok holds ↔
      HasKey p ∧ holds = decide (¬ IsReplaced qs p) := by
  simp only [stays, Result.bind_eq_ok_iff, parameterKey_eq_ok_iff hmap, Result.pure_def, decide_not]
  cases hreference : isReference p with
  | true =>
      have hwritten : writtenKey? p = none := by simp [writtenKey?, hreference]
      simp [hwritten, not_isReplaced_of_isReference hreference, eq_comm]
  | false =>
      have hwritten : writtenKey? p = some (nameAndLocation p) := by simp [writtenKey?, hreference]
      rw [decide_isReplaced hreference, hwritten]
      simp [eq_comm]

/-- **Which lists can be merged, and what comes out.** The keys of all parameters are asked for. The
parameters of the path that are not replaced come first, those of the operation follow. -/
theorem mergeParameters_eq_ok_iff (hps : ofPath.members = .ok ps)
    (hqs : ofOperation.members = .ok qs) (hmaps : ∀ p ∈ ps ++ qs, p.isMap = true) :
    mergeParameters ofPath ofOperation = .ok merged ↔
      (∀ p ∈ ps ++ qs, HasKey p) ∧
        merged = (ps.filter fun p => ¬ IsReplaced qs p) ++ qs := by
  have hmerge : mergeParameters ofPath ofOperation = do
      let keys ← qs.mapM parameterKey
      let kept ← ps.filterM (stays (keys.filterMap id))
      return kept ++ qs := by
    simp only [mergeParameters, hps, hqs, Result.ok_bind]
    rfl
  have hkeys (keys : List (Option (Value × Value))) : qs.mapM parameterKey = .ok keys ↔
      (∀ q ∈ qs, HasKey q) ∧ keys = qs.map writtenKey? :=
    Result.mapM_eq_ok_iff_forall fun q hq _ =>
      parameterKey_eq_ok_iff (hmaps q (List.mem_append_right _ hq))
  have hkept (kept : List Value) : ps.filterM (stays (qs.filterMap writtenKey?)) = .ok kept ↔
      (∀ p ∈ ps, HasKey p) ∧ kept = ps.filter fun p => ¬ IsReplaced qs p :=
    Result.filterM_eq_ok_iff_forall fun p hp _ =>
      stays_eq_ok_iff (hmaps p (List.mem_append_left _ hp))
  have hown : (qs.map writtenKey?).filterMap id = qs.filterMap writtenKey? := by
    rw [List.filterMap_map]
    rfl
  rw [hmerge, List.forall_mem_append]
  simp only [Result.bind_eq_ok_iff, hkeys, Result.pure_def, Except.ok.injEq]
  constructor
  · rintro ⟨_, ⟨hq, rfl⟩, kept, hfilter, rfl⟩
    obtain ⟨hp, rfl⟩ := (hkept kept).mp (hown ▸ hfilter)
    exact ⟨⟨hp, hq⟩, rfl⟩
  · rintro ⟨⟨hp, hq⟩, rfl⟩
    exact ⟨_, ⟨hq, rfl⟩, _, hown.symm ▸ (hkept _).mpr ⟨hp, rfl⟩, rfl⟩

/-- A parameter of a path that stays is not the same as one of the operation. -/
theorem not_sameParameter_of_mem_filter (hp : p ∈ ps.filter fun p => ¬ IsReplaced qs p)
    (hq : q ∈ qs) : ¬ SameParameter p q := by
  have hstays : ¬ IsReplaced qs p := by simpa using (List.mem_filter.mp hp).2
  exact fun hsame => hstays ⟨q, hq, hsame⟩

/-- **What an operation takes over from its path.** Lists of parameters with keys can be merged. The
parameters of the path that the operation replaces are left out, no other parameter and no reference
is lost, and where neither list has a parameter twice the merged one has none twice. -/
theorem exists_mergeParameters_eq_ok (hps : ofPath.members = .ok ps)
    (hqs : ofOperation.members = .ok qs) (hmaps : ∀ p ∈ ps ++ qs, p.isMap = true)
    (hkeys : ∀ p ∈ ps ++ qs, HasKey p) :
    ∃ merged, mergeParameters ofPath ofOperation = .ok merged ∧
      merged = (ps.filter fun p => ¬ IsReplaced qs p) ++ qs ∧
      qs <:+ merged ∧
      merged.filter isReference = (ps ++ qs).filter isReference ∧
      (AreDistinct ps → AreDistinct qs → AreDistinct merged) := by
  refine ⟨_, (mergeParameters_eq_ok_iff hps hqs hmaps).mpr ⟨hkeys, rfl⟩, rfl,
    List.suffix_append _ _, ?_, fun hdistinct hown => ?_⟩
  · rw [List.filter_append, List.filter_append, List.filter_filter]
    congr 1
    refine List.filter_congr fun p _ => ?_
    cases hreference : isReference p with
    | false => rfl
    | true => simp [not_isReplaced_of_isReference hreference]
  · refine List.pairwise_append.mpr ⟨List.Pairwise.filter _ hdistinct, hown, ?_⟩
    exact fun p hp q hq => not_sameParameter_of_mem_filter hp hq

/-- A parameter that is a reference. -/
def limitReference : Value := record [("$ref", .str "#/components/schemas/Limit")]

/-- A parameter that is written out, with a name and a location. -/
def writtenParameter (name location : Text) : Value :=
  record [("name", .str name), ("in", .str location)]

/-- A reference stays, and so does a parameter without the location of the operation's. -/
theorem exists_mergeParameters_limit :
    ∃ merged, mergeParameters
        (.list [writtenParameter "id" "path", limitReference, record [("name", .str "id")]])
        (.list [limitReference, writtenParameter "id" "path"]) = .ok merged ∧
      merged =
        [limitReference, record [("name", .str "id")], limitReference,
          writtenParameter "id" "path"] ∧
      AreDistinct merged := by
  have hps : (Value.list [writtenParameter "id" "path", limitReference,
      record [("name", .str "id")]]).members =
        .ok [writtenParameter "id" "path", limitReference, record [("name", .str "id")]] := rfl
  have hqs : (Value.list [limitReference, writtenParameter "id" "path"]).members =
      .ok [limitReference, writtenParameter "id" "path"] := rfl
  obtain ⟨merged, hmerge, rfl, -, -, hdistinct⟩ :=
    exists_mergeParameters_eq_ok hps hqs (by decide) (by decide)
  exact ⟨_, hmerge, rfl, hdistinct (by decide) (by decide)⟩

/-! ### Parameters once they are resolved -/

/-- The parameters that a path or an operation lists. -/
def listedParameters (v : Value) : Result (List Value) := do
  (← v.fieldOr "parameters" (.list [])).members

/-- The name and the location that a parameter has once it is resolved, null where they are
absent. -/
def resolvedKey (document p : Value) : Result (Value × Value) := do
  let target ← resolved document p
  return (← target.field "name", ← target.field "in")

/-- Two parameters have the same name and the same location once they are resolved. `equal` says
which names and which locations are the same. -/
def Coincide (equal : Value → Value → Prop) (document p q : Value) : Prop :=
  ∃ k l, resolvedKey document p = .ok k ∧ resolvedKey document q = .ok l ∧
    equal k.1 l.1 ∧ equal k.2 l.2

/-- Parameters can be resolved, and then no two of them are the same. -/
structure AreDistinctResolved (equal : Value → Value → Prop) (document : Value)
    (ps : List Value) : Prop where
  resolves : ∀ p ∈ ps, ∃ k, resolvedKey document p = .ok k
  distinct : ps.Pairwise fun p q => ¬ Coincide equal document p q

/-- Parameters that can be resolved coincide exactly when their names and their locations do. -/
theorem coincide_iff {equal : Value → Value → Prop} {k l : Value × Value}
    (hp : resolvedKey document p = .ok k) (hq : resolvedKey document q = .ok l) :
    Coincide equal document p q ↔ equal k.1 l.1 ∧ equal k.2 l.2 := by
  simp only [Coincide, hp, hq, Except.ok.injEq]
  exact ⟨fun ⟨_, _, hk, hl, hequal⟩ => hk ▸ hl ▸ hequal, fun hequal => ⟨k, l, rfl, rfl, hequal⟩⟩

/-- Parameters are distinct once they are resolved if the list of their names and locations has no
two that are the same. -/
theorem areDistinctResolved_of_mapM {equal : Value → Value → Prop} {keys : List (Value × Value)}
    (hkeys : ps.mapM (resolvedKey document) = .ok keys)
    (hdistinct : keys.Pairwise fun k l => ¬ (equal k.1 l.1 ∧ equal k.2 l.2)) :
    AreDistinctResolved equal document ps := by
  refine ⟨fun p hp => ?_, ?_⟩
  · obtain ⟨k, -, hk⟩ := Result.exists_of_mem_of_mapM hkeys hp
    exact ⟨k, hk⟩
  · induction Result.mapM_eq_ok_iff.mp hkeys with
    | nil => exact .nil
    | @cons p k ps keys hk hrest ih =>
        obtain ⟨hhead, htail⟩ := List.pairwise_cons.mp hdistinct
        have hkeys : ps.mapM (resolvedKey document) = .ok keys := Result.mapM_eq_ok_iff.mpr hrest
        refine .cons (fun q hq => ?_) (ih hkeys htail)
        obtain ⟨l, hl, hql⟩ := Result.exists_of_mem_of_mapM hkeys hq
        exact fun hcoincide => hhead l hl ((coincide_iff hk hql).mp hcoincide)

/-- Only a mapping can be resolved to a parameter. -/
theorem isMap_of_resolvedKey {k : Value × Value} (h : resolvedKey document p = .ok k) :
    p.isMap = true := by
  simp only [resolvedKey, resolved, Result.bind_eq_ok_iff] at h
  obtain ⟨target, ⟨reference, -, htarget⟩, name, hname, -⟩ := h
  split at htarget
  · obtain ⟨_, hdemand, -⟩ := Result.bind_eq_ok_iff.mp htarget
    exact Value.isMap_iff.mpr (Value.exists_view_of_get? (Value.demand_eq_ok_iff.mp hdemand))
  · obtain rfl := Except.ok.inj htarget
    exact Value.isMap_iff.mpr (Value.field_eq_ok_iff.mp hname).1

/-- A parameter that is no reference is resolved as it is written. -/
theorem resolvedKey_of_not_isReference (hmap : p.isMap = true) (h : isReference p = false) :
    resolvedKey document p = .ok (nameAndLocation p) := by
  obtain ⟨es, hview⟩ := Value.isMap_iff.mp hmap
  have hhas : p.has "$ref" = .ok false := (Value.has_of_view hview).trans (congrArg _ h)
  simp only [resolvedKey, resolved, hhas, Result.ok_bind, Result.pure_def, Bool.false_eq_true,
    if_false, Value.field_of_view hview]
  rfl

/-- Parameters that are written out coincide if they are the same. -/
theorem coincide_iff_sameParameter {equal : Value → Value → Prop}
    (hequal : ∀ a b : Value, a.isKey = true → b.isKey = true → (equal a b ↔ a.same b = true))
    (hpmap : p.isMap = true) (hqmap : q.isMap = true) (hpkey : HasKey p) (hqkey : HasKey q)
    (hp : isReference p = false) (hq : isReference q = false) :
    Coincide equal document p q ↔ SameParameter p q := by
  obtain ⟨hpname, hplocation⟩ := hpkey hp
  obtain ⟨hqname, hqlocation⟩ := hqkey hq
  rw [coincide_iff (resolvedKey_of_not_isReference hpmap hp)
    (resolvedKey_of_not_isReference hqmap hq), hequal _ _ hpname hqname,
    hequal _ _ hplocation hqlocation]
  simp [SameParameter, sameKey, hp, hq]

/-- The parameters of an operation are merged of those that its path and itself list. -/
theorem exists_mergeParameters_of_operation
    (hop : operation document pathItem path method = .ok op)
    (hps : listedParameters pathItem = .ok ps)
    (hqs : (pathItem.demand method >>= listedParameters) = .ok qs) :
    ∃ ofPath ofOperation, ofPath.members = .ok ps ∧ ofOperation.members = .ok qs ∧
      mergeParameters ofPath ofOperation = .ok op.parameters := by
  obtain ⟨fields, hread⟩ := exists_isReadFrom_of_operation hop
  rw [hread.found, Result.ok_bind] at hqs
  obtain ⟨ofPath, hofPath, hps⟩ := Result.bind_eq_ok_iff.mp hps
  obtain ⟨ofOperation, hofOperation, hqs⟩ := Result.bind_eq_ok_iff.mp hqs
  have hmerged := hread.parameters
  rw [hofPath, Result.ok_bind, hofOperation, Result.ok_bind] at hmerged
  exact ⟨ofPath, ofOperation, hps, hqs, hmerged⟩

/-- **When an operation has no parameter twice.** Let neither a path nor an operation list a
parameter twice, references resolved. Then no parameter comes up twice among those of the operation,
references resolved, if and only if no parameter that stays of the path coincides with one of the
operation where one of the two is written as a reference. -/
theorem areDistinctResolved_parameters_iff {equal : Value → Value → Prop}
    (hequal : ∀ a b : Value, a.isKey = true → b.isKey = true → (equal a b ↔ a.same b = true))
    (hop : operation document pathItem path method = .ok op)
    (hps : listedParameters pathItem = .ok ps)
    (hqs : (pathItem.demand method >>= listedParameters) = .ok qs)
    (hpsDistinct : AreDistinctResolved equal document ps)
    (hqsDistinct : AreDistinctResolved equal document qs) :
    AreDistinctResolved equal document op.parameters ↔
      ∀ p ∈ ps, ¬ IsReplaced qs p → ∀ q ∈ qs, isReference p = true ∨ isReference q = true →
        ¬ Coincide equal document p q := by
  have hresolves : ∀ p ∈ ps ++ qs, ∃ k, resolvedKey document p = .ok k :=
    List.forall_mem_append.mpr ⟨hpsDistinct.resolves, hqsDistinct.resolves⟩
  have hmaps (p) (hp : p ∈ ps ++ qs) : p.isMap = true :=
    (hresolves p hp).elim fun _ => isMap_of_resolvedKey
  obtain ⟨ofPath, ofOperation, hofPath, hofOperation, hmerged⟩ :=
    exists_mergeParameters_of_operation hop hps hqs
  obtain ⟨hkeys, hparameters⟩ := (mergeParameters_eq_ok_iff hofPath hofOperation hmaps).mp hmerged
  rw [hparameters]
  constructor
  · intro hdistinct p hp hstays q hq _
    refine (List.pairwise_append.mp hdistinct.distinct).2.2 p ?_ q hq
    exact List.mem_filter.mpr ⟨hp, by simpa using hstays⟩
  · intro hreferences
    refine ⟨fun p hp => hresolves p ?_, List.pairwise_append.mpr
      ⟨hpsDistinct.distinct.filter _, hqsDistinct.distinct, fun p hp q hq hcoincide => ?_⟩⟩
    · exact (List.append_sublist_append_right qs).mpr List.filter_sublist |>.mem hp
    · obtain ⟨hmem, hstays⟩ := List.mem_filter.mp hp
      by_cases hreference : isReference p = true ∨ isReference q = true
      · exact hreferences p hmem (by simpa using hstays) q hq hreference hcoincide
      · -- both are written out, so the one of the path would have been replaced
        obtain ⟨hpwritten, hqwritten⟩ := not_or.mp hreference
        have hpmem : p ∈ ps ++ qs := List.mem_append_left _ hmem
        have hqmem : q ∈ ps ++ qs := List.mem_append_right _ hq
        refine not_sameParameter_of_mem_filter hp hq ?_
        exact (coincide_iff_sameParameter hequal (hmaps p hpmem) (hmaps q hqmem) (hkeys p hpmem)
          (hkeys q hqmem) (by simpa using hpwritten) (by simpa using hqwritten)).mp hcoincide

/-- A description with one schema, which is a parameter for the number of pets. -/
def petsDocument : Value :=
  record [("components", record [("schemas", record [("Limit",
    record [("name", .str "limit"), ("in", .str "query")])])])]

/-- A path with parameters and one operation, which has parameters of its own. -/
def petsItem (ofPath ofOperation : List Value) : Value :=
  record [("parameters", .list ofPath), ("get", record [("parameters", .list ofOperation)])]

/-- A path refers to one parameter and writes one out, which its operation replaces. -/
def petItem : Value :=
  petsItem [limitReference, writtenParameter "id" "path"]
    [writtenParameter "id" "path", writtenParameter "id" "query"]

/-- What the path refers to is no parameter of the operation. -/
theorem areDistinctResolved_parameters_petItem :
    ∃ op, operation petsDocument petItem (.str "/pets/\x7bid\x7d") "get" = .ok op ∧
      op.parameters =
        [limitReference, writtenParameter "id" "path", writtenParameter "id" "query"] ∧
      AreDistinctResolved (fun a b => a.same b = true) petsDocument op.parameters := by
  obtain ⟨op, hop, hparameters⟩ :
      ∃ op, operation petsDocument petItem (.str "/pets/\x7bid\x7d") "get" = .ok op ∧
        op.parameters =
          [limitReference, writtenParameter "id" "path", writtenParameter "id" "query"] :=
    ⟨_, rfl, rfl⟩
  have hps : listedParameters petItem = .ok [limitReference, writtenParameter "id" "path"] := rfl
  have hqs : (petItem.demand "get" >>= listedParameters) =
      .ok [writtenParameter "id" "path", writtenParameter "id" "query"] := rfl
  refine ⟨op, hop, hparameters, (areDistinctResolved_parameters_iff (fun _ _ _ _ => Iff.rfl) hop hps
    hqs (areDistinctResolved_of_mapM rfl (by decide))
    (areDistinctResolved_of_mapM rfl (by decide))).mpr ?_⟩
  intro p hp hstays q hq _
  obtain rfl | rfl : p = limitReference ∨ p = writtenParameter "id" "path" := by simpa using hp
  · obtain ⟨location, rfl⟩ : ∃ location, q = writtenParameter "id" location := by
      obtain rfl | rfl : q = writtenParameter "id" "path" ∨ q = writtenParameter "id" "query" := by
        simpa using hq
      · exact ⟨_, rfl⟩
      · exact ⟨_, rfl⟩
    have hname : (Value.str "limit").same (.str "id") = false := by decide
    rw [coincide_iff (k := (.str "limit", .str "query")) (l := (.str "id", .str location)) rfl rfl]
    simp [hname]
  · exact absurd ⟨_, List.mem_cons_self, by decide⟩ hstays

/-- A parameter that a path refers to stays although the operation has the same one. -/
theorem exists_not_areDistinctResolved_parameters :
    ∃ op, operation petsDocument (petsItem [limitReference] [writtenParameter "limit" "query"])
        (.str "/pets") "get" = .ok op ∧
      AreDistinctResolved (fun a b => a.same b = true) petsDocument [limitReference] ∧
      AreDistinctResolved (fun a b => a.same b = true) petsDocument
        [writtenParameter "limit" "query"] ∧
      ¬ AreDistinctResolved (fun a b => a.same b = true) petsDocument op.parameters := by
  refine ⟨_, rfl, areDistinctResolved_of_mapM rfl (by decide),
    areDistinctResolved_of_mapM rfl (by decide), fun h => ?_⟩
  have happart := List.rel_of_pairwise_cons h.distinct List.mem_cons_self
  exact happart ⟨_, _, rfl, rfl, by decide⟩

end ClientScribe.Api
