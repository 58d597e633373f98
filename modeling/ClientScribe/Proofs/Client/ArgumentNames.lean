import ClientScribe.Proofs.Api.Merging
import ClientScribe.Proofs.Client.Arguments
import ClientScribe.Proofs.Client.Registry
import ClientScribe.Proofs.Identifier.Argument
import Mathlib.Data.List.Nodup

/-!
# Different Names for Arguments

A function has one argument for every required parameter, and two more with the fixed names `body`
and `options`. Nothing keeps these names apart: parameters are told apart by name and location, and
arguments have neither the location nor the spelling of the name. `nodup_names_iff` says when the
names are different all the same, by the names of the parameters in camel case; reserved words,
which are escaped, play no part in it. It says so too for the properties of the type of the optional
parameters.

In one location, different parameters with names that are in camel case already have different names
as arguments.
-/

namespace ClientScribe.Client

open Api (AreDistinctResolved Operation nameAndLocation resolvedKey)
open Document (Value record)
open Identifier (camelName escapeReserved isSeparator)

variable {document p : Value} {ps : List Value} {op : Operation} {typed : Bool} {package a : Text}
  {args : List Argument} {split : Api.Parameters} {names : List Text}

/-! ### Names in camel case -/

/-- The name of a parameter in camel case. -/
def camelNameOf (p : Value) : Text :=
  match p.get? "name" with
  | some (.str name) => camelName name
  | _ => []

/-- The name of a parameter in camel case has no underscore. -/
theorem underscore_not_mem_camelNameOf (p : Value) : CodePoint.char '_' ∉ camelNameOf p := by
  unfold camelNameOf
  split
  · exact Identifier.underscore_not_mem_camelName _
  · exact List.not_mem_nil

/-- The argument of a parameter is its name in camel case, escaped. -/
theorem eq_escapeReserved_of_parameterName (h : parameterName p = .ok a) :
    a = escapeReserved (camelNameOf p) := by
  simp only [parameterName, Result.bind_eq_ok_iff, Value.demand_eq_ok_iff] at h
  obtain ⟨given, hgiven, name, hname, h⟩ := h
  cases given with
  | str s =>
      obtain rfl := Except.ok.inj hname
      rw [Identifier.eq_escapeReserved_of_argumentName h, camelNameOf, hgiven]
  | _ => cases hname

/-- The arguments of parameters are their names in camel case, escaped, one for each. -/
theorem eq_map_of_mapM_parameterName (h : ps.mapM parameterName = .ok names) :
    names = ps.map fun p => escapeReserved (camelNameOf p) := by
  simpa using Result.map_eq_map_of_mapM (g := id) h fun _ _ _ => eq_escapeReserved_of_parameterName

/-- Parameters have different names if they have in camel case. -/
theorem nodup_iff_of_mapM_parameterName (h : ps.mapM parameterName = .ok names) :
    names.Nodup ↔ (ps.map camelNameOf).Nodup := by
  rw [eq_map_of_mapM_parameterName h]
  unfold List.Nodup
  rw [List.pairwise_map, List.pairwise_map]
  refine List.Pairwise.iff fun {p q} => not_congr ?_
  exact Identifier.escapeReserved_inj (underscore_not_mem_camelNameOf p)
    (underscore_not_mem_camelNameOf q)

/-- A name that needs no escaping is that of a parameter if it is in camel case. -/
theorem mem_iff_of_mapM_parameterName (h : ps.mapM parameterName = .ok names)
    (hplain : CodePoint.char '_' ∉ a) (hfree : escapeReserved a = a) :
    a ∈ names ↔ a ∈ ps.map camelNameOf := by
  rw [eq_map_of_mapM_parameterName h, List.mem_map, List.mem_map]
  refine exists_congr fun p => and_congr_right fun _ => ?_
  rw [← Identifier.escapeReserved_inj (underscore_not_mem_camelNameOf p) hplain, hfree]

/-! ### Different parameters -/

/-- Two parameters differ in name or location. -/
def Differ (p q : Value) : Prop :=
  ¬ ((nameAndLocation p).1.same (nameAndLocation q).1 = true ∧
    (nameAndLocation p).2.same (nameAndLocation q).2 = true)

/-- A parameter that can be resolved has the name and the location of what it is resolved to. -/
theorem resolvedKey_of_classified {t : Value × Bool} {key : Value × Value}
    (hkey : resolvedKey document p = .ok key) (h : Api.classified document p = .ok t) :
    resolvedKey document p = .ok (nameAndLocation t.1) := by
  simp only [Api.classified, Result.bind_eq_ok_iff] at h
  obtain ⟨target, htarget, hasName, -, h⟩ := h
  simp only [resolvedKey, htarget, Result.ok_bind, Result.bind_eq_ok_iff] at hkey
  obtain ⟨name, hname, -⟩ := hkey
  obtain ⟨⟨es, hv⟩, -⟩ := Value.field_eq_ok_iff.mp hname
  obtain rfl : target = t.1 := by
    cases hasName with
    | true =>
        simp only [if_true, Result.bind_eq_ok_iff, Result.pure_def, Except.ok.injEq] at h
        obtain ⟨_, -, rfl⟩ := h
        rfl
    | false =>
        simp only [Bool.false_eq_true, if_false, Result.bind_eq_ok_iff, reduceCtorEq, and_false,
          exists_false] at h
  simp only [resolvedKey, htarget, Result.ok_bind, Value.field_of_view hv, Result.pure_def,
    nameAndLocation]

/-- Different parameters are different as what they are resolved to. -/
theorem pairwise_differ_of_mapM {all : List (Value × Bool)}
    (hdistinct : AreDistinctResolved (fun a b => a.same b = true) document ps)
    (hall : ps.mapM (Api.classified document) = .ok all) :
    all.Pairwise fun t u => Differ t.1 u.1 := by
  obtain ⟨hresolves, hpairwise⟩ := hdistinct
  induction Result.mapM_eq_ok_iff.mp hall with
  | nil => exact .nil
  | @cons p t ps all ht hrest ih =>
      obtain ⟨hhead, htail⟩ := List.pairwise_cons.mp hpairwise
      have hall : ps.mapM (Api.classified document) = .ok all := Result.mapM_eq_ok_iff.mpr hrest
      obtain ⟨k, hk⟩ := hresolves p List.mem_cons_self
      refine .cons (fun u hu hsame => ?_)
        (ih hall (fun q hq => hresolves q (List.mem_cons_of_mem _ hq)) htail)
      obtain ⟨q, hq, hclassified⟩ := Result.exists_of_mem_mapM hall hu
      obtain ⟨l, hl⟩ := hresolves q (List.mem_cons_of_mem _ hq)
      refine hhead q hq ((Api.coincide_iff (resolvedKey_of_classified hk ht)
        (resolvedKey_of_classified hl hclassified)).mpr hsame)

/-- Different parameters are so once they are resolved and split. -/
theorem pairwise_differ_of_partitioned
    (hdistinct : AreDistinctResolved (fun a b => a.same b = true) document op.parameters)
    (hsplit : Api.partitioned document op.parameters = .ok split)
    (hps : ps ∈ [split.required, split.optional]) : ps.Pairwise Differ := by
  simp only [Api.partitioned, Result.bind_eq_ok_iff, Result.pure_def, Except.ok.injEq] at hsplit
  obtain ⟨all, hall, rfl⟩ := hsplit
  have hpairwise := pairwise_differ_of_mapM hdistinct hall
  obtain rfl | rfl : ps = _ ∨ ps = _ := by simpa using hps
  · exact List.pairwise_map.mpr (hpairwise.filter _)
  · exact List.pairwise_map.mpr (hpairwise.filter _)

/-- A parameter is at a location and has a name without separators. -/
def IsPlainAt (location : Text) (p : Value) : Prop :=
  ∃ name : Text, p.get? "name" = some (.str name) ∧ name ≠ [] ∧
    (∀ c ∈ name, c.satisfies isSeparator = false) ∧ p.get? "in" = some (.str location)

/-- Different parameters at one location have different names in camel case if their names are. -/
theorem nodup_of_isPlainAt {location : Text}
    (hps : ps.Pairwise Differ) (hplain : ∀ p ∈ ps, IsPlainAt location p) :
    (ps.map camelNameOf).Nodup := by
  refine List.pairwise_map.mpr (hps.imp_of_mem fun {p q} hp hq hdistinct heq => hdistinct ?_)
  obtain ⟨name, hname, hne, hseparators, hlocation⟩ := hplain p hp
  obtain ⟨name', hname', hne', hseparators', hlocation'⟩ := hplain q hq
  simp only [camelNameOf, hname, hname', Identifier.camelName_eq_self hne hseparators,
    Identifier.camelName_eq_self hne' hseparators'] at heq
  simp [nameAndLocation, hname, hname', hlocation, hlocation', heq, Value.same]

/-! ### The row -/

/-- Names with the two fixed ones behind them are different if they are and have neither among
them. -/
theorem nodup_append_fixed_iff : (names ++ bodyName op ++ optionsName split).Nodup ↔
    names.Nodup ∧ (op.requestBody.isTrue = true → Text.ofString "body" ∉ names) ∧
      (split.optional ≠ [] → Text.ofString "options" ∉ names) := by
  have hfixed : (bodyName op ++ optionsName split).Nodup := by
    unfold bodyName optionsName
    split <;> split <;> decide
  have hbody : (∀ a ∈ bodyName op, a ∉ names) ↔
      (op.requestBody.isTrue = true → Text.ofString "body" ∉ names) := by
    unfold bodyName
    split <;> simp_all
  have hoptions : (∀ a ∈ optionsName split, a ∉ names) ↔
      (split.optional ≠ [] → Text.ofString "options" ∉ names) := by
    unfold optionsName
    split <;> simp_all
  rw [List.append_assoc, List.nodup_append', List.disjoint_right, List.forall_mem_append, hbody,
    hoptions]
  exact and_congr_right fun _ => and_iff_right hfixed

/-- The properties of the type of the optional parameters have the names of their parameters. -/
theorem mapM_parameterName_of_optionsType {type : OptionsType}
    (h : optionsType op ps = .ok (some type)) :
    ps.mapM parameterName = .ok (type.properties.map OptionProperty.name) := by
  unfold optionsType at h
  split at h
  · cases h
  · simp only [Result.bind_eq_ok_iff, Result.pure_def, Except.ok.injEq, Option.some.injEq] at h
    obtain ⟨_, -, _, -, properties, hproperties, rfl⟩ := h
    rw [Result.mapM_eq_ok_iff, List.forall₂_map_right_iff]
    refine (Result.mapM_eq_ok_iff.mp hproperties).imp fun p property h => ?_
    simp only [optionProperty, Result.bind_eq_ok_iff, Result.pure_def, Except.ok.injEq] at h
    obtain ⟨name, hname, _, -, _, -, _, -, rfl⟩ := h
    exact hname

/-- **When the names of the arguments are different.** -/
theorem nodup_names_iff (hargs : arguments document op typed package = .ok args)
    (hsplit : Api.partitioned document op.parameters = .ok split) :
    ((args.map Argument.name).Nodup ↔ (split.required.map camelNameOf).Nodup ∧
      (op.requestBody.isTrue = true →
        Text.ofString "body" ∉ split.required.map camelNameOf) ∧
      (split.optional ≠ [] → Text.ofString "options" ∉ split.required.map camelNameOf)) ∧
    (∀ type, optionsType op split.optional = .ok (some type) →
      ((type.properties.map OptionProperty.name).Nodup ↔
        (split.optional.map camelNameOf).Nodup)) ∧
    (AreDistinctResolved (fun a b => a.same b = true) document op.parameters →
      ∀ ps ∈ [split.required, split.optional], ∀ location, (∀ p ∈ ps, IsPlainAt location p) →
        (ps.map camelNameOf).Nodup) := by
  refine ⟨?_, fun type htype => ?_, fun hdistinct ps hps location hplain => ?_⟩
  · obtain ⟨split', row, hrow, rfl⟩ := arguments_eq_ok_iff.mp hargs
    obtain rfl := Except.ok.inj (hsplit.symm.trans hrow.split)
    have hrequired := hrow.map_name_required
    rw [hrow.map_name_toList, nodup_append_fixed_iff, nodup_iff_of_mapM_parameterName hrequired,
      mem_iff_of_mapM_parameterName hrequired (by decide) (by decide),
      mem_iff_of_mapM_parameterName hrequired (by decide) (by decide)]
  · exact nodup_iff_of_mapM_parameterName (mapM_parameterName_of_optionsType htype)
  · exact nodup_of_isPlainAt (pairwise_differ_of_partitioned hdistinct hsplit hps) hplain

/-- A parameter that a call must give, or need not. -/
def parameterAt (name location : Text) (required : Bool) : Value :=
  record [("name", .str name), ("in", .str location), ("required", .bool required)]

/-- An operation on pets with parameters. -/
def operationWith (parameters : List Value) : Operation :=
  { petOperation "find" namedObject namedObject with parameters := parameters }

/-- An operation with parameters that have different names in camel case. -/
def findOperation : Operation :=
  operationWith [parameterAt "delete" "query" true, parameterAt "user-id" "query" true,
    parameterAt "user_name" "query" false, parameterAt "limit" "query" false]

/-- A reserved word is escaped and stays apart from the other names. -/
theorem nodup_names_findOperation : ∃ args split type,
    arguments petDocument findOperation true [] = .ok args ∧
      Api.partitioned petDocument findOperation.parameters = .ok split ∧
      optionsType findOperation split.optional = .ok (some type) ∧
      args.map Argument.name = ["delete_", "userId", "body", "options"] ∧
      (args.map Argument.name).Nodup ∧ (type.properties.map OptionProperty.name).Nodup := by
  have hargs : arguments petDocument findOperation true [] = .ok _ := rfl
  have hsplit : Api.partitioned petDocument findOperation.parameters = .ok _ := rfl
  obtain ⟨hnames, hproperties, -⟩ := nodup_names_iff hargs hsplit
  exact ⟨_, _, _, hargs, hsplit, rfl, rfl, hnames.mpr (by decide),
    (hproperties _ rfl).mpr (by decide)⟩

/-- **Different parameters with the same argument.** Two required parameters have one name at two
locations, and two optional ones at one location have the same words. -/
theorem exists_not_nodup_names : ∃ op args split type,
    AreDistinctResolved (fun a b => a.same b = true) petDocument op.parameters ∧
      arguments petDocument op false [] = .ok args ∧
      Api.partitioned petDocument op.parameters = .ok split ∧
      optionsType op split.optional = .ok (some type) ∧
      args.map Argument.name = ["id", "id", "body", "options"] ∧
      ¬ (args.map Argument.name).Nodup ∧
      type.properties.map OptionProperty.name = ["userId", "userId"] ∧
      ¬ (type.properties.map OptionProperty.name).Nodup :=
  ⟨operationWith [parameterAt "id" "path" true, parameterAt "id" "query" true,
      parameterAt "user-id" "query" false, parameterAt "userId" "query" false], _, _, _,
    Api.areDistinctResolved_of_mapM rfl (by decide), rfl, rfl, rfl, rfl, by decide, rfl, by decide⟩

end ClientScribe.Client
