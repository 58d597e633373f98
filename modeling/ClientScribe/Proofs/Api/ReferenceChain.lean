import ClientScribe.Api.Reference
import ClientScribe.Proofs.Document.Field
import Mathlib.Data.List.Nodup
import Mathlib.Data.List.Perm.Subperm

/-!
# Chains of References

A reference leads to the schema that is registered under its name, and a schema that is nothing but
a reference leads on. `chain` follows these steps without asking where they end: it knows no schemas
that were visited, and on a circle it goes round for ever.

`ChainEnds` says how a chain ends, and `resolve_eq_iff` that resolving a reference gives this end
and always has one. Two facts carry the proof. As long as no reference comes up again, each of them
has an entry of its own in the registry, so the number of entries bounds the steps
(`le_length_of_distinct`). And a chain on which one does come up again never stops
(`isSome_chain_of_repeated`), so that a chain has one end only (`ChainEnds.unique`).
-/

namespace ClientScribe.Api

open Document (Value Entries lookup)

variable {document registry : Value} {es : Entries} {start reference name : Text} {m n : Nat}

/-! ### Names in references -/

/-- A reference with the supported start has the name behind it. -/
theorem schemaName_append (name : Text) : schemaName (schemaReferenceStart ++ name) = .ok name := by
  simp [schemaName, List.isPrefixOf_iff_prefix]

/-- A reference with the supported start leads to the name behind it. -/
theorem schemaName_eq_ok_iff :
    schemaName reference = .ok name ↔ reference = schemaReferenceStart ++ name := by
  constructor
  · intro h
    unfold schemaName at h
    split at h
    · next hstart =>
      obtain ⟨rest, rfl⟩ := List.isPrefixOf_iff_prefix.mp hstart
      obtain rfl : rest = name := by simpa using h
      rfl
    · cases h
  · rintro rfl
    exact schemaName_append name

/-- Any other reference is not supported. -/
theorem schemaName_eq_error (h : ¬ schemaReferenceStart <+: reference) :
    schemaName reference = .error (.unsupportedReference reference) :=
  if_neg fun hstart => h (List.isPrefixOf_iff_prefix.mp hstart)

/-! ### The chain -/

/-- The reference that the schema of a reference consists of, if there is such a schema and it is
nothing but a reference. -/
def next? (es : Entries) (reference : Text) : Option Text := do
  let name ← (schemaName reference).toOption
  let schema ← lookup name es
  let target ← onlyReference? schema
  target.text?

/-- The chain goes on from a reference exactly when its schema is nothing but another one. -/
theorem next?_eq_some_iff {next : Text} : next? es reference = some next ↔
    ∃ name schema, reference = schemaReferenceStart ++ name ∧ lookup name es = some schema ∧
      onlyReference? schema = some (.str next) := by
  have htext (target : Value) : target.text? = some next ↔ target = .str next := by
    cases target <;> simp [Value.text?]
  have hname (name : Text) : (schemaName reference).toOption = some name ↔
      reference = schemaReferenceStart ++ name := by
    rw [← schemaName_eq_ok_iff]
    cases schemaName reference <;> simp [Except.toOption]
  simp only [next?, Option.bind_eq_bind, Option.bind_eq_some_iff, htext, hname]
  constructor
  · rintro ⟨name, hname, schema, hschema, _, htarget, rfl⟩
    exact ⟨name, schema, hname, hschema, htarget⟩
  · rintro ⟨name, schema, hname, hschema, htarget⟩
    exact ⟨name, hname, schema, hschema, _, htarget, rfl⟩

/-- The references that follow each other from a first one on, by their number in the chain. -/
def chain (es : Entries) (start : Text) : Nat → Option Text
  | 0 => some start
  | n + 1 => (chain es start n).bind (next? es)

/-- Behind one of its references a chain is the chain from there. -/
theorem chain_add (m n : Nat) :
    chain es start (m + n) = (chain es start m).bind fun reference => chain es reference n := by
  induction n with
  | zero => simp [chain]
  | succ n ih =>
      rw [← Nat.add_assoc, chain, ih, Option.bind_assoc]
      rfl

/-- A chain has all references in front of one that it has. -/
theorem isSome_chain_of_le (h : (chain es start n).isSome = true) (hmn : m ≤ n) :
    (chain es start m).isSome = true := by
  obtain ⟨k, rfl⟩ := Nat.exists_eq_add_of_le hmn
  rw [chain_add] at h
  cases hm : chain es start m with
  | none => simp [hm] at h
  | some _ => rfl

/-- A chain on which a reference comes up again never stops. -/
theorem isSome_chain_of_repeated (hmn : m < n) (hn : (chain es start n).isSome = true)
    (hback : chain es start m = chain es start n) (k : Nat) :
    (chain es start k).isSome = true := by
  induction k using Nat.strongRecOn with
  | ind k ih =>
    obtain hk | hk := Nat.le_total k n
    · exact isSome_chain_of_le hn hk
    · obtain ⟨j, rfl⟩ := Nat.exists_eq_add_of_le hk
      -- the part behind the second time is the part behind the first time
      have hturn : chain es start (n + j) = chain es start (m + j) := by
        rw [chain_add, chain_add, hback]
      rw [hturn]
      exact ih (m + j) (by omega)

/-- The key under which a reference of the chain finds its schema. -/
def keyAt (es : Entries) (start : Text) (n : Nat) : Value :=
  .str (((chain es start n).getD []).drop schemaReferenceStart.length)

/-- A reference that is followed is the supported start and the key of an entry. -/
theorem exists_key_of_isSome (hn : (chain es start (n + 1)).isSome = true) :
    ∃ name, chain es start n = some (schemaReferenceStart ++ name) ∧
      keyAt es start n = .str name ∧ .str name ∈ es.map Prod.fst := by
  obtain ⟨next, hnext⟩ := Option.isSome_iff_exists.mp hn
  obtain ⟨reference, hreference, hnext⟩ := Option.bind_eq_some_iff.mp hnext
  obtain ⟨name, schema, rfl, hschema, -⟩ := next?_eq_some_iff.mp hnext
  exact ⟨name, hreference, by simp [keyAt, hreference],
    List.mem_map_of_mem (f := Prod.fst) (Document.mem_of_lookup hschema)⟩

/-- References that are followed and do not come up again have different entries. -/
theorem le_length_of_distinct (hn : (chain es start n).isSome = true)
    (hdistinct : ∀ i j, i < j → j < n → chain es start i ≠ chain es start j) : n ≤ es.length := by
  have hkey : ∀ i < n, ∃ name, chain es start i = some (schemaReferenceStart ++ name) ∧
      keyAt es start i = .str name ∧ .str name ∈ es.map Prod.fst := by
    intro i hi
    exact exists_key_of_isSome (isSome_chain_of_le hn hi)
  have hnodup : ((List.range n).map (keyAt es start)).Nodup := by
    refine List.nodup_range.map_on fun i hi j hj heq => ?_
    obtain ⟨name, hname, hi', -⟩ := hkey i (List.mem_range.mp hi)
    obtain ⟨name', hname', hj', -⟩ := hkey j (List.mem_range.mp hj)
    obtain rfl : name = name' := Value.str.inj (hi'.symm.trans (heq.trans hj'))
    have hsame : chain es start i = chain es start j := hname.trans hname'.symm
    obtain hlt | rfl | hlt := Nat.lt_trichotomy i j
    · exact absurd hsame (hdistinct i j hlt (List.mem_range.mp hj))
    · rfl
    · exact absurd hsame.symm (hdistinct j i hlt (List.mem_range.mp hi))
  have hsubset : (List.range n).map (keyAt es start) ⊆ es.map Prod.fst := by
    intro v hv
    obtain ⟨i, hi, rfl⟩ := List.mem_map.mp hv
    obtain ⟨name, -, hname, hmem⟩ := hkey i (List.mem_range.mp hi)
    exact hname ▸ hmem
  simpa using (List.subperm_of_subset hnodup hsubset).length_le

/-! ### Ends of chains -/

/-- How a chain ends. All references in front of its end are followed, so each of the first three
ends is the first reference of its sort. -/
inductive ChainEnds (es : Entries) (start : Text) : Result Value → Prop
  /-- A reference leads to a schema that is not a reference itself. -/
  | schema {n : Nat} {name : Text} {schema : Value}
      (hchain : chain es start n = some (schemaReferenceStart ++ name))
      (hschema : lookup name es = some schema) (hown : onlyReference? schema = none) :
      ChainEnds es start (.ok schema)
  /-- A reference does not have the start that is supported. -/
  | unsupported {n : Nat} {reference : Text} (hchain : chain es start n = some reference)
      (hstart : ¬ schemaReferenceStart <+: reference) :
      ChainEnds es start (.error (.unsupportedReference reference))
  /-- A reference leads to no schema. -/
  | dangling {n : Nat} {name : Text}
      (hchain : chain es start n = some (schemaReferenceStart ++ name))
      (hschema : lookup name es = none) :
      ChainEnds es start (.error (.danglingReference (schemaReferenceStart ++ name)))
  /-- A reference comes up again, and it is the first one to do so. -/
  | circular {m n : Nat} {reference : Text} (hmn : m < n)
      (hback : chain es start m = some reference) (hchain : chain es start n = some reference)
      (hfirst : ∀ i j, i < j → j < n → chain es start i ≠ chain es start j) :
      ChainEnds es start (.error (.circularReference reference))

/-- What a reference gives that is not followed. -/
def stopped (es : Entries) (reference : Text) : Result Value := do
  let name ← schemaName reference
  match lookup name es with
  | some schema => .ok schema
  | none => .error (.danglingReference reference)

/-- A chain stops at a reference, or a reference comes up again on it. -/
theorem ChainEnds.stops_or_repeats {outcome : Result Value} (h : ChainEnds es start outcome) :
    (∃ n reference, chain es start n = some reference ∧ chain es start (n + 1) = none ∧
      outcome = stopped es reference) ∨
    ∃ m n reference, m < n ∧ chain es start m = some reference ∧
      chain es start n = some reference ∧
      (∀ i j, i < j → j < n → chain es start i ≠ chain es start j) ∧
      outcome = .error (.circularReference reference) := by
  cases h with
  | @schema n name schema hchain hschema hown =>
      refine .inl ⟨n, _, hchain, ?_, ?_⟩
      · simp [chain, hchain, next?, schemaName_append, Except.toOption, hschema, hown]
      · simp [stopped, schemaName_append, hschema]
  | @unsupported n reference hchain hstart =>
      refine .inl ⟨n, _, hchain, ?_, ?_⟩
      · simp [chain, hchain, next?, schemaName_eq_error hstart, Except.toOption]
      · simp [stopped, schemaName_eq_error hstart]
  | @dangling n name hchain hschema =>
      refine .inl ⟨n, _, hchain, ?_, ?_⟩
      · simp [chain, hchain, next?, schemaName_append, Except.toOption, hschema]
      · simp [stopped, schemaName_append, hschema]
  | @circular m n reference hmn hback hchain hfirst =>
      exact .inr ⟨m, n, reference, hmn, hback, hchain, hfirst, rfl⟩

/-- A chain has at most one end. -/
theorem ChainEnds.unique {outcome other : Result Value} (h : ChainEnds es start outcome)
    (h' : ChainEnds es start other) : outcome = other := by
  -- where it stops there is nothing behind
  have hlast {m n : Nat} (hm : chain es start (m + 1) = none) {reference : Text}
      (hn : chain es start n = some reference) : n ≤ m := by
    by_contra hlt
    have hsome : (chain es start n).isSome = true := by rw [hn]; rfl
    have hm' := isSome_chain_of_le hsome (Nat.lt_of_not_le hlt)
    rw [hm] at hm'
    cases hm'
  have hendless {n m k : Nat} {reference : Text} (hend : chain es start (n + 1) = none)
      (hmk : m < k) (hm : chain es start m = some reference)
      (hk : chain es start k = some reference) : False := by
    have hsome : (chain es start k).isSome = true := by rw [hk]; rfl
    have hn := isSome_chain_of_repeated hmk hsome (hm.trans hk.symm) (n + 1)
    rw [hend] at hn
    cases hn
  obtain ⟨n, r, hn, hend, rfl⟩ | ⟨m, n, r, hmn, hm, hn, hfirst, rfl⟩ := h.stops_or_repeats
  · obtain ⟨n', r', hn', hend', rfl⟩ | ⟨m', k', r', hmk', hm', hk', -, rfl⟩ :=
      h'.stops_or_repeats
    · obtain rfl : n = n' := Nat.le_antisymm (hlast hend' hn) (hlast hend hn')
      obtain rfl : r = r' := Option.some.inj (hn.symm.trans hn')
      rfl
    · exact (hendless hend hmk' hm' hk').elim
  · obtain ⟨n', r', hn', hend', rfl⟩ | ⟨m', n', r', hmn', hm', hn', hfirst', rfl⟩ :=
      h'.stops_or_repeats
    · exact (hendless hend' hmn hm hn).elim
    · obtain hlt | rfl | hlt := Nat.lt_trichotomy n n'
      · exact absurd (hm.trans hn.symm) (hfirst' m n hmn hlt)
      · obtain rfl : r = r' := Option.some.inj (hn.symm.trans hn')
        rfl
      · exact absurd (hm'.trans hn'.symm) (hfirst m' n' hmn' hlt)

/-! ### Following a chain -/

/-- One step of following a chain: the start of the reference is looked at first, then whether it
was seen, then its schema. -/
theorem follow_succ (hview : registry.view = .map es) (fuel : Nat) (seen : List Text)
    (reference : Text) :
    follow registry (fuel + 1) seen (.str reference) = (do
      let name ← schemaName reference
      if seen.contains reference then .error (.circularReference reference)
      else match lookup name es with
        | none => .error (.danglingReference reference)
        | some schema =>
          match onlyReference? schema with
          | some next => follow registry fuel (reference :: seen) next
          | none => .ok schema) := by
  rw [follow, Value.asText, Result.ok_bind]
  refine congrArg _ (funext fun name => ?_)
  have hget : registry.get? name = lookup name es := Value.get?_of_view hview name
  have hschema : schemaNamed registry reference name =
      match lookup name es with
      | none => .error (.danglingReference reference)
      | some schema => .ok schema := by
    rw [schemaNamed, Value.has_of_view hview, hget, Result.ok_bind]
    cases hlookup : lookup name es with
    | none => rfl
    | some schema => exact Value.demand_eq_ok_iff.mpr (hget.trans hlookup)
  rw [hschema]
  cases lookup name es with
  | none => rfl
  | some schema => rfl

/-- Following a chain from one of its references on gives its end, given the references in front,
all different. -/
theorem chainEnds_follow (hview : registry.view = .map es)
    (htexts : ∀ name schema target, lookup name es = some schema →
      onlyReference? schema = some target → ∃ next, target = .str next)
    {fuel : Nat} {seen : List Text} (hchain : chain es start n = some reference)
    (hseen : ∀ r, r ∈ seen ↔ ∃ i < n, chain es start i = some r)
    (hdistinct : ∀ i j, i < j → j < n → chain es start i ≠ chain es start j)
    (hfuel : fuel + n = es.length + 2) :
    ChainEnds es start (follow registry fuel seen (.str reference)) := by
  have hbound : n ≤ es.length := le_length_of_distinct (hchain ▸ rfl) hdistinct
  induction fuel generalizing n seen reference with
  | zero => omega
  | succ fuel ih =>
      rw [follow_succ hview]
      by_cases hstart : schemaReferenceStart <+: reference
      swap
      · rw [schemaName_eq_error hstart]
        exact .unsupported hchain hstart
      obtain ⟨name, rfl⟩ := hstart
      rw [schemaName_append, Result.ok_bind]
      by_cases hagain : schemaReferenceStart ++ name ∈ seen
      · obtain ⟨m, hmn, hback⟩ := (hseen _).mp hagain
        rw [if_pos (List.contains_iff_mem.mpr hagain)]
        exact .circular hmn hback hchain hdistinct
      rw [if_neg fun h => hagain (List.contains_iff_mem.mp h)]
      cases hschema : lookup name es with
      | none => exact .dangling hchain hschema
      | some schema =>
          dsimp only
          cases hown : onlyReference? schema with
          | none => exact .schema hchain hschema hown
          | some target =>
              obtain ⟨next, rfl⟩ := htexts name schema target hschema hown
              have hnext : chain es start (n + 1) = some next := by
                rw [chain, hchain, Option.bind_some]
                exact next?_eq_some_iff.mpr ⟨name, schema, rfl, hschema, hown⟩
              have hdistinct' : ∀ i j, i < j → j < n + 1 →
                  chain es start i ≠ chain es start j := by
                intro i j hij hj
                obtain hj | rfl := Nat.lt_succ_iff_lt_or_eq.mp hj
                · exact hdistinct i j hij hj
                · exact fun heq => hagain ((hseen _).mpr ⟨i, hij, heq.trans hchain⟩)
              have hseen' : ∀ r, r ∈ (schemaReferenceStart ++ name) :: seen ↔
                  ∃ i < n + 1, chain es start i = some r := by
                intro r
                rw [List.mem_cons, hseen]
                constructor
                · rintro (rfl | ⟨i, hi, hr⟩)
                  · exact ⟨n, Nat.lt_succ_self n, hchain⟩
                  · exact ⟨i, Nat.lt_succ_of_lt hi, hr⟩
                · rintro ⟨i, hi, hr⟩
                  obtain hi | rfl := Nat.lt_succ_iff_lt_or_eq.mp hi
                  · exact .inr ⟨i, hi, hr⟩
                  · exact .inl (Option.some.inj (hr.symm.trans hchain))
              exact ih hnext hseen' hdistinct' (by omega)
                (le_length_of_distinct (hnext ▸ rfl) hdistinct')

/-! ### Resolving references -/

/-- Resolving a reference is following its chain with fuel for one step more than the registry has
entries, and one to spare. -/
theorem resolve_eq_follow (hregistry : schemas document = .ok registry)
    (hview : registry.view = .map es) (start : Text) :
    resolve document (.str start) = follow registry (es.length + 2) [] (.str start) := by
  have hcount : schemaCount registry = es.length := by simp [schemaCount, hview]
  rw [resolve, Value.asText, Result.ok_bind, hregistry, Result.ok_bind, hcount]
  cases hname : schemaName start with
  | ok name => rfl
  | error e =>
      rw [follow_succ hview, hname]
      rfl

/-- **Resolving a reference gives the end of its chain.** In a registry whose schemas that are
nothing but references hold texts, resolving always ends, with what the chain of the reference ends
with: with its first schema that is no reference, or with the error of its first reference that is
not supported, that leads to no schema, or that comes up again. The last is the outcome exactly if
a reference comes up again on the chain, and a schema that is given is never a mere reference. -/
theorem resolve_eq_iff (hregistry : schemas document = .ok registry)
    (hview : registry.view = .map es)
    (htexts : ∀ name schema target, lookup name es = some schema →
      onlyReference? schema = some target → ∃ next, target = .str next)
    (start : Text) :
    (∀ outcome, resolve document (.str start) = outcome ↔ ChainEnds es start outcome) ∧
      (∀ schema target, resolve document (.str start) = .ok schema →
        schema.view ≠ .map [(.str "$ref", target)]) ∧
      ((∃ reference, resolve document (.str start) = .error (.circularReference reference)) ↔
        ∃ m n, m < n ∧ (chain es start n).isSome = true ∧
          chain es start m = chain es start n) := by
  have hends : ChainEnds es start (resolve document (.str start)) := by
    rw [resolve_eq_follow hregistry hview]
    refine chainEnds_follow hview htexts (n := 0) rfl (fun r => ?_) (fun i j _ hj => ?_) rfl
    · simp
    · exact absurd hj (Nat.not_lt_zero j)
  refine ⟨fun outcome => ⟨fun h => h ▸ hends, hends.unique⟩, ?_, ?_, ?_⟩
  · intro schema target h hbare
    rw [h] at hends
    cases hends with
    | schema _ _ hown => simp [onlyReference?, hbare] at hown
  · rintro ⟨reference, h⟩
    rw [h] at hends
    cases hends with
    | @circular m n _ hmn hback hchain _ =>
        exact ⟨m, n, hmn, by rw [hchain]; rfl, hback.trans hchain.symm⟩
  · rintro ⟨m, n, hmn, hsome, hback⟩
    obtain ⟨k, r, -, hend, -⟩ | ⟨_, _, reference, -, -, -, -, h⟩ := hends.stops_or_repeats
    · have hgoes := isSome_chain_of_repeated hmn hsome hback (k + 1)
      rw [hend] at hgoes
      cases hgoes
    · exact ⟨reference, h⟩

/-- The registry of schemas that are nothing but references, given by their names and the names that
they lead to. -/
def aliases (names : List (Text × Text)) : Entries :=
  names.map fun e => (.str e.1, Document.record [("$ref", .str (schemaReferenceStart ++ e.2))])

/-- Such schemas hold texts. -/
theorem exists_text_of_aliases {names : List (Text × Text)} {schema target : Value}
    (hschema : lookup name (aliases names) = some schema)
    (htarget : onlyReference? schema = some target) : ∃ next, target = .str next := by
  obtain ⟨e, -, he⟩ := List.mem_map.mp (Document.mem_of_lookup hschema)
  obtain rfl := (Prod.mk.inj he).2
  exact ⟨schemaReferenceStart ++ e.2, (Option.some.inj htarget).symm⟩

/-- The schemas of dogs: a puppy leads to a dog, and dogs and hounds lead to each other. -/
def dogs : Entries := aliases [("Puppy", "Dog"), ("Dog", "Hound"), ("Hound", "Dog")]

/-- A description that keeps the schemas of dogs. -/
def kennel : Value :=
  Document.record [("components", Document.record [("schemas", .map dogs)])]

/-- From a puppy the chain runs into a circle, and the dog is the first to come up again. -/
theorem chainEnds_dogs : schemas kennel = .ok (.map dogs) ∧
    (∀ name schema target, lookup name dogs = some schema →
      onlyReference? schema = some target → ∃ next, target = .str next) ∧
    ChainEnds dogs "#/components/schemas/Puppy"
      (.error (.circularReference "#/components/schemas/Dog")) := by
  have htexts : ∀ name schema target, lookup name dogs = some schema →
      onlyReference? schema = some target → ∃ next, target = .str next :=
    fun _ _ _ => exists_text_of_aliases
  have hregistry : schemas kennel = .ok (.map dogs) := rfl
  obtain ⟨hends, -, -⟩ := resolve_eq_iff hregistry rfl htexts "#/components/schemas/Puppy"
  exact ⟨hregistry, htexts, (hends _).mp rfl⟩

end ClientScribe.Api
