import ClientScribe.Api.Operation
import Mathlib.Data.List.Induction
import Mathlib.Data.List.Nodup
import Mathlib.Data.List.Perm.Basic

/-!
# Groups of Operations

Operations are put into groups one after the other; the first operation of a group opens it at the
end. So no group stands twice (`nodup_map_fst_grouped`), and the groups are those of the operations
(`mem_map_fst_grouped_iff`), in the order in which they first come up (`grouped_eq`). Every
operation is in one group, once (`flatMap_grouped_perm`).
-/

namespace ClientScribe.Api

variable {op : Operation} {ops : List Operation} {groups : List (Text × List Operation)}
  {group : Text}

/-- An operation whose group is there opens none; any other one opens its group at the end. -/
theorem map_fst_addToGroup (op : Operation) (groups : List (Text × List Operation)) :
    (addToGroup op groups).map Prod.fst =
      if op.group ∈ groups.map Prod.fst then groups.map Prod.fst
      else groups.map Prod.fst ++ [op.group] := by
  induction groups with
  | nil => simp [addToGroup]
  | cons g groups ih =>
      obtain ⟨name, members⟩ := g
      by_cases hname : name = op.group
      · simp [addToGroup, hname]
      · have hne : op.group ≠ name := Ne.symm hname
        simp only [addToGroup, beq_iff_eq, hname, if_false, List.map_cons, List.mem_cons, hne,
          false_or, ih]
        split <;> rfl

/-- With one more operation the groups are those before and that of the operation. -/
theorem mem_map_fst_addToGroup_iff :
    group ∈ (addToGroup op groups).map Prod.fst ↔
      group ∈ groups.map Prod.fst ∨ op.group = group := by
  rw [map_fst_addToGroup]
  split
  · next hmem => exact ⟨.inl, fun h => h.elim id fun heq => heq ▸ hmem⟩
  · rw [List.mem_append, List.mem_singleton, eq_comm (a := group)]

/-- One more operation makes no group stand twice. -/
theorem nodup_map_fst_addToGroup (h : (groups.map Prod.fst).Nodup) :
    ((addToGroup op groups).map Prod.fst).Nodup := by
  rw [map_fst_addToGroup]
  split
  · exact h
  · next hmem => exact List.nodup_append_comm.mp (List.nodup_cons.mpr ⟨hmem, h⟩)

/-- The groups of operations are the groups that they have. -/
theorem mem_map_fst_grouped_iff :
    group ∈ (grouped ops).map Prod.fst ↔ ∃ op ∈ ops, op.group = group := by
  have hfold (acc : List (Text × List Operation)) :
      group ∈ (ops.foldl (fun groups op => addToGroup op groups) acc).map Prod.fst ↔
        group ∈ acc.map Prod.fst ∨ ∃ op ∈ ops, op.group = group := by
    induction ops generalizing acc with
    | nil => simp
    | cons op ops ih =>
        rw [List.foldl_cons, ih, mem_map_fst_addToGroup_iff]
        simp [or_assoc]
  rw [grouped, hfold]
  simp

/-- No group of operations stands twice. -/
theorem nodup_map_fst_grouped (ops : List Operation) : ((grouped ops).map Prod.fst).Nodup := by
  have hfold (acc : List (Text × List Operation)) (hacc : (acc.map Prod.fst).Nodup) :
      ((ops.foldl (fun groups op => addToGroup op groups) acc).map Prod.fst).Nodup := by
    induction ops generalizing acc with
    | nil => exact hacc
    | cons op ops ih => exact ih _ (nodup_map_fst_addToGroup hacc)
  exact hfold [] List.nodup_nil

/-- One more operation stands behind the members of its group. -/
theorem lookup_addToGroup (op : Operation) (groups : List (Text × List Operation)) (group : Text) :
    (addToGroup op groups).lookup group =
      if op.group = group then some ((groups.lookup group).getD [] ++ [op])
      else groups.lookup group := by
  induction groups with
  | nil =>
      by_cases hop : op.group = group
      · simp [addToGroup, hop]
      · simp [addToGroup, hop, List.lookup_cons, beq_false_of_ne (Ne.symm hop)]
  | cons g groups ih =>
      obtain ⟨name, members⟩ := g
      by_cases hname : name = op.group
      · subst hname
        by_cases hop : op.group = group
        · simp [addToGroup, hop]
        · simp [addToGroup, hop, List.lookup_cons, beq_false_of_ne (Ne.symm hop)]
      · have hadd : addToGroup op ((name, members) :: groups) =
            (name, members) :: addToGroup op groups := by simp [addToGroup, hname]
        rw [hadd, List.lookup_cons, List.lookup_cons]
        by_cases hgroup : group = name
        · have hop : op.group ≠ group := fun h => hname (hgroup ▸ h.symm)
          rw [beq_iff_eq.mpr hgroup, if_neg hop]
        · rw [beq_false_of_ne hgroup]
          exact ih

/-- The last operation is put into the groups of those before it. -/
theorem grouped_append_singleton (ops : List Operation) (op : Operation) :
    grouped (ops ++ [op]) = addToGroup op (grouped ops) :=
  List.foldl_append

/-- **The members of a group are the operations that have it**, in order. -/
theorem lookup_grouped (ops : List Operation) (group : Text) :
    (grouped ops).lookup group =
      if (ops.filter (·.group == group)).isEmpty then none
      else some (ops.filter (·.group == group)) := by
  induction ops using List.reverseRecOn with
  | nil => rfl
  | append_singleton ops op ih =>
      rw [grouped_append_singleton, lookup_addToGroup, ih, List.filter_append]
      by_cases hop : op.group = group
      · cases ops.filter (·.group == group) <;> simp [hop]
      · simp [hop]

/-! ### The groups as a partition -/

/-- The groups come in the order in which the operations first have them. -/
theorem map_fst_grouped (ops : List Operation) :
    (grouped ops).map Prod.fst = (ops.map Operation.group).eraseDups := by
  induction ops using List.reverseRecOn with
  | nil => rfl
  | append_singleton ops op ih =>
      simp only [grouped_append_singleton, map_fst_addToGroup, ih, List.map_append, List.map_cons,
        List.map_nil, List.eraseDups_append, List.cons_removeAll, List.nil_removeAll,
        List.contains_eq_mem, decide_eq_false_iff_not, List.mem_eraseDups]
      by_cases hop : op.group ∈ ops.map Operation.group
      · rw [if_pos hop, if_neg (not_not_intro hop), List.eraseDups_nil, List.append_nil]
      · rw [if_neg hop, if_pos hop]
        rfl

/-- What stands in a group are the operations that have it, and there is one. -/
theorem members_of_mem_grouped {pair : Text × List Operation} (h : pair ∈ grouped ops) :
    pair.2 = ops.filter (·.group == pair.1) ∧ pair.2 ≠ [] := by
  obtain ⟨before, behind, hsplit⟩ := List.append_of_mem h
  have hnodup := nodup_map_fst_grouped ops
  rw [hsplit, List.map_append, List.map_cons, List.nodup_append] at hnodup
  have hlookup : (grouped ops).lookup pair.1 = some pair.2 := by
    refine List.lookup_eq_some_iff.mpr ⟨before, behind, hsplit, fun other hother => ?_⟩
    rw [bne_iff_ne]
    exact (hnodup.2.2 _ (List.mem_map_of_mem hother) _ List.mem_cons_self).symm
  rw [lookup_grouped] at hlookup
  split at hlookup
  · cases hlookup
  · next hne =>
    have hmembers := Option.some.inj hlookup
    exact ⟨hmembers.symm, fun hnil => hne (List.isEmpty_iff.mpr (hmembers.trans hnil))⟩

/-- **The groups of operations**: the groups that the operations have, each once and in the order in
which they first come up, with the operations that have them in the order of all. -/
theorem grouped_eq (ops : List Operation) :
    grouped ops = (ops.map Operation.group).eraseDups.map fun group =>
      (group, ops.filter (·.group == group)) := by
  rw [← map_fst_grouped, List.map_map]
  conv_lhs => rw [← List.map_id (grouped ops)]
  exact List.map_congr_left fun pair hpair => Prod.ext rfl (members_of_mem_grouped hpair).1

/-- One more operation is put into one group. -/
theorem flatMap_addToGroup_perm (op : Operation) (groups : List (Text × List Operation)) :
    ((addToGroup op groups).flatMap Prod.snd).Perm (groups.flatMap Prod.snd ++ [op]) := by
  induction groups with
  | nil => exact .refl _
  | cons g groups ih =>
      obtain ⟨name, members⟩ := g
      by_cases hname : name = op.group
      · have hadd : addToGroup op ((name, members) :: groups) =
            (name, members ++ [op]) :: groups := by simp [addToGroup, hname]
        rw [hadd, List.flatMap_cons, List.flatMap_cons, List.append_assoc, List.append_assoc]
        exact List.perm_append_comm.append_left members
      · have hadd : addToGroup op ((name, members) :: groups) =
            (name, members) :: addToGroup op groups := by simp [addToGroup, hname]
        rw [hadd, List.flatMap_cons, List.flatMap_cons, List.append_assoc]
        exact ih.append_left members

/-- **Every operation is in a group, once.** -/
theorem flatMap_grouped_perm (ops : List Operation) :
    ((grouped ops).flatMap Prod.snd).Perm ops := by
  induction ops using List.reverseRecOn with
  | nil => exact .refl _
  | append_singleton ops op ih =>
      rw [grouped_append_singleton]
      exact (flatMap_addToGroup_perm op _).trans (ih.append_right [op])

end ClientScribe.Api
