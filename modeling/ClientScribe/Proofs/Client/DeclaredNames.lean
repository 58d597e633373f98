import ClientScribe.Proofs.Client.Declared
import ClientScribe.Proofs.Client.NamedSchemas

/-!
# Every Name Is Declared Once

The registry of definitions is a mapping: it starts as the schemas of the description, no two of
which have one key, and all that an operation does to it is to put the definition of a body under a
text. So what holds of the schemas and is kept by putting holds of the registry
(`definitions_induction`), and in particular no two definitions have one key. A declaration has the
key of its definition, and a definition has one declaration at most
(`map_name_of_declarations`). So no two declarations have one name (`names_of_typesView`).
-/

namespace ClientScribe

namespace Document

variable {es : Entries} {k : Text} {v : Value}

/-- No two entries have one key. -/
def KeysApart (es : Entries) : Prop := es.Pairwise fun e f => e.1.same f.1 = false

instance : Decidable (KeysApart es) :=
  inferInstanceAs (Decidable (es.Pairwise fun e f => e.1.same f.1 = false))

/-- All keys are texts. -/
def HaveTextKeys (es : Entries) : Prop := ∀ e ∈ es, ∃ s, e.1 = .str s

/-- Putting a value brings no other key than the text it is put under. -/
theorem fst_of_mem_put {e : Value × Value} (he : e ∈ put (.str k) v es) :
    e.1 = .str k ∨ ∃ f ∈ es, f.1 = e.1 := by
  induction es with
  | nil =>
      obtain rfl := List.mem_singleton.mp he
      exact .inl rfl
  | cons head es ih =>
      obtain ⟨key, u⟩ := head
      rw [put] at he
      split at he
      · obtain rfl | he := List.mem_cons.mp he
        · exact .inr ⟨_, List.mem_cons_self, rfl⟩
        · exact .inr ⟨e, List.mem_cons_of_mem _ he, rfl⟩
      · obtain rfl | he := List.mem_cons.mp he
        · exact .inr ⟨_, List.mem_cons_self, rfl⟩
        · refine (ih he).imp_right ?_
          rintro ⟨f, hf, hkey⟩
          exact ⟨f, List.mem_cons_of_mem _ hf, hkey⟩

/-- Putting a value brings no other value. -/
theorem snd_of_mem_put {e : Value × Value} (he : e ∈ put (.str k) v es) : e.2 = v ∨ e ∈ es := by
  induction es with
  | nil =>
      obtain rfl := List.mem_singleton.mp he
      exact .inl rfl
  | cons head es ih =>
      obtain ⟨key, u⟩ := head
      rw [put] at he
      split at he
      · obtain rfl | he := List.mem_cons.mp he
        · exact .inl rfl
        · exact .inr (List.mem_cons_of_mem _ he)
      · obtain rfl | he := List.mem_cons.mp he
        · exact .inr List.mem_cons_self
        · exact (ih he).imp_right (List.mem_cons_of_mem _)

/-- Putting a value under a text leaves the keys apart. -/
theorem KeysApart.put (h : KeysApart es) : KeysApart (put (.str k) v es) := by
  induction es with
  | nil => exact List.pairwise_singleton _ _
  | cons head es ih =>
      obtain ⟨key, u⟩ := head
      obtain ⟨hhead, hrest⟩ := List.pairwise_cons.mp h
      rw [Document.put]
      split
      · exact List.pairwise_cons.mpr ⟨hhead, hrest⟩
      · next hsame =>
        refine List.pairwise_cons.mpr ⟨fun e he => ?_, ih hrest⟩
        obtain hkey | ⟨f, hf, hkey⟩ := fst_of_mem_put he
        · rw [hkey]
          exact Bool.eq_false_iff.mpr hsame
        · rw [← hkey]
          exact hhead f hf

/-- Putting a value under a text leaves the keys texts. -/
theorem HaveTextKeys.put (h : HaveTextKeys es) : HaveTextKeys (put (.str k) v es) := by
  intro e he
  obtain hkey | ⟨f, hf, hkey⟩ := fst_of_mem_put he
  · exact ⟨k, hkey⟩
  · exact hkey ▸ h f hf

/-- Texts that are apart as keys are different. -/
theorem KeysApart.nodup_map_fst (h : KeysApart es) (htext : HaveTextKeys es) :
    (es.map Prod.fst).Nodup := by
  refine List.pairwise_map.mpr (h.imp_of_mem fun {e f} he hf hsame heq => ?_)
  obtain ⟨s, hs⟩ := htext f hf
  rw [heq, hs, Value.same_str, Value.isText_str, beq_self_eq_true] at hsame
  cases hsame

end Document

namespace Client

open Api (Operation)
open Document (Value Entries put KeysApart HaveTextKeys)

variable {document : Value} {ops : List Operation} {defs acc : Entries} {options : Options}

/-! ### The registry -/

/-- What is kept by putting the definition of a body under a text is kept by a run over bodies. -/
theorem foldlM_addBody_induction {P : Entries → Prop} {cs : List Body}
    (hput : ∀ c ∈ cs, ∀ own, ownDefinition? c.schema = some own →
      ∀ es (k : Text), P es → P (put (.str k) own es))
    (hacc : P acc)
    (h : cs.foldlM (fun acc c => (addBody acc c.schema c.name).result) acc = .ok defs) :
    P defs := by
  induction cs generalizing acc with
  | nil =>
      obtain rfl := Except.ok.inj h
      exact hacc
  | cons c cs ih =>
      simp only [List.foldlM_cons, Result.bind_eq_ok_iff] at h
      obtain ⟨next, hnext, h⟩ := h
      refine ih (fun d hd => hput d (List.mem_cons_of_mem _ hd)) ?_ h
      have hown := hput c List.mem_cons_self
      obtain ⟨-, rfl⟩ | ⟨hobject, rfl⟩ | ⟨items, own, helements, -, ⟨-, rfl⟩ | ⟨-, rfl⟩⟩ :=
        result_addBody_cases hnext
      · exact hacc
      · exact hown _ (ownDefinition?_of_isInlineObject hobject) _ _ hacc
      · exact hacc
      · exact hown _ (ownDefinition?_of_inlineElements? helements) _ _ hacc

/-- **The registry by induction.** What holds of the schemas of a description and is kept by putting
the definition of a body under a text holds of the registry. -/
theorem definitions_induction {P : Entries → Prop}
    (hput : ∀ op ∈ ops, ∀ b, bodies document op = .ok b → ∀ c ∈ b.toList, ∀ own,
      ownDefinition? c.schema = some own → ∀ es (k : Text), P es → P (put (.str k) own es))
    (hnamed : ∀ named, (Api.schemas document >>= Value.asEntries) = .ok named → P named)
    (h : (definitions document ops).result = .ok defs) : P defs := by
  obtain ⟨named, hschemas, hfold⟩ := result_definitions_eq_ok_iff.mp h
  obtain ⟨all, hall, hrun⟩ := exists_foldlM_addBody hfold
  refine foldlM_addBody_induction (fun c hc => ?_) (hnamed named hschemas) hrun
  obtain ⟨b, hb, hc⟩ := List.mem_flatMap.mp hc
  obtain ⟨op, hop, hbodies⟩ := Result.exists_of_mem_mapM hall hb
  exact hput op hop b hbodies c hc

/-! ### The declarations -/

/-- **The names of declarations** are the keys of the definitions that are declared, in order. -/
theorem map_name_of_declarations {declared : List Declaration}
    (h : (declarations defs).result = .ok declared) :
    declared.map Declaration.name = (defs.filter fun e => isDeclared e.2).map Prod.fst := by
  simp only [declarations, Logged.result_bind, Logged.result_mapM, Logged.result_pure,
    Result.bind_eq_ok_iff, Except.ok.injEq] at h
  obtain ⟨all, hall, rfl⟩ := h
  have hnamed := Result.mapM_eq_ok_iff.mp hall
  clear hall
  induction hnamed with
  | nil => rfl
  | @cons e declared? defs all hdeclaration _ ih =>
      have hname := name_of_result_declaration hdeclaration
      split at hname
      · next hdeclared =>
        obtain ⟨d, rfl, hd⟩ := Option.map_eq_some_iff.mp hname
        have hfilter : (e :: defs).filter (fun e => isDeclared e.2) =
            e :: defs.filter (fun e => isDeclared e.2) := List.filter_cons_of_pos hdeclared
        rw [hfilter, List.filterMap_cons_some (id_eq (some d)), List.map_cons, List.map_cons, ih,
          hd]
      · next hdeclared =>
        obtain rfl := Option.map_eq_none_iff.mp hname
        have hfilter : (e :: defs).filter (fun e => isDeclared e.2) =
            defs.filter (fun e => isDeclared e.2) := List.filter_cons_of_neg hdeclared
        rw [hfilter, List.filterMap_cons_none (id_eq none), ih]

/-- **Every name is declared once.** If no two schemas of a description have one key, no two
declarations have one name; and if the keys are texts, so are the names, all different. -/
theorem names_of_typesView {named : Entries} {view : TypesView}
    (hschemas : (Api.schemas document >>= Value.asEntries) = .ok named) (hkeys : KeysApart named)
    (h : (typesView document ops options).result = .ok view) :
    (view.declarations.map Declaration.name).Pairwise (fun a b => a.same b = false) ∧
      (HaveTextKeys named → (∀ d ∈ view.declarations, ∃ name, d.name = .str name) ∧
        (view.declarations.map Declaration.name).Nodup) := by
  simp only [typesView, Logged.result_bind, Logged.result_pure, Result.bind_eq_ok_iff,
    Except.ok.injEq] at h
  obtain ⟨defs, hdefs, declared, hdeclared, rfl⟩ := h
  have hapart : KeysApart defs := by
    refine definitions_induction (fun _ _ _ _ _ _ _ _ es k hes => KeysApart.put hes)
      (fun named' hnamed' => ?_) hdefs
    exact Except.ok.inj (hschemas.symm.trans hnamed') ▸ hkeys
  have hnames := map_name_of_declarations hdeclared
  have hsublist : (defs.filter fun e => isDeclared e.2).Sublist defs := List.filter_sublist
  refine ⟨?_, fun htext => ?_⟩
  · rw [hnames]
    exact List.pairwise_map.mpr (hapart.sublist hsublist)
  · have htexts : HaveTextKeys defs := by
      refine definitions_induction (fun _ _ _ _ _ _ _ _ es k hes => HaveTextKeys.put hes)
        (fun named' hnamed' => ?_) hdefs
      exact Except.ok.inj (hschemas.symm.trans hnamed') ▸ htext
    refine ⟨fun d hd => ?_, ?_⟩
    · have hmem : d.name ∈ declared.map Declaration.name := List.mem_map_of_mem hd
      rw [hnames] at hmem
      obtain ⟨e, he, hname⟩ := List.mem_map.mp hmem
      exact hname ▸ htexts e (List.mem_of_mem_filter he)
    · rw [hnames]
      exact (hapart.nodup_map_fst htexts).sublist (hsublist.map Prod.fst)

end Client

end ClientScribe
