import ClientScribe.Proofs.Client.Descriptor
import ClientScribe.Proofs.Script.Printed

/-!
# What The Descriptor's Literal Says

The descriptor is written as a literal of the client's language. If what the description says about
its service are values of JSON, this literal says the same exactly if these values are plain
(`exists_read_view_iff`). A quote inside one of their texts is neither escaped nor escaped again
when the quotes around the texts change, so that a single one ends its text: the literal of a
description with an apostrophe is none (`exists_read_view_eq_none`).
-/

namespace ClientScribe.Client

open Document (Value record)
open Script (Denotes IsJson isPlain isPlain_record_iff)

/-- The fields of a description that its descriptor shows, null where there is none. -/
def shownFields (document : Value) : Result (List (Text × Value)) := do
  let own ← shownKeys.mapM fun k => do return (k, ← document.field k)
  let security ← (← Api.components document).field "securitySchemes"
  return own ++ [(Text.ofString "securitySchemes", security)]

/-- The fields that are not null. -/
def givenFields (fields : List (Text × Value)) : List (Text × Value) :=
  fields.filter (!·.2.isNull)

variable {document : Value} {fields : List (Text × Value)}

/-- The descriptor is the mapping of the shown fields that are not null. -/
theorem descriptor_eq (document : Value) :
    descriptor document =
      shownFields document >>= fun fields => .ok (record (givenFields fields)) := by
  simp only [descriptor, shownFields, shownKeys, givenFields, List.map_cons, List.map_nil,
    List.mapM_cons, List.mapM_nil, bind_assoc, pure_bind, List.cons_append, List.nil_append]
  rfl

/-- The keys of the shown fields are always the same. -/
theorem map_fst_of_shownFields (h : shownFields document = .ok fields) :
    fields.map (·.1) = shownKeys ++ [Text.ofString "securitySchemes"] := by
  obtain ⟨own, hown, h⟩ := Result.bind_eq_ok_iff.mp h
  obtain ⟨components, -, h⟩ := Result.bind_eq_ok_iff.mp h
  obtain ⟨security, -, h⟩ := Result.bind_eq_ok_iff.mp h
  obtain rfl := Except.ok.inj h
  have hkeys : own.map (·.1) = shownKeys.map id := by
    refine Result.map_eq_map_of_mapM hown fun k _ e he => ?_
    obtain ⟨v, -, he⟩ := Result.bind_eq_ok_iff.mp he
    exact congrArg Prod.fst (Except.ok.inj he).symm
  rw [List.map_append, hkeys, List.map_id]
  rfl

/-- Every key that a descriptor may have is plain. -/
theorem isPlainKey_of_shownFields (h : shownFields document = .ok fields) :
    ∀ f ∈ fields, Script.isPlainKey f.1 = true := by
  have hplain : ∀ k ∈ shownKeys ++ [Text.ofString "securitySchemes"],
      Script.isPlainKey k = true := by decide
  rw [← map_fst_of_shownFields h] at hplain
  exact fun f hf => hplain f.1 (List.mem_map_of_mem hf)

/-- A descriptor of values of JSON is one. -/
theorem isJson_givenFields (h : shownFields document = .ok fields)
    (hjson : ∀ f ∈ fields, IsJson f.2) : IsJson (record (givenFields fields)) := by
  have hkeys : ((fields.map (·.1)).map Text.units).Nodup := by
    rw [map_fst_of_shownFields h]
    decide
  rw [List.map_map] at hkeys
  exact .map (hkeys.sublist (List.filter_sublist.map _)) fun f hf =>
    hjson f (List.mem_of_mem_filter hf)

/-- A descriptor is plain exactly if what it shows is. -/
theorem isPlain_givenFields (h : shownFields document = .ok fields) :
    isPlain (record (givenFields fields)) = true ↔ ∀ f ∈ fields, isPlain f.2 = true := by
  rw [isPlain_record_iff]
  constructor
  · intro hplain f hf
    cases hnull : f.2.isNull with
    | true =>
        obtain ⟨k, v⟩ := f
        cases v <;> first | rfl | cases hnull
    | false => exact (hplain f (List.mem_filter.mpr ⟨hf, by rw [hnull]; rfl⟩)).2
  · intro hplain f hf
    have hf := List.mem_of_mem_filter hf
    exact ⟨isPlainKey_of_shownFields h f hf, hplain f hf⟩

/-- **The literal of the descriptor says what the description says exactly if it says nothing with a
quote.** Where the description's fields are values of JSON, the literal can be read, and what is
read is the mapping of the fields that are not null with every text unchanged, exactly if no text in
them, keys included, has a quote of either kind and no key is `__proto__`. -/
theorem exists_read_view_iff {options : Options} {view : DescriptorView}
    (h : descriptorView document options = .ok view) :
    ∃ fields, shownFields document = .ok fields ∧ ((∀ f ∈ fields, IsJson f.2) →
      ((∃ d, Script.read view.view = some d ∧ Denotes (record (givenFields fields)) d) ↔
        ∀ f ∈ fields, isPlain f.2 = true)) := by
  obtain ⟨v, hv, h⟩ := Result.bind_eq_ok_iff.mp h
  obtain ⟨literal, hliteral, h⟩ := Result.bind_eq_ok_iff.mp h
  obtain rfl := Except.ok.inj h
  rw [descriptor_eq] at hv
  obtain ⟨fields, hfields, hv⟩ := Result.bind_eq_ok_iff.mp hv
  obtain rfl := Except.ok.inj hv
  refine ⟨fields, hfields, fun hjson => ?_⟩
  exact (Script.exists_read_iff (isJson_givenFields hfields hjson) hliteral).trans
    (isPlain_givenFields hfields)

/-- A description of a service with one security scheme. -/
def keyed (description : Text) : Value :=
  record [("host", .str "api.test"), ("components", record [("securitySchemes",
    record [("key", record [("type", .str "apiKey"), ("description", .str description)])])])]

/-- What the description says about its service. -/
def shownOfKeyed (description : Text) : List (Text × Value) :=
  [("host", .str "api.test"), ("schemes", .null), ("basePath", .null), ("contentTypes", .null),
    ("accepts", .null), ("securitySchemes",
      record [("key", record [("type", .str "apiKey"), ("description", .str description)])])]

/-- What is shown of such a description can be printed as a literal. -/
theorem isJson_shownOfKeyed (description : Text) : ∀ f ∈ shownOfKeyed description, IsJson f.2 := by
  have hscheme : IsJson (record [("type", .str "apiKey"), ("description", .str description)]) := by
    have hkeys : (["type", "description"].map fun k => Text.units (Text.ofString k)).Nodup := by
      decide
    refine .map hkeys fun f hf => ?_
    simp only [List.mem_cons, List.not_mem_nil, or_false] at hf
    obtain rfl | rfl := hf <;> exact .str _
  have hschemes : IsJson (record [("key",
      record [("type", .str "apiKey"), ("description", .str description)])]) :=
    .map (List.nodup_singleton _) fun f hf => List.mem_singleton.mp hf ▸ hscheme
  intro f hf
  simp only [shownOfKeyed, List.mem_cons, List.not_mem_nil, or_false] at hf
  obtain rfl | rfl | rfl | rfl | rfl | rfl := hf
  · exact .str _
  · exact .null
  · exact .null
  · exact .null
  · exact .null
  · exact hschemes

/-- The literal of a description without quotes says what the description says. -/
theorem exists_read_view_keyed : ∃ view,
    descriptorView (keyed "Key of the user") (.usual "out") = .ok view ∧
      ∃ d, Script.read view.view = some d ∧
        Denotes (record (givenFields (shownOfKeyed "Key of the user"))) d := by
  have hview : descriptorView (keyed "Key of the user") (.usual "out") = .ok _ := rfl
  obtain ⟨fields, hfields, hiff⟩ := exists_read_view_iff hview
  obtain rfl : fields = shownOfKeyed "Key of the user" := (Except.ok.inj hfields).symm
  exact ⟨_, hview, (hiff (isJson_shownOfKeyed _)).mpr (by decide)⟩

/-- **A literal that cannot be read.** All fields of the description are values of JSON and the
descriptor is made, but the apostrophe in one of them ends its text. -/
theorem exists_read_view_eq_none : ∃ view,
    shownFields (keyed "The user's key") = .ok (shownOfKeyed "The user's key") ∧
      (∀ f ∈ shownOfKeyed "The user's key", IsJson f.2) ∧
      descriptorView (keyed "The user's key") (.usual "out") = .ok view ∧
      Script.read view.view = none :=
  ⟨_, rfl, isJson_shownOfKeyed _, rfl, Option.isNone_iff_eq_none.mp (by decide +kernel)⟩

end ClientScribe.Client
