import ClientScribe.Output.ClientFile
import ClientScribe.Proofs.Client.DeclaredNames
import ClientScribe.Proofs.Template.Declaring

/-!
# Names in the File of Types

In the language with types all types of a client stand in one namespace: those that are declared for
the definitions of a description, and the support types, which every client has. The names of the
first come from the description and those of the second are fixed, and nothing keeps them apart. The
declarations are apart among themselves, as no definition has the key of another one, and so the
names of the namespace are all different exactly if no declaration has the name of a support type
(`nodup_typeNames_iff`). For keys that are not all texts the names have to be different as they are
written, too.
-/

namespace ClientScribe.Output

open Api (Operation)
open Client (Declaration)
open Document (Value Entries record KeysApart HaveTextKeys)
open Template (typeKeywords supportTypeNames)

variable {document : Value} {ops : List Operation} {options : Options} {named : Entries}
  {file : ClientFile}

/-- The names of the types that are declared for the definitions of a description, as they are
written. -/
def declaredNames (document : Value) (ops : List Operation) (options : Options) :
    Result (List Text) :=
  (Client.typesView document ops options).result >>= fun view =>
    view.declarations.mapM fun d => d.name.text

/-- A file has a namespace with a declaration for each of these names and with the support types. -/
def DeclaresTypes (names : List Text) (options : Options) (file : ClientFile) : Prop :=
  ∃ text front pieces support rest,
    file.contents = Template.reindent text options.indent.unit ∧
    text = front ++ Text.ofString "namespace api \x7b\n" ++ pieces.flatten ++ support ++
      Text.ofString "\x7d\n" ++ rest ∧
    List.Forall₂ (fun name piece => ∃ comment, ∃ keyword ∈ typeKeywords, ∃ more,
      piece = comment ++ keyword ++ name ++ more) names pieces ∧
    ∀ name ∈ supportTypeNames, ∃ keyword ∈ typeKeywords, keyword ++ name <:+: support

/-- The pieces of declarations have their names as these are written. -/
theorem exists_names_of_isDeclaration {declarations : List Declaration} {pieces : List Text}
    (h : List.Forall₂ Template.IsDeclaration declarations pieces) :
    ∃ names, declarations.mapM (fun d => d.name.text) = .ok names ∧
      List.Forall₂ (fun name piece => ∃ comment, ∃ keyword ∈ typeKeywords, ∃ more,
        piece = comment ++ keyword ++ name ++ more) names pieces := by
  induction h with
  | nil => exact ⟨[], rfl, .nil⟩
  | cons hpiece _ ih =>
      obtain ⟨comment, keyword, hkeyword, name, more, hname, rfl⟩ := hpiece
      obtain ⟨names, hnames, hpieces⟩ := ih
      refine ⟨name :: names, ?_, .cons ⟨comment, keyword, hkeyword, more, rfl⟩ hpieces⟩
      simp [List.mapM_cons, hname, hnames]

/-- The file of types declares what its view has, and the support types. -/
theorem exists_declaresTypes (htyped : options.typed = true)
    (h : (typesFile document ops options).result = .ok file) :
    ∃ view names, (Client.typesView document ops options).result = .ok view ∧
      view.declarations.mapM (fun d => d.name.text) = .ok names ∧
      DeclaresTypes names options file := by
  simp only [typesFile, Logged.result_bind, Logged.result_liftM, Logged.result_pure,
    Result.bind_eq_ok_iff, Except.ok.injEq] at h
  obtain ⟨view, hview, contents, hcontents, rfl⟩ := h
  simp only [written, Template.render, Client.TypesView.toValue, Template.scopeOf_record,
    Result.bind_eq_ok_iff, Result.pure_def, Except.ok.injEq] at hcontents
  obtain ⟨text, ⟨_, rfl, htext⟩, rfl⟩ := hcontents
  have htypes : view.typed = true := by
    simp only [Client.typesView, Logged.result_bind, Logged.result_pure, Result.bind_eq_ok_iff,
      Except.ok.injEq] at hview
    obtain ⟨_, -, _, -, rfl⟩ := hview
    exact htyped
  rw [htypes] at htext
  obtain ⟨front, pieces, support, rest, hcut, hpieces, hsupport⟩ :=
    Template.exists_pieces_of_types rfl rfl htext
  obtain ⟨names, hnames, hpieces⟩ := exists_names_of_isDeclaration hpieces
  exact ⟨view, names, hview, hnames, text, front, pieces, support, rest, rfl, hcut, hpieces,
    fun name hname => Template.exists_keyword_of_mem_supportTypeNames hname hsupport⟩

/-- Names that are different texts are written as different ones. -/
theorem nodup_names_of_text {declarations : List Declaration} {names : List Text}
    (htext : ∀ d ∈ declarations, ∃ name, d.name = .str name)
    (hdistinct : (declarations.map Declaration.name).Nodup)
    (hnames : declarations.mapM (fun d => d.name.text) = .ok names) : names.Nodup := by
  have hwritten : names.map Value.str = declarations.map Declaration.name := by
    refine Result.map_eq_map_of_mapM hnames fun d hd written hwritten => ?_
    obtain ⟨name, hname⟩ := htext d hd
    rw [hname] at hwritten ⊢
    exact congrArg Value.str (Except.ok.inj hwritten).symm
  rw [← hwritten] at hdistinct
  exact hdistinct.of_map

/-- **When the types of a client have different names.** If no two schemas of a description have one
key, no two declarations have one name, and no two support types have. So the names in the namespace
of the file of types, as they are written, are all different exactly if those of the declarations
are and none of these is the name of a support type. For schemas under texts the former is so. -/
theorem nodup_typeNames_iff (hschemas : (Api.schemas document >>= Value.asEntries) = .ok named)
    (hkeys : KeysApart named) (htyped : options.typed = true)
    (h : (typesFile document ops options).result = .ok file) :
    ∃ view names, (Client.typesView document ops options).result = .ok view ∧
      declaredNames document ops options = .ok names ∧ DeclaresTypes names options file ∧
      (view.declarations.map Declaration.name).Pairwise (fun a b => a.same b = false) ∧
      supportTypeNames.Nodup ∧
      ((names ++ supportTypeNames).Nodup ↔
        names.Nodup ∧ ∀ name ∈ names, name ∉ supportTypeNames) ∧
      (HaveTextKeys named → names.Nodup) := by
  obtain ⟨view, names, hview, hnames, hdeclares⟩ := exists_declaresTypes htyped h
  obtain ⟨hapart, htexts⟩ := Client.names_of_typesView hschemas hkeys hview
  have hdeclared : declaredNames document ops options = .ok names := by
    rw [declaredNames, hview, Result.ok_bind, hnames]
  refine ⟨view, names, hview, hdeclared, hdeclares, hapart, Template.nodup_supportTypeNames, ?_, ?_⟩
  · rw [List.nodup_append]
    constructor
    · rintro ⟨hdistinct, -, hdisjoint⟩
      exact ⟨hdistinct, fun name hname hsupport => hdisjoint name hname name hsupport rfl⟩
    · rintro ⟨hdistinct, hdisjoint⟩
      refine ⟨hdistinct, Template.nodup_supportTypeNames, fun name hname other hother heq => ?_⟩
      exact hdisjoint name hname (heq ▸ hother)
  · intro htextKeys
    obtain ⟨htext, hdistinct⟩ := htexts htextKeys
    exact nodup_names_of_text htext hdistinct hnames

/-- A description that keeps the schema of an object under each of two keys. -/
def twoSchemas (first second : Value) : Value :=
  record [("components", record [("schemas", .map [(first, record [("type", .str "object")]),
    (second, record [("type", .str "object")])])])]

/-- Two schemas are declared beside the support types, each under a name of its own. -/
theorem nodup_typeNames_twoSchemas : ∃ file,
    (typesFile (twoSchemas (.str "Pet") (.str "Owner")) [] (.usual "out")).result = .ok file ∧
      DeclaresTypes ["Pet", "Owner"] (.usual "out") file ∧
      ((["Pet", "Owner"] : List Text) ++ supportTypeNames).Nodup := by
  have hschemas : (Api.schemas (twoSchemas (.str "Pet") (.str "Owner")) >>= Value.asEntries) =
    .ok _ := rfl
  have hkeys : KeysApart [((.str "Pet" : Value), record [("type", .str "object")]),
      (.str "Owner", record [("type", .str "object")])] := by
    simp [KeysApart, Value.same_str, Text.ofString, Text.ofChars]
  have htexts : HaveTextKeys [((.str "Pet" : Value), record [("type", .str "object")]),
      (.str "Owner", record [("type", .str "object")])] := by
    simp [HaveTextKeys]
  have hnames : (declaredNames (twoSchemas (.str "Pet") (.str "Owner")) []
      (.usual "out")).toOption = some (["Pet", "Owner"] : List Text) := by decide +kernel
  obtain ⟨file, hfile⟩ := Result.exists_eq_ok_of_isOk
    (x := (typesFile (twoSchemas (.str "Pet") (.str "Owner")) [] (.usual "out")).result)
    (by decide +kernel)
  obtain ⟨view, names, -, hdeclared, hdeclares, -, -, hiff, hnodup⟩ :=
    nodup_typeNames_iff hschemas hkeys rfl hfile
  rw [hdeclared] at hnames
  obtain rfl : names = ["Pet", "Owner"] := Option.some.inj hnames
  exact ⟨file, hfile, hdeclares, hiff.mpr ⟨hnodup htexts, by decide +kernel⟩⟩

/-- **Names that are declared twice.** A schema may have the name of a support type; and a boolean
and the text that it is written as are two keys, but one name. -/
theorem exists_not_nodup_typeNames :
    (∃ named file,
      (Api.schemas (twoSchemas (.str "Pet") (.str "Response")) >>= Value.asEntries) = .ok named ∧
      KeysApart named ∧ HaveTextKeys named ∧
      (typesFile (twoSchemas (.str "Pet") (.str "Response")) [] (.usual "out")).result = .ok file ∧
      (declaredNames (twoSchemas (.str "Pet") (.str "Response")) [] (.usual "out")).toOption =
        some (["Pet", "Response"] : List Text) ∧
      ¬((["Pet", "Response"] : List Text) ++ supportTypeNames).Nodup) ∧
    ∃ named file,
      (Api.schemas (twoSchemas (.bool true) (.str "True")) >>= Value.asEntries) = .ok named ∧
      KeysApart named ∧
      (typesFile (twoSchemas (.bool true) (.str "True")) [] (.usual "out")).result = .ok file ∧
      (declaredNames (twoSchemas (.bool true) (.str "True")) [] (.usual "out")).toOption =
        some (["True", "True"] : List Text) ∧
      ¬((["True", "True"] : List Text) ++ supportTypeNames).Nodup := by
  constructor
  · obtain ⟨file, hfile⟩ := Result.exists_eq_ok_of_isOk
      (x := (typesFile (twoSchemas (.str "Pet") (.str "Response")) [] (.usual "out")).result)
      (by decide +kernel)
    have hschemas : (Api.schemas (twoSchemas (.str "Pet") (.str "Response")) >>= Value.asEntries) =
      .ok _ := rfl
    refine ⟨_, file, hschemas, ?_, ?_, hfile, ?_, ?_⟩
    · simp [KeysApart, Value.same_str, Text.ofString, Text.ofChars]
    · simp [HaveTextKeys]
    · decide +kernel
    · decide +kernel
  · obtain ⟨file, hfile⟩ := Result.exists_eq_ok_of_isOk
      (x := (typesFile (twoSchemas (.bool true) (.str "True")) [] (.usual "out")).result)
      (by decide +kernel)
    have hschemas : (Api.schemas (twoSchemas (.bool true) (.str "True")) >>= Value.asEntries) =
      .ok _ := rfl
    refine ⟨_, file, hschemas, ?_, hfile, ?_, ?_⟩
    · simp [KeysApart, Value.same_str, Value.isText]
    · decide +kernel
    · decide +kernel

end ClientScribe.Output
