import ClientScribe.Proofs.Identifier.Group
import ClientScribe.Proofs.Output.ValueNames

/-!
# The Name That Actions Call Through

A file of actions imports the functions of its group under the name of the group, and every action
calls its function through this name. The name is made of a tag. It is plain whatever the tag
(`Identifier.hasForm_groupOfTag`), but nothing escapes it if it is a word that the language keeps
for itself, and nothing keeps it apart from what the file declares.

The name of operations without a tag is itself such a word. So the name can be bound exactly if
every operation has a tag that gives it another one, and no operation of the group is called like it
or has a constant that is (`binding_legal_iff`).
-/

namespace ClientScribe

namespace Template

open Client (ActionView)

variable {s : Scope} {text group : Text} {view : ActionView}

/-- The call in an action: the function of the group with the id of the operation. -/
def actionCall (group id arguments : Text) : Text :=
  "    return " ++ group ++ "." ++ id ++ "(" ++ arguments ++ ")\n"

/-- An action calls the function of its operation through the name of the group. -/
theorem exists_call_of_action
    (haction : s.bindings.lookup (Text.ofString "action") = some view.toValue)
    (hgroup : s.bindings.lookup (Text.ofString "group") = some (.str group))
    (h : renderParts s action = .ok text) :
    ∃ id before behind, view.id.text = .ok id ∧
      text = before ++ actionCall group id view.callArguments ++ behind := by
  obtain ⟨constants, _, -, hfunction, rfl⟩ := renderParts_append_eq_ok_iff.mp h
  obtain ⟨_, last, hlast, -, rfl⟩ := renderParts_append_eq_ok_iff.mp hfunction
  obtain ⟨_, close, hclose, -, rfl⟩ := renderParts_append_eq_ok_iff.mp hlast
  obtain ⟨_, answer, hanswer, -, rfl⟩ := renderParts_append_eq_ok_iff.mp hclose
  obtain ⟨head, _, -, hcall, rfl⟩ := renderParts_append_eq_ok_iff.mp hanswer
  obtain ⟨_, hbound, rfl⟩ := exists_append_of_renderParts hcall
  obtain ⟨_, _, hname, hdot, rfl⟩ := renderParts_cons_eq_ok_iff.mp hbound
  obtain ⟨_, hcalled, rfl⟩ := exists_append_of_renderParts hdot
  obtain ⟨id, _, hid, hopen, rfl⟩ := renderParts_cons_eq_ok_iff.mp hcalled
  obtain ⟨_, hpassed, rfl⟩ := exists_append_of_renderParts hopen
  obtain ⟨_, _, harguments, hparenthesis, rfl⟩ := renderParts_cons_eq_ok_iff.mp hpassed
  obtain ⟨rest, -, rfl⟩ := exists_append_of_renderParts hparenthesis
  obtain ⟨v, hv, hid⟩ := renderPart_value_eq_ok_iff.mp hid
  rw [eval_dot haction rfl] at hv
  obtain rfl : view.id = v := Option.some.inj (Except.ok.inj hv)
  rw [eq_of_renderPart_var hgroup hname, renderPart_dot haction rfl rfl harguments]
  refine ⟨id, constants ++ head, rest ++ answer ++ close ++ last, hid, ?_⟩
  simp only [actionCall, List.append_assoc]
  rfl

/-- The piece of an action, with what it declares and with its call. -/
theorem declaresAndCalls_of_renderParts
    (hgroup : s.bindings.lookup (Text.ofString "group") = some (.str group)) (view : ActionView)
    (isLast : Bool) (here : Text)
    (h : renderParts (s.bind "action" view.toValue isLast) action = .ok here) :
    IsAction group view here ∧ ∃ id before behind, view.id.text = .ok id ∧
      here = before ++ actionCall group id view.callArguments ++ behind := by
  have hbound : (s.bind "action" view.toValue isLast).bindings.lookup (Text.ofString "group") =
      some (.str group) := hgroup
  exact ⟨isAction_of_renderParts rfl hbound h, exists_call_of_action rfl hbound h⟩

end Template

namespace Identifier

open Document (Value)

variable {tags : Value} {name : Text}

/-- The first of the tags gives a name of its own, which is no word that the language keeps. -/
def HasNamingTag (tags : Value) : Prop :=
  tags.isTrue = true ∧ ∃ tag, tags.member 0 = .ok (.str tag) ∧ nameInTag tag ≠ [] ∧
    nameInTag tag ∉ reservedWords

/-- Without such a tag the name of a group is a word that the language keeps: the one that the tag
gives, or the name of operations without a tag, which is one too. -/
theorem notMem_reservedWords_iff (h : groupName tags = .ok name) :
    name ∉ reservedWords ↔ HasNamingTag tags := by
  have hdefault : defaultGroup ∈ reservedWords := by decide
  unfold groupName at h
  split at h
  · next htrue =>
    simp only [Result.bind_eq_ok_iff, Result.pure_def, Except.ok.injEq,
      Value.asText_eq_ok_iff] at h
    obtain ⟨_, hv, tag, rfl, rfl⟩ := h
    rw [groupOfTag_eq]
    constructor
    · intro hname
      split at hname
      · exact absurd hdefault hname
      · next hne => exact ⟨htrue, tag, hv, hne, hname⟩
    · rintro ⟨-, tag', htag', hne, hname⟩
      obtain rfl := Value.str.inj (Except.ok.inj (hv.symm.trans htag'))
      rwa [if_neg hne]
  · next hfalse =>
    obtain rfl := Except.ok.inj h
    exact ⟨fun hname => absurd hdefault hname, fun hnaming => absurd hnaming.1 hfalse⟩

end Identifier

namespace Output

open Api (Operation)
open Document (Value record)
open Identifier (HasNamingTag constantName reservedWords)
open Template (actionCall constantText functionHead importText reindent)

variable {document : Value} {options : Options} {group : Text} {ops members : List Operation}
  {ids : List Text} {files : List ClientFile} {file : ClientFile}

/-- A file of actions binds the name of its group with its import, and for every id it declares two
constants and a function and calls the function of the group with this id. -/
def BindsGroup (group : Text) (ids : List Text) (options : Options) (file : ClientFile) : Prop :=
  ∃ text front pieces, file.contents = reindent text options.indent.unit ∧
    text = front ++ "\n" ++ importText group ++ options.statementEnd ++ "\n" ++ pieces.flatten ∧
    List.Forall₂ (fun id piece => (∃ stop type rest,
        piece = "\n" ++ constantText group (startName id) ++ stop ++
          constantText group (constantName id) ++ stop ++ type ++ functionHead id ++ rest) ∧
      ∃ before arguments behind, piece = before ++ actionCall group id arguments ++ behind)
      ids pieces

/-- The file of a group's actions binds the name of the group. -/
theorem bindsGroup (hids : members.map Operation.id = ids.map Value.str)
    (h : actionsFile document options (group, members) = .ok file) :
    BindsGroup group ids options file := by
  simp only [actionsFile, Client.actionsView, Result.bind_eq_ok_iff, Result.pure_def,
    Except.ok.injEq] at h
  obtain ⟨_, ⟨hasTypes, -, views, hviews, rfl⟩, contents, hwritten, rfl⟩ := h
  simp only [written, Template.render, Client.ActionsView.toValue, Template.scopeOf_record,
    Result.bind_eq_ok_iff, Result.pure_def, Except.ok.injEq] at hwritten
  obtain ⟨text, ⟨_, rfl, htext⟩, hcontents⟩ := hwritten
  obtain ⟨front, st, pieces, hst, hcut, hpieces⟩ :=
    Template.exists_cut_of_actions rfl rfl (Template.declaresAndCalls_of_renderParts rfl) htext
  obtain rfl := Template.eq_of_renderPart_var rfl hst
  refine ⟨text, front, pieces, hcontents.symm, hcut,
    forall₂_ids hids (Result.mapM_eq_ok_iff.mp hviews) hpieces ?_⟩
  rintro op action here id hid haction ⟨⟨name, stop, type, rest, hname, hdeclares⟩,
    called, before, behind, hcalled, hcalls⟩
  obtain ⟨hstart, hcomplete⟩ := constants_of_actionView hid haction
  rw [id_of_actionView haction, hid] at hname hcalled
  obtain rfl := Except.ok.inj hname
  obtain rfl := Except.ok.inj hcalled
  rw [hstart, hcomplete] at hdeclares
  exact ⟨⟨stop, type, rest, hdeclares⟩, before, action.callArguments, behind, hcalls⟩

/-- An operation with an action has a text for its id. -/
theorem exists_id_of_actionView {op : Operation} {view : Client.ActionView}
    (h : Client.actionView document group op options = .ok view) :
    ∃ id : Text, op.id = .str id := by
  simp only [Client.actionView, Result.bind_eq_ok_iff, Value.asText_eq_ok_iff] at h
  obtain ⟨_, -, _, -, id, hid, -⟩ := h
  exact ⟨id, hid⟩

/-- The operations with a file of actions have texts for their ids. -/
theorem exists_ids_of_actionsFile (h : actionsFile document options (group, members) = .ok file) :
    ∃ ids : List Text, members.map Operation.id = ids.map Value.str := by
  obtain ⟨view, -, -, hviews⟩ := showsActions h
  generalize view.actions = views at hviews
  clear h
  induction hviews with
  | nil => exact ⟨[], rfl⟩
  | cons hview _ ih =>
      obtain ⟨id, hid⟩ := exists_id_of_actionView hview.1
      obtain ⟨ids, hids⟩ := ih
      exact ⟨id :: ids, by rw [List.map_cons, List.map_cons, hid, hids]⟩

/-! ### When the name can be bound -/

/-- The name that actions call through is no word that the language keeps, and their file declares
nothing else under it. -/
def IsLegalBinding (group : Text) (ids : List Text) : Prop :=
  group ∉ reservedWords ∧ group ∉ actionNames ids

instance (group : Text) (ids : List Text) : Decidable (IsLegalBinding group ids) :=
  inferInstanceAs (Decidable (group ∉ reservedWords ∧ group ∉ actionNames ids))

/-- The name of a group is no name in its file of actions if no operation is called like it and no
constant is. -/
theorem notMem_actionNames_iff :
    group ∉ actionNames ids ↔ ∀ id ∈ ids, group ≠ id ∧ group ∉ constantNames id := by
  simp only [actionNames, List.mem_flatMap, List.mem_append, List.mem_singleton, not_exists,
    not_and, not_or, and_comm, ne_eq]

/-- **When the name that actions call through can be bound.** In a client with actions every group
has a file of them, in which the name of the group is bound by the import, stands in front of the id
in every call, and is followed by the constants and the function of every operation. It is no word
that the language keeps and different from all of these exactly if

* every operation of the group has a first tag with a name of its own that is no such word,
* no operation of the group is called like it, and
* it is none of the constants, as no name with a small letter is. -/
theorem binding_legal_iff (hops : Api.findOperations document = .ok ops)
    (h : (clientFiles document options).result = .ok files) (hredux : options.redux.isTrue = true)
    {pair : Text × List Operation} (hpair : pair ∈ Api.grouped ops) :
    ∃ file ids, actionsFile? ops files pair.1 = some file ∧
      pair.2.map Operation.id = ids.map Value.str ∧ BindsGroup pair.1 ids options file ∧
      (IsLegalBinding pair.1 ids ↔
        (∀ op ∈ pair.2, HasNamingTag op.tags) ∧ (∀ id ∈ ids, pair.1 ≠ id) ∧
          (pair.1.any (·.satisfies Char.isLower) = true ∨
            ∀ id ∈ ids, pair.1 ∉ constantNames id)) := by
  obtain ⟨hmembers, hne⟩ := Api.members_of_mem_grouped hpair
  obtain ⟨first, hfirst⟩ := List.exists_mem_of_ne_nil _ hne
  have hgroup {op : Operation} (hop : op ∈ pair.2) :
      Identifier.groupName op.tags = .ok pair.1 := by
    rw [hmembers] at hop
    obtain ⟨hop, hsame⟩ := List.mem_filter.mp hop
    rw [Api.groupName_of_mem hops hop, eq_of_beq hsame]
  obtain ⟨file, hfile, hmade⟩ := (exists_made_of_mem_grouped hops h hpair).2 hredux
  obtain ⟨ids, hids⟩ := exists_ids_of_actionsFile hmade
  refine ⟨file, ids, hfile, hids, bindsGroup hids hmade, ?_⟩
  rw [IsLegalBinding, notMem_actionNames_iff]
  constructor
  · rintro ⟨hreserved, hapart⟩
    exact ⟨fun op hop => (Identifier.notMem_reservedWords_iff (hgroup hop)).mp hreserved,
      fun id hid => (hapart id hid).1, .inr fun id hid => (hapart id hid).2⟩
  · rintro ⟨htags, hfunctions, hconstants⟩
    refine ⟨(Identifier.notMem_reservedWords_iff (hgroup hfirst)).mpr (htags first hfirst),
      fun id hid => ⟨hfunctions id hid, ?_⟩⟩
    rcases hconstants with hlower | hconstants
    · exact notMem_constantNames_of_isLower hlower id
    · exact hconstants id hid

/-- The name of a group with two operations can be bound. -/
theorem binding_legal_twoPaths : ∃ ops files file,
    Api.findOperations twoPaths = .ok ops ∧
      (clientFiles twoPaths { Options.usual "out" with redux := .bool true }).result = .ok files ∧
      actionsFile? ops files "pets" = some file ∧
      BindsGroup "pets" ["listPets", "addPet"] { Options.usual "out" with redux := .bool true }
        file ∧
      IsLegalBinding "pets" ["listPets", "addPet"] := by
  have hops : Api.findOperations twoPaths = .ok _ := rfl
  obtain ⟨files, hfiles⟩ := Result.exists_eq_ok_of_isOk
    (x := (clientFiles twoPaths { Options.usual "out" with redux := .bool true }).result)
    (by decide +kernel)
  obtain ⟨file, ids, hfile, hids, hbinds, hlegal⟩ :=
    binding_legal_iff hops hfiles rfl List.mem_cons_self
  obtain rfl : [Text.ofString "listPets", "addPet"] = ids :=
    List.map_injective_iff.mpr (fun _ _ => Value.str.inj) hids
  refine ⟨_, files, file, hops, hfiles, hfile, hbinds, hlegal.mpr ⟨?_, by decide, .inl (by decide)⟩⟩
  rintro op hop
  have htags : op.tags = .list [.str "pets"] := by
    obtain rfl | rfl := List.mem_pair.mp hop <;> rfl
  rw [htags]
  exact ⟨rfl, "pets", rfl, by decide, by decide⟩

/-- A client has a file of actions in which the name of the group cannot be bound. -/
def HasIllegalBinding (document : Value) (options : Options) (group : Text) (ids : List Text) :
    Prop :=
  ∃ ops files file, Api.findOperations document = .ok ops ∧
    (clientFiles document options).result = .ok files ∧ actionsFile? ops files group = some file ∧
    BindsGroup group ids options file ∧ ¬IsLegalBinding group ids

/-- A group whose name is no legal binding has such a file if the client has actions. -/
theorem hasIllegalBinding (hops : Api.findOperations document = .ok ops)
    (hfiles : (clientFiles document options).result.isOk = true)
    (hredux : options.redux.isTrue = true) (hgroup : (group, members) ∈ Api.grouped ops)
    (hids : members.map Operation.id = ids.map Value.str) (hillegal : ¬IsLegalBinding group ids) :
    HasIllegalBinding document options group ids := by
  obtain ⟨files, hfiles⟩ := Result.exists_eq_ok_of_isOk hfiles
  obtain ⟨file, hfile, hmade⟩ := (exists_made_of_mem_grouped hops hfiles hgroup).2 hredux
  exact ⟨ops, files, file, hops, hfiles, hfile, bindsGroup hids hmade, hillegal⟩

/-- A description with one operation, which has these tags and this id. -/
def oneOperation (tags : List Text) (id : Text) : Value :=
  record [("paths", record [("/pets", record [
    ("get", record [("operationId", .str id), ("tags", .list (tags.map .str))])])])]

/-- The name of a group may be one that cannot be bound: that of operations without a tag is a word
that the language keeps, and a tag may give the name of an operation in the group, or that of one of
its constants. -/
theorem exists_illegal_binding :
    HasIllegalBinding (oneOperation [] "listPets")
        { Options.usual "out" with redux := .bool true } "default" ["listPets"] ∧
      HasIllegalBinding (oneOperation ["pets"] "pets")
        { Options.usual "out" with redux := .bool true } "pets" ["pets"] ∧
      HasIllegalBinding (oneOperation ["PETS"] "pets")
        { Options.usual "out" with redux := .bool true } "PETS" ["pets"] :=
  ⟨hasIllegalBinding rfl (by decide +kernel) rfl List.mem_cons_self rfl (by decide),
    hasIllegalBinding rfl (by decide +kernel) rfl List.mem_cons_self rfl (by decide),
    hasIllegalBinding rfl (by decide +kernel) rfl List.mem_cons_self rfl (by decide)⟩

end Output

end ClientScribe
