import ClientScribe.Proofs.Identifier.Constant
import ClientScribe.Proofs.Output.Coverage
import ClientScribe.Proofs.Template.Declaring

/-!
# Names in the Files of a Group

The names that stand in a file are made from the ids of a group's operations: the function has the
id itself, the record has it with a word behind it, and the constants of an action have it in upper
case, with a word behind it for the start. Nothing keeps these names apart but the ids. How far they
do is said exactly for operations with different ids (`nodup_names_of_group_iff`):

* functions and records, unless an id is that of another operation with the word behind it;
* the constants of actions, unless the ids of two of them are one in upper case, or differ there in
  the word for a start only;
* constants and functions, unless an id is a constant. One with a small letter never is
  (`Identifier.ne_constantName`).
-/

namespace ClientScribe.Output

open Api (Operation)
open Document (Value record)
open Identifier (constantName)
open Template (functionHead recordName constantValue constantText)

variable {document : Value} {options : Options} {group : Text} {members : List Operation}
  {ids : List Text} {file : ClientFile}

/-! ### The names -/

/-- The constant for the start of an operation. -/
def startName (id : Text) : Text := constantName id ++ "_START"

/-- The names of an action's constants. -/
def constantNames (id : Text) : List Text := [startName id, constantName id]

/-- The names in the file of a group's operations: those of the functions, then of the records. -/
def operationNames (ids : List Text) : List Text := ids ++ ids.map recordName

/-- The names in the file of a group's actions: for every one its constants and its function. -/
def actionNames (ids : List Text) : List Text := ids.flatMap fun id => constantNames id ++ [id]

/-- The values of the constants of a group's actions. -/
def announcements (group : Text) (ids : List Text) : List Text :=
  (ids.flatMap constantNames).map (constantValue group)

/-- No id is that of an operation with the word for its record behind it. -/
def RecordNamesApart (ids : List Text) : Prop := ∀ a ∈ ids, ∀ b ∈ ids, a ≠ recordName b

/-- Different ids have different constants, and none of these is the constant for a start. -/
def ConstantsApart (ids : List Text) : Prop :=
  (∀ a ∈ ids, ∀ b ∈ ids, constantName a = constantName b → a = b) ∧
    ∀ a ∈ ids, ∀ b ∈ ids, startName a ≠ constantName b

/-- No id is a constant. -/
def FunctionsApart (ids : List Text) : Prop := ∀ a ∈ ids, ∀ b ∈ ids, ∀ name ∈ constantNames a,
  name ≠ b

instance (ids : List Text) : Decidable (RecordNamesApart ids) :=
  inferInstanceAs (Decidable (∀ a ∈ ids, ∀ b ∈ ids, a ≠ recordName b))

instance (ids : List Text) : Decidable (ConstantsApart ids) :=
  inferInstanceAs (Decidable ((∀ a ∈ ids, ∀ b ∈ ids, constantName a = constantName b → a = b) ∧
    ∀ a ∈ ids, ∀ b ∈ ids, startName a ≠ constantName b))

instance (ids : List Text) : Decidable (FunctionsApart ids) :=
  inferInstanceAs (Decidable (∀ a ∈ ids, ∀ b ∈ ids, ∀ name ∈ constantNames a, name ≠ b))

/-! ### When they are different -/

/-- Functions and records are kept apart by the ids and the word for a record. -/
theorem nodup_operationNames_iff (hids : ids.Nodup) :
    (operationNames ids).Nodup ↔ RecordNamesApart ids := by
  have hinjective : Function.Injective recordName := fun _ _ h => List.append_cancel_right h
  have hrecords : (ids.map recordName).Nodup := hids.map hinjective
  rw [operationNames, List.nodup_append]
  constructor
  · rintro ⟨-, -, hapart⟩ a ha b hb
    exact hapart a ha _ (List.mem_map_of_mem hb)
  · intro hapart
    refine ⟨hids, hrecords, fun a ha name hname => ?_⟩
    obtain ⟨b, hb, rfl⟩ := List.mem_map.mp hname
    exact hapart a ha b hb

/-- The constants of all actions are those for the starts and those for the ends. -/
theorem constantNames_perm (ids : List Text) :
    (ids.flatMap constantNames).Perm (ids.map startName ++ ids.map constantName) := by
  have hperm := (List.flatMap_append_perm ids (fun id => [startName id])
    (fun id => [constantName id])).symm
  rwa [← List.map_eq_flatMap, ← List.map_eq_flatMap] at hperm

/-- The constants of actions are kept apart by what is left of the ids in upper case. -/
theorem nodup_constantNames_iff (hids : ids.Nodup) :
    (ids.flatMap constantNames).Nodup ↔ ConstantsApart ids := by
  have hstarts : ids.map startName = (ids.map constantName).map (· ++ Text.ofString "_START") := by
    rw [List.map_map]
    rfl
  have hinjective : Function.Injective (· ++ Text.ofString "_START") :=
    fun _ _ h => List.append_cancel_right h
  have hnodup : (ids.map startName).Nodup ↔ (ids.map constantName).Nodup := by
    rw [hstarts, List.nodup_map_iff hinjective]
  rw [(constantNames_perm ids).nodup_iff, List.nodup_append, hnodup,
    List.nodup_map_iff_inj_on hids]
  constructor
  · rintro ⟨-, hconstants, hapart⟩
    exact ⟨hconstants, fun a ha b hb =>
      hapart _ (List.mem_map_of_mem ha) _ (List.mem_map_of_mem hb)⟩
  · rintro ⟨hconstants, hapart⟩
    refine ⟨hconstants, hconstants, fun start hstart name hname => ?_⟩
    obtain ⟨a, ha, rfl⟩ := List.mem_map.mp hstart
    obtain ⟨b, hb, rfl⟩ := List.mem_map.mp hname
    exact hapart a ha b hb

/-- The values of constants are as different as their names. -/
theorem nodup_announcements_iff (hids : ids.Nodup) :
    (announcements group ids).Nodup ↔ ConstantsApart ids := by
  have hinjective : Function.Injective (constantValue group) :=
    fun _ _ h => List.append_cancel_left h
  rw [announcements, List.nodup_map_iff hinjective, nodup_constantNames_iff hids]

/-- Constants and functions are kept apart if no id is a constant. -/
theorem nodup_actionNames_iff (hids : ids.Nodup) :
    (actionNames ids).Nodup ↔ ConstantsApart ids ∧ FunctionsApart ids := by
  have hperm := (List.flatMap_append_perm ids constantNames fun id => [id]).symm
  rw [← List.map_eq_flatMap, List.map_id'] at hperm
  rw [actionNames, hperm.nodup_iff, List.nodup_append, nodup_constantNames_iff hids]
  constructor
  · rintro ⟨hconstants, -, hapart⟩
    exact ⟨hconstants, fun a ha b hb name hname =>
      hapart name (List.mem_flatMap.mpr ⟨a, ha, hname⟩) b hb⟩
  · rintro ⟨hconstants, hapart⟩
    refine ⟨hconstants, hids, fun name hname b hb => ?_⟩
    obtain ⟨a, ha, hname⟩ := List.mem_flatMap.mp hname
    exact hapart a ha b hb name hname

/-- A name with a small letter is no constant. -/
theorem notMem_constantNames_of_isLower {name : Text}
    (h : name.any (·.satisfies Char.isLower) = true) (id : Text) : name ∉ constantNames id := by
  intro hname
  obtain ⟨c, hc, hlower⟩ : ∃ c : Char, CodePoint.char c ∈ name ∧ c.isLower = true := by
    obtain ⟨p, hp, hlower⟩ := List.any_eq_true.mp h
    cases p with
    | half n => cases hlower
    | char c => exact ⟨c, hp, hlower⟩
  obtain ⟨hconstant, hstart⟩ := Identifier.ne_constantName hc hlower id
  rcases List.mem_pair.mp hname with hsame | hsame
  · exact hstart hsame
  · exact hconstant hsame

/-- Ids with a small letter are no constants. -/
theorem functionsApart_of_isLower
    (h : ∀ id ∈ ids, id.any (·.satisfies Char.isLower) = true) : FunctionsApart ids := by
  rintro a _ b hb _ hname rfl
  exact notMem_constantNames_of_isLower (h _ hb) a hname

/-! ### Where they stand -/

/-- A file has a function and a record for every id, in order. -/
def DeclaresOperations (ids : List Text) (options : Options) (file : ClientFile) : Prop :=
  ∃ text front functions types records,
    file.contents = Template.reindent text options.indent.unit ∧
    text = front ++ functions.flatten ++ types ++ records.flatten ∧
    List.Forall₂ (fun id piece => ∃ comment rest, piece = comment ++ functionHead id ++ rest)
      ids functions ∧
    List.Forall₂ (fun id piece => ∃ rest, piece = "const " ++ recordName id ++ rest) ids records

/-- A file has two constants and a function for every id, in order. -/
def DeclaresActions (group : Text) (ids : List Text) (options : Options) (file : ClientFile) :
    Prop :=
  ∃ text front pieces,
    file.contents = Template.reindent text options.indent.unit ∧ text = front ++ pieces.flatten ∧
    List.Forall₂ (fun id piece => ∃ stop type rest,
      piece = "\n" ++ constantText group (startName id) ++ stop ++
        constantText group (constantName id) ++ stop ++ type ++ functionHead id ++ rest) ids pieces

/-- What holds of the views of operations and their pieces holds of their ids. -/
theorem forall₂_ids {α : Type} {views : List α} {pieces : List Text} {made : Operation → α → Prop}
    {piece : α → Text → Prop} {named : Text → Text → Prop}
    (hids : members.map Operation.id = ids.map Value.str)
    (hviews : List.Forall₂ made members views) (hpieces : List.Forall₂ piece views pieces)
    (h : ∀ op view here id, op.id = .str id → made op view → piece view here → named id here) :
    List.Forall₂ named ids pieces := by
  induction hviews generalizing ids pieces with
  | nil =>
      cases hpieces
      obtain rfl : ids = [] := List.map_eq_nil_iff.mp hids.symm
      exact .nil
  | cons hview _ ih =>
      cases hpieces with
      | cons hhere hpieces =>
          cases ids with
          | nil => cases hids
          | cons id ids =>
              obtain ⟨hid, hids⟩ := List.cons.inj hids
              exact .cons (h _ _ _ _ hid hview hhere) (ih hids hpieces)

/-- The file of a group of operations declares them. -/
theorem declaresOperations (hids : members.map Operation.id = ids.map Value.str)
    (h : operationsFile document options (group, members) = .ok file) :
    DeclaresOperations ids options file := by
  obtain ⟨view, hwritten, -, hviews⟩ := showsOperations h
  simp only [written, Template.render, Client.OperationsView.toValue, Template.scopeOf_record,
    Result.bind_eq_ok_iff, Result.pure_def, Except.ok.injEq] at hwritten
  obtain ⟨text, ⟨_, rfl, htext⟩, hcontents⟩ := hwritten
  obtain ⟨front, functions, types, records, hcut, hfunctions, hrecords⟩ :=
    Template.exists_pieces_of_operations rfl htext
  refine ⟨text, front, functions, types, records, hcontents.symm, hcut,
    forall₂_ids hids hviews hfunctions ?_, forall₂_ids hids hviews hrecords ?_⟩
  · rintro op view _ id hid ⟨-, hview⟩ ⟨name, rest, hname, rfl⟩
    rw [hview, hid] at hname
    obtain rfl := Except.ok.inj hname
    exact ⟨_, rest, rfl⟩
  · rintro op view _ id hid ⟨-, hview⟩ ⟨name, rest, hname, rfl⟩
    rw [hview, hid] at hname
    obtain rfl := Except.ok.inj hname
    exact ⟨rest, rfl⟩

/-- The names of an action's constants are made from the id of its operation. -/
theorem constants_of_actionView {op : Operation} {id : Text} {view : Client.ActionView}
    (hid : op.id = .str id) (h : Client.actionView document group op options = .ok view) :
    view.start = startName id ∧ view.complete = constantName id := by
  simp only [Client.actionView, hid, Result.bind_eq_ok_iff, Result.pure_def, Except.ok.injEq] at h
  obtain ⟨_, -, _, -, name, hname, _, -, rfl⟩ := h
  obtain rfl := Except.ok.inj hname
  exact ⟨rfl, rfl⟩

/-- The file of a group's actions declares them. -/
theorem declaresActions (hids : members.map Operation.id = ids.map Value.str)
    (h : actionsFile document options (group, members) = .ok file) :
    DeclaresActions group ids options file := by
  obtain ⟨view, hwritten, rfl, hviews⟩ := showsActions h
  simp only [written, Template.render, Client.ActionsView.toValue, Template.scopeOf_record,
    Result.bind_eq_ok_iff, Result.pure_def, Except.ok.injEq] at hwritten
  obtain ⟨text, ⟨_, rfl, htext⟩, hcontents⟩ := hwritten
  obtain ⟨front, pieces, hcut, hpieces⟩ := Template.exists_pieces_of_actions rfl rfl htext
  refine ⟨text, front, pieces, hcontents.symm, hcut, forall₂_ids hids hviews hpieces ?_⟩
  rintro op action _ id hid ⟨haction, hview⟩ ⟨name, stop, type, rest, hname, rfl⟩
  obtain ⟨hstart, hcomplete⟩ := constants_of_actionView hid haction
  rw [hview, hid] at hname
  obtain rfl := Except.ok.inj hname
  exact ⟨stop, type, rest, by rw [hstart, hcomplete]⟩

/-- **When the names of a group are different.** For operations whose ids are different texts,

* the file of the operations declares a function and a record for each of them, and these names are
  all different exactly if no id is another one with the word for a record behind it;
* the file of the actions declares two constants and a function for each of them. The values of the
  constants are all different exactly if no two ids have one constant and no constant is that of a
  start. The names are exactly if, besides, no id is a constant, as none with a small letter is. -/
theorem nodup_names_of_group_iff (hids : members.map Operation.id = ids.map Value.str)
    (hdistinct : ids.Nodup) :
    (∀ file, operationsFile document options (group, members) = .ok file →
      DeclaresOperations ids options file) ∧
    ((operationNames ids).Nodup ↔ RecordNamesApart ids) ∧
    (∀ file, actionsFile document options (group, members) = .ok file →
      DeclaresActions group ids options file) ∧
    ((announcements group ids).Nodup ↔ ConstantsApart ids) ∧
    ((actionNames ids).Nodup ↔ ConstantsApart ids ∧ FunctionsApart ids) ∧
    ((∀ id ∈ ids, id.any (·.satisfies Char.isLower) = true) → FunctionsApart ids) :=
  ⟨fun _ => declaresOperations hids, nodup_operationNames_iff hdistinct,
    fun _ => declaresActions hids, nodup_announcements_iff hdistinct,
    nodup_actionNames_iff hdistinct, functionsApart_of_isLower⟩

/-- A description with one path and three operations, which are one group. -/
def onePath (first second third : Text) : Value :=
  record [("paths", record [("/pets", record [
    ("get", record [("operationId", .str first)]),
    ("put", record [("operationId", .str second)]),
    ("post", record [("operationId", .str third)])])])]

/-- The operations of one path. -/
def onePathOperations (first second third : Text) : List Operation :=
  (Api.findOperations (onePath first second third)).toOption.getD []

/-- The names for three operations are all different, in both files. -/
theorem nodup_names_of_group_onePath : ∃ file actions,
    operationsFile (onePath "list" "replace" "add") (.usual "out")
      ("default", onePathOperations "list" "replace" "add") = .ok file ∧
    actionsFile (onePath "list" "replace" "add") (.usual "out")
      ("default", onePathOperations "list" "replace" "add") = .ok actions ∧
    DeclaresOperations ["list", "replace", "add"] (.usual "out") file ∧
    (operationNames ["list", "replace", "add"]).Nodup ∧
    DeclaresActions "default" ["list", "replace", "add"] (.usual "out") actions ∧
    (announcements "default" ["list", "replace", "add"]).Nodup ∧
    (actionNames ["list", "replace", "add"]).Nodup := by
  obtain ⟨file, hfile⟩ := Result.exists_eq_ok_of_isOk
    (x := operationsFile (onePath "list" "replace" "add") (.usual "out")
      ("default", onePathOperations "list" "replace" "add")) (by decide +kernel)
  obtain ⟨actions, hactions⟩ := Result.exists_eq_ok_of_isOk
    (x := actionsFile (onePath "list" "replace" "add") (.usual "out")
      ("default", onePathOperations "list" "replace" "add")) (by decide +kernel)
  obtain ⟨hdeclares, hnames, hannounces, hvalues, hconstants, hlower⟩ :=
    @nodup_names_of_group_iff (onePath "list" "replace" "add") (.usual "out") "default"
      (onePathOperations "list" "replace" "add") ["list", "replace", "add"] rfl (by decide)
  have hconstant : ConstantsApart ["list", "replace", "add"] := by decide +kernel
  have hfunction : FunctionsApart ["list", "replace", "add"] := hlower (by decide)
  exact ⟨file, actions, hfile, hactions, hdeclares file hfile, hnames.mpr (by decide),
    hannounces actions hactions, hvalues.mpr hconstant, hconstants.mpr ⟨hconstant, hfunction⟩⟩

/-- Three operations with different ids may share names: the second id is the first one with the
word for a record behind it, and the third one is the first one in upper case. The function of the
second operation has the name of the first one's record, and the constants of the third one have the
names and the values of the first one's. -/
theorem not_nodup_names_onePath : ∃ file actions,
    Api.findOperations (onePath "list" "listOperation" "List") =
      .ok (onePathOperations "list" "listOperation" "List") ∧
    (onePathOperations "list" "listOperation" "List").map Operation.id =
      [.str "list", .str "listOperation", .str "List"] ∧
    ([.str "list", .str "listOperation", .str "List"] : List Value).Nodup ∧
    operationsFile (onePath "list" "listOperation" "List") (.usual "out")
      ("default", onePathOperations "list" "listOperation" "List") = .ok file ∧
    actionsFile (onePath "list" "listOperation" "List") (.usual "out")
      ("default", onePathOperations "list" "listOperation" "List") = .ok actions ∧
    ¬(operationNames ["list", "listOperation", "List"]).Nodup ∧
    ¬(actionNames ["list", "listOperation", "List"]).Nodup ∧
    ¬(announcements "default" ["list", "listOperation", "List"]).Nodup := by
  obtain ⟨file, hfile⟩ := Result.exists_eq_ok_of_isOk
    (x := operationsFile (onePath "list" "listOperation" "List") (.usual "out")
      ("default", onePathOperations "list" "listOperation" "List")) (by decide +kernel)
  obtain ⟨actions, hactions⟩ := Result.exists_eq_ok_of_isOk
    (x := actionsFile (onePath "list" "listOperation" "List") (.usual "out")
      ("default", onePathOperations "list" "listOperation" "List")) (by decide +kernel)
  exact ⟨file, actions, rfl, rfl, by simp, hfile, hactions, by decide, by decide +kernel,
    by decide +kernel⟩

end ClientScribe.Output
