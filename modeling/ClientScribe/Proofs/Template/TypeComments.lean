import ClientScribe.Client.Declaration
import ClientScribe.Proofs.Template.CommentRows
import ClientScribe.Proofs.Template.OperationText
import ClientScribe.Template.Types

/-!
# The Comments of the File of Types

The file of types describes every declaration in a comment of its own, and in the language with
types a second time in front of the declaration. `brings_types` says which texts of a declaration
stand in these comments. The comments of the client's own types and of the support types take
nothing from the view.
-/

namespace ClientScribe.Template

open Client (Declaration Member TypesView)
open Document (Value lookup)

variable {s : Scope} {d : Declaration} {m : Member}

/-! ### Rows without text from the view in a comment -/

/-- The property of a member behind its comment. -/
def memberCode : List Part :=
  [.text "  ", .value (dot "prop" "name"), optional (dot "prop" "optional") [.text "?"],
    .text ": ", .value (dot "prop" "type")] ++ statementEnd

/-- The head of an interface. -/
def interfaceFront : List Part :=
  [.text "export interface ", .value (dot "decl" "name"),
    optional (dot "decl" "parent") [.text " extends ", .value (dot "decl" "parent")],
    line " \x7b"]

/-- Rows of code, in which no value stands in a comment, leave no comment open. -/
theorem leads_declarationCode : Leads .code memberCode .code ∧ Leads .code interfaceFront .code ∧
    Leads .code aliasDeclaration .code := by
  simp only [memberCode, interfaceFront, aliasDeclaration, statementEnd, optional]
  refine ⟨?_, ?_, ?_⟩
  repeat' first
    | with_reducible apply Leads.append_same
    | with_reducible apply Leads.nil
    | with_reducible apply Leads.value
    | with_reducible apply Leads.choice
    | with_reducible refine Leads.line .code .code ?_ rfl ?_
    | with_reducible refine Leads.text .code ?_ ?_
    | with_reducible apply Reads.append_same
    | with_reducible apply Reads.ofList; decide +kernel

/-- Every comment of the client's own types is closed. -/
theorem leads_ownTypeComments : Leads .code ownTypeComments .code := by
  unfold ownTypeComments authorizationComment serviceErrorComment requestCallbackComment
    responseCallbackComment errorCallbackComment requestOptionsComment responseComment
  repeat' with_reducible apply Leads.append_same
  all_goals
    repeat first
      | with_reducible apply Leads.nil
      | with_reducible refine Leads.line .comment .comment ?_ rfl ?_
        · (repeat' with_reducible apply Reads.append_same) <;>
            (with_reducible apply Reads.ofList) <;> decide +kernel
      | with_reducible refine Leads.line .code .code ?_ rfl ?_
        · with_reducible apply Reads.ofList
          decide +kernel

/-- So is every comment of the support types. -/
theorem leads_supportTypes : Leads .code supportTypes .code := by
  unfold supportTypes openApiSpecType securityDefinitionType collectionFormatType
    operationInfoType operationSecurityType operationParamGroupsType serviceRequestType
    requestInfoType responseOutcomeType serviceOptionsType operationRightsType
    operationRightsInfoType responseType fetchResponseType fetchBodyType serviceErrorType
    serviceMetaType
  repeat' with_reducible apply Leads.append_same
  all_goals
    repeat first
      | with_reducible apply Leads.nil
      | with_reducible apply Leads.statement
        (repeat' with_reducible apply Reads.append_same) <;>
          (with_reducible apply Reads.ofList) <;> decide +kernel
      | with_reducible refine Leads.line .comment .comment ?_ rfl ?_
        · (repeat' with_reducible apply Reads.append_same) <;>
            (with_reducible apply Reads.ofList) <;> decide +kernel
      | with_reducible refine Leads.line .code .code ?_ rfl ?_
        · with_reducible apply Reads.ofList
          decide +kernel
      | -- a line with nothing but an asterisk
        with_reducible refine Leads.line (.star false) .comment ?_ rfl ?_
        · with_reducible apply Reads.ofList
          decide +kernel

/-! ### What a declaration holds -/

/-- The members of what is declared, which another name for a type has none of. -/
def membersOf (d : Declaration) : List Member :=
  match d.shape with
  | .alias _ _ => []
  | .interface members => members

/-- The type in comments of what is declared, if it is another name for a type. -/
def aliasedType (d : Declaration) : Option Value :=
  match d.shape with
  | .alias _ docType => some docType
  | .interface _ => none

section Fields

variable (hdecl : s.bindings.lookup (Text.ofString "decl") = some d.toValue)
include hdecl

/-- The name in the view of a declaration is that of the declaration. -/
theorem eval_declarationName : (dot "decl" "name").eval s = .ok (some d.name) := by
  obtain ⟨name, parent, description, shape⟩ := d
  cases shape <;> exact eval_dot hdecl rfl

/-- The description in the view of a declaration is that of the declaration. -/
theorem eval_declarationDescription :
    (dot "decl" "description").eval s = .ok (some (.str d.description)) := by
  obtain ⟨name, parent, description, shape⟩ := d
  cases shape <;> exact eval_dot hdecl rfl

/-- The parent in the view of a declaration is that of the declaration, or nothing. -/
theorem eval_parent :
    (dot "decl" "parent").eval s = .ok (some ((d.parent.map Value.str).getD .null)) := by
  obtain ⟨name, parent, description, shape⟩ := d
  cases shape <;> cases parent <;> exact eval_dot hdecl rfl

/-- The members in the view of a declaration are those of the declaration. -/
theorem eval_props :
    (dot "decl" "props").eval s = .ok (some (.list ((membersOf d).map Member.toValue))) := by
  obtain ⟨name, parent, description, shape⟩ := d
  cases shape <;> exact eval_dot hdecl rfl

/-- A declaration is written as an alias if it is another name for a type. -/
theorem eval_isAlias : isAlias.eval s = .ok (some (.bool (aliasedType d).isSome)) := by
  obtain ⟨name, parent, description, shape⟩ := d
  cases shape with
  | _ =>
      have hkind : (dot "decl" "kind").eval s = .ok (lookup "kind" _) := eval_dot hdecl rfl
      rw [isAlias, Expr.eval, hkind]
      rfl

/-- The type in comments in the view of an alias is the type it is a name for. -/
theorem eval_docType {type : Value} (htype : aliasedType d = some type) :
    (dot "decl" "doc_type").eval s = .ok (some type) := by
  obtain ⟨name, parent, description, shape⟩ := d
  cases shape <;> cases htype
  exact eval_dot hdecl rfl

end Fields

/-! ### Declarations in the language with types -/

/-- The comments in front of a declaration and of its members. -/
theorem brings_typeDeclaration
    (hdecl : s.bindings.lookup (Text.ofString "decl") = some d.toValue) :
    Brings s (· = .code) typeDeclaration
      (Text.endsComment d.description = true ∨
        ∃ m ∈ membersOf d, Text.endsComment m.description = true) (· = .code) := by
  have hmember (m : Member) (isLast : Bool) :
      Brings (s.bind "prop" m.toValue isLast) (· = .code)
        ([describedBy "  " (dot "prop" "description")] ++ memberCode)
        (Text.endsComment m.description = true) (· = .code) := by
    have hdescription : (dot "prop" "description").eval (s.bind "prop" m.toValue isLast) =
        .ok (some (.str m.description)) :=
      eval_dot (v := m.toValue) rfl rfl
    exact (brings_describedBy (.inr rfl) hdescription).before leads_declarationCode.1.of_eq
  have hclose : Leads .code [line "\x7d"] .code :=
    .line .code .code (.ofList _ (by decide +kernel)) rfl .nil
  have hblank : Leads .code [line ""] .code := .line .code .code (.ofList _ rfl) rfl .nil
  have hinterface : Brings s (· = .code) interfaceDeclaration
      (∃ m ∈ membersOf d, Text.endsComment m.description = true) (· = .code) :=
    .behind leads_declarationCode.2.1.of_eq
      ((Brings.forEach (eval_props hdecl) hmember).before hclose.of_eq)
  have hshape : Brings s (· = .code) [.choice isAlias aliasDeclaration interfaceDeclaration]
      (∃ m ∈ membersOf d, Text.endsComment m.description = true) (· = .code) := by
    refine .choice (eval_isAlias hdecl) ?_
    cases hkind : d.shape with
    | «alias» type docType =>
        rw [aliasedType, membersOf, hkind]
        exact (Brings.ofLeads leads_declarationCode.2.2.of_eq).congr (by simp)
    | interface members =>
        rw [aliasedType, hkind]
        exact hinterface
  exact (brings_describedBy (.inl rfl) (eval_declarationDescription hdecl)).append
    (hshape.before hblank.of_eq)

/-! ### Comments that describe a declaration -/

/-- The line of a member in the comment that describes a declaration. -/
def memberComment : List Part :=
  [.text " * @property \x7b", .value (dot "prop" "doc_type"), .text "\x7d ",
    .value (dot "prop" "name"),
    optional (dot "prop" "format") [.text " <", .value (dot "prop" "format"), .text ">"],
    optional (dot "prop" "doc_description")
      [.text " ", .value (dot "prop" "doc_description")],
    lineEnd]

/-- The comment on the members is an empty line of it and a line for each member. -/
theorem memberComments_eq : memberComments = optional (dot "decl" "props")
    ([line " *"] ++ [forEach "prop" (dot "decl" "props") memberComment]) :=
  rfl

/-- A text that stands in the line of a member has the end of a comment. -/
def MemberEnds (m : Member) : Prop :=
  EndsComment m.docType ∨ EndsComment m.name ∨ (m.format.isTrue = true ∧ EndsComment m.format) ∨
    Text.endsComment m.docDescription = true

/-- The line of a member stays in its comment unless a text in it ends the comment. -/
theorem brings_memberComment (hprop : s.bindings.lookup (Text.ofString "prop") = some m.toValue) :
    Brings s (· = .comment) memberComment (MemberEnds m) (· = .comment) := by
  have hdocType : (dot "prop" "doc_type").eval s = .ok (some m.docType) := eval_dot hprop rfl
  have hname : (dot "prop" "name").eval s = .ok (some m.name) := eval_dot hprop rfl
  have hformat : (dot "prop" "format").eval s = .ok (some m.format) := eval_dot hprop rfl
  have hdescription : (dot "prop" "doc_description").eval s = .ok (some (.str m.docDescription)) :=
    eval_dot hprop rfl
  have htyped : Brings s (· = .comment)
      [.text " * @property \x7b", .value (dot "prop" "doc_type"), .text "\x7d "]
      (EndsComment m.docType) (· = .comment) :=
    .between hdocType (Reads.ofList _ (by decide +kernel)).of_eq fun st hst => by cases hst <;> rfl
  have hformatted : Brings s InComment
      [optional (dot "prop" "format") [.text " <", .value (dot "prop" "format"), .text ">"]]
      (m.format.isTrue = true ∧ EndsComment m.format) InComment :=
    .optional hformat fun _ => .inComment <|
      .between hformat (fun st hst => by cases hst <;> rfl) fun st hst => by cases hst <;> rfl
  have hdescribed : Brings s InComment
      [optional (dot "prop" "doc_description") ([.text " "] ++
        [.value (dot "prop" "doc_description")])]
      (Text.endsComment m.docDescription = true) InComment :=
    (Brings.optional hdescription fun _ =>
      .behind (fun st hst => .text .comment (by cases hst <;> rfl) .nil)
        (.value hdescription)).congr isTrue_and_endsComment_str
  exact htyped.append <| (Brings.value hname).append <| hformatted.append <|
    hdescribed.before fun st hst => .text .comment (by cases hst <;> rfl) .nil

/-- A text that stands in the comment that describes a declaration has the end of a comment. -/
def DeclarationEnds (d : Declaration) : Prop :=
  Text.endsComment d.description = true ∨ (∃ type ∈ aliasedType d, EndsComment type) ∨
    EndsComment d.name ∨ (∃ parent ∈ d.parent, Text.endsComment parent = true) ∨
    ∃ m ∈ membersOf d, MemberEnds m

/-- The comment that describes a declaration is left only at its end, unless a text in it ends it.
-/
theorem brings_typeComment
    (hdecl : s.bindings.lookup (Text.ofString "decl") = some d.toValue) :
    Brings s (· = .code) typeComment (DeclarationEnds d) (· = .code) := by
  have hdescription := eval_declarationDescription hdecl
  have hopen : Leads .code [line "/**"] .comment :=
    .line .comment .comment (.ofList _ (by decide +kernel)) rfl .nil
  have hdescribed : Brings s (· = .comment)
      [optional (dot "decl" "description")
        [.text " * ", .value (dot "decl" "description"), lineEnd]]
      (Text.endsComment d.description = true) (· = .comment) :=
    (Brings.optional hdescription fun _ =>
      .between hdescription (Reads.ofList _ (by decide +kernel)).of_eq
        fun st hst => by cases hst <;> rfl).congr isTrue_and_endsComment_str
  have htypedef : Leads .comment [.text " * @typedef "] .comment :=
    .text .comment (.ofList _ (by decide +kernel)) .nil
  have haliased : Brings s (· = .comment)
      [optional isAlias [.text "\x7b", .value (dot "decl" "doc_type"), .text "\x7d "]]
      (∃ type ∈ aliasedType d, EndsComment type) (· = .comment) := by
    refine .choice (eval_isAlias hdecl) ?_
    cases htype : aliasedType d with
    | none => exact Brings.nil.congr (by simp)
    | some type =>
        exact (Brings.between (eval_docType hdecl htype)
          (Reads.ofList _ (by decide +kernel)).of_eq
          fun st hst => by cases hst <;> rfl).congr (by simp)
  have hnamed : Brings s (· = .comment) [.value (dot "decl" "name"), lineEnd]
      (EndsComment d.name) (· = .comment) :=
    (Brings.value (eval_declarationName hdecl)).before fun st hst =>
      .text .comment (by cases hst <;> rfl) .nil
  have hextends : Brings s (· = .comment)
      [optional (dot "decl" "parent")
        [.text " * @extends ", .value (dot "decl" "parent"), lineEnd]]
      (∃ parent ∈ d.parent, Text.endsComment parent = true) (· = .comment) := by
    have hparent := eval_parent hdecl
    cases hd : d.parent with
    | none =>
        rw [hd] at hparent
        exact .choice hparent (Brings.nil.congr (by simp))
    | some parent =>
        rw [hd] at hparent
        exact (Brings.optional hparent fun _ =>
          .between hparent (Reads.ofList _ (by decide +kernel)).of_eq
            fun st hst => by cases hst <;> rfl).congr (by simp [isTrue_and_endsComment_str])
  have hmembers : Brings s (· = .comment) [memberComments] (∃ m ∈ membersOf d, MemberEnds m)
      (· = .comment) := by
    have hstar : Leads .comment [line " *"] .comment :=
      .line (.star false) .comment (.ofList _ (by decide +kernel)) rfl .nil
    have hlines := Brings.behind hstar.of_eq (Brings.forEach (eval_props hdecl)
      fun m isLast => brings_memberComment (s := s.bind "prop" m.toValue isLast) rfl)
    rw [memberComments_eq]
    refine (Brings.optional (eval_props hdecl) fun _ => hlines).congr ?_
    rw [and_iff_right_iff_imp]
    rintro ⟨m, hm, -⟩
    cases hmembers : membersOf d with
    | nil => simp [hmembers] at hm
    | cons m members => rfl
  have hclose : Leads .comment [line " */", line ""] .code :=
    .line .code .code (.ofList _ (by decide +kernel)) rfl
      (.line .code .code (.ofList _ rfl) rfl .nil)
  exact .behind hopen.of_eq <| hdescribed.append <| .behind htypedef.of_eq <|
    haliased.append <| hnamed.append <| hextends.append <| hmembers.before hclose.of_eq

/-! ### The file -/

/-- **The comments of the file of types** end too early exactly if a text of a declaration that
stands in one has the end of a comment. -/
theorem brings_types {view : TypesView} (hs : scopeOf view.toValue = .ok s) :
    Brings s (· = .code) types
      (∃ d ∈ view.declarations, DeclarationEnds d ∨
        (view.typed = true ∧ (Text.endsComment d.description = true ∨
          ∃ m ∈ membersOf d, Text.endsComment m.description = true))) (· = .code) := by
  obtain rfl := Except.ok.inj ((scopeOf_record _).symm.trans hs)
  generalize hscope : Scope.mk _ _ = s
  have htyped : (var "typed").eval s = .ok (some (.bool view.typed)) := by rw [← hscope]; rfl
  have hdeclarations : (var "declarations").eval s =
      .ok (some (.list (view.declarations.map Declaration.toValue))) := by rw [← hscope]; rfl
  have hfront : Leads .code ([line "/** @module types */", generatedLine, line ""] ++
      ownTypeComments) .code :=
    .append (.line .code .code (.ofList _ (by decide +kernel)) rfl
      (.line .code .code (.ofList _ (by decide +kernel)) rfl
        (.line .code .code (.ofList _ rfl) rfl .nil))) leads_ownTypeComments
  have hopen : Leads .code [line "namespace api \x7b"] .code :=
    .line .code .code (.ofList _ (by decide +kernel)) rfl .nil
  have hclose : Leads .code (supportTypes ++ [line "\x7d", line ""]) .code :=
    leads_supportTypes.append (.line .code .code (.ofList _ (by decide +kernel)) rfl
      (.line .code .code (.ofList _ rfl) rfl .nil))
  have hnamespace : Brings s (· = .code) typesNamespace
      (∃ d ∈ view.declarations, Text.endsComment d.description = true ∨
        ∃ m ∈ membersOf d, Text.endsComment m.description = true) (· = .code) := by
    have hbody := Brings.forEach (P := (· = .code)) hdeclarations
      fun d isLast => brings_typeDeclaration (s := s.bind "decl" d.toValue isLast) rfl
    rw [typesNamespace, List.append_assoc]
    exact (Brings.behind hopen.of_eq hbody).before hclose.of_eq
  have hcomments : Brings s (· = .code) [forEach "decl" (var "declarations") typeComment]
      (∃ d ∈ view.declarations, DeclarationEnds d) (· = .code) :=
    .forEach hdeclarations fun d isLast => brings_typeComment rfl
  rw [types]
  exact (Brings.behind hfront.of_eq
    ((Brings.optional htyped fun _ => hnamespace).append hcomments)).congr
      (or_comm.trans exists_mem_or_iff)

end ClientScribe.Template
