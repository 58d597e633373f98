import ClientScribe.Client.OperationView
import ClientScribe.Proofs.Template.CommentRows
import ClientScribe.Proofs.Template.OperationText

/-!
# The Comments of a Group's File

The file of a group takes text from its view into three kinds of comments: the name of the group
into the first line, lines into the comments of the functions, and descriptions into the comments of
the optional parameters. `brings_operations` says that nothing else can end a comment too early.
-/

namespace ClientScribe.Template

open Client (OperationView OperationsView OptionsType OptionProperty)
open Document (Value)

variable {s : Scope} {e : Expr} {view : OperationView}

/-! ### Rows of code -/

/-- The function of an operation behind its comment. -/
def functionCode : List Part :=
  [.text "export function ", .value (dot "op" "id"), .text "(", .value (dot "op" "signature"),
    .text ")", .value (dot "op" "return_signature"), line " \x7b",
    parametersLiteral,
    .text "  return gateway.request(", .value (dot "op" "id"), .text "Operation",
    optional (dot "op" "has_parameters") [.text ", parameters"]] ++
  statement ")" ++
  [line "\x7d", line ""]

/-- The function of an operation is its comment and the code behind it. -/
theorem operationFunction_eq : operationFunction = operationComment ++ functionCode := by
  simp only [operationFunction, functionCode, List.append_assoc]

/-- The property of an optional parameter behind its comment. -/
def optionCode : List Part :=
  [.text "  ", .value (dot "prop" "name"), .text "?: ", .value (dot "prop" "type")] ++ statementEnd

/-- Rows of code, in which no value stands in a comment, leave no comment open. -/
theorem leads_code : Leads .code [typesReference "types.ts"] .code ∧
    Leads .code functionCode .code ∧ Leads .code optionCode .code ∧
    Leads .code callRecord .code := by
  simp only [typesReference, functionCode, optionCode, callRecord, parametersLiteral,
    parameterGroups, groupEntries, securityLiteral, commaBetween, lineEnd, statementEnd, optional,
    forEach]
  refine ⟨?_, ?_, ?_, ?_⟩
  repeat' first
    | with_reducible apply Leads.append_same
    | with_reducible apply Leads.nil
    | with_reducible apply Leads.statement
    | with_reducible apply Leads.value
    | with_reducible apply Leads.choice
    | with_reducible apply Leads.each
    | with_reducible apply Leads.joined
    | with_reducible refine Leads.line .code .code ?_ rfl ?_
    | with_reducible refine Leads.text .code ?_ ?_
    | with_reducible apply Reads.append_same
    | with_reducible apply Reads.ofList; decide +kernel

/-! ### Comments with text from the view -/

/-- The comment of a function ends too early exactly if one of its lines has the end of one. -/
theorem brings_operationComment
    (hop : s.bindings.lookup (Text.ofString "op") = some view.toValue) :
    Brings s (· = .code) operationComment (∃ l ∈ view.docLines, Text.endsComment l = true)
      (· = .code) := by
  have hlines : (dot "op" "doc_lines").eval s = .ok (some (.list (view.docLines.map .str))) :=
    eval_dot hop rfl
  have hline (l : Text) (isLast : Bool) :
      Brings (s.bind "line" (.str l) isLast) (· = .comment)
        ([.value (var "line")] ++ [lineEnd]) (Text.endsComment l = true) (· = .comment) :=
    ((Brings.value rfl).before fun st hst =>
      .text .comment (by cases hst <;> rfl) .nil).congr endsComment_str
  have hopen : Leads .code [line "/**"] .comment :=
    .line .comment .comment (.ofList _ (by decide +kernel)) rfl .nil
  have hclose : Leads .comment [line " */"] .code :=
    .line .code .code (.ofList _ (by decide +kernel)) rfl .nil
  exact .behind hopen.of_eq ((Brings.forEach hlines hline).before hclose.of_eq)

/-- So does the function with its comment. -/
theorem brings_operationFunction
    (hop : s.bindings.lookup (Text.ofString "op") = some view.toValue) :
    Brings s (· = .code) operationFunction (∃ l ∈ view.docLines, Text.endsComment l = true)
      (· = .code) := by
  rw [operationFunction_eq]
  exact (brings_operationComment hop).before leads_code.2.1.of_eq

/-- A comment in the type of the optional parameters ends too early exactly if a description of one
of them has the end of one. -/
theorem brings_optionsInterface {type : OptionsType}
    (hop : s.bindings.lookup (Text.ofString "op") = some view.toValue)
    (htype : view.optionsType = some type) :
    Brings s (· = .code) optionsInterface
      (∃ p ∈ type.properties, Text.endsComment p.description = true) (· = .code) := by
  have hview : (dot "op" "options_type").eval s = .ok (some type.toValue) := by
    cases view
    cases htype
    exact eval_dot hop rfl
  have hprops : (Expr.field (dot "op" "options_type") "props").eval s =
      .ok (some (.list (type.properties.map OptionProperty.toValue))) :=
    eval_field hview rfl
  have hprop (p : OptionProperty) (isLast : Bool) :
      Brings (s.bind "prop" p.toValue isLast) (· = .code)
        ([describedBy "  " (dot "prop" "description")] ++ optionCode)
        (Text.endsComment p.description = true) (· = .code) := by
    have hdescription : (dot "prop" "description").eval (s.bind "prop" p.toValue isLast) =
        .ok (some (.str p.description)) :=
      eval_dot (v := p.toValue) rfl rfl
    exact (brings_describedBy (.inr rfl) hdescription).before leads_code.2.2.1.of_eq
  have hhead : Leads .code [.text "export interface ",
      .value (.field (dot "op" "options_type") "name"), line " \x7b"] .code :=
    .text .code (.ofList _ (by decide +kernel))
      (.value (.line .code .code (.ofList _ (by decide +kernel)) rfl .nil))
  have hclose : Leads .code [line "\x7d", line ""] .code :=
    .line .code .code (.ofList _ (by decide +kernel)) rfl
      (.line .code .code (.ofList _ (by decide +kernel)) rfl .nil)
  exact .behind hhead.of_eq ((Brings.forEach hprops hprop).before hclose.of_eq)

/-- The optional parameters have a type for the operations that have one. -/
theorem chosenFrom_optionsType (views : List OperationView) :
    chosenFrom s "op" (some (dot "op" "options_type")) (views.map OperationView.toValue) =
      .ok ((views.filter (·.optionsType.isSome)).map OperationView.toValue) := by
  have hholds (view : OperationView) :
      (dot "op" "options_type").holds (s.bind "op" view.toValue false) =
        .ok view.optionsType.isSome := by
    cases view with
    | mk _ _ _ _ _ _ _ _ type _ => cases type <;> rfl
  exact Result.filterM_map_eq_ok fun view _ => hholds view

/-- The types of the optional parameters of some operations. -/
theorem brings_optionsInterfaces {views : List OperationView}
    (hviews : e.eval s = .ok (some (.list (views.map OperationView.toValue)))) :
    Brings s (· = .code) [.each "op" e (some (dot "op" "options_type")) optionsInterface]
      (∃ op ∈ views, ∃ type ∈ op.optionsType, ∃ p ∈ type.properties,
        Text.endsComment p.description = true) (· = .code) := by
  have hchosen : Brings s (· = .code)
      [.each "op" e (some (dot "op" "options_type")) optionsInterface]
      (∃ op ∈ views.filter (·.optionsType.isSome), ∃ type ∈ op.optionsType,
        ∃ p ∈ type.properties, Text.endsComment p.description = true) (· = .code) := by
    refine .each hviews (chosenFrom_optionsType views) fun op hop isLast => ?_
    obtain ⟨type, htype⟩ := Option.isSome_iff_exists.mp (List.mem_filter.mp hop).2
    exact (brings_optionsInterface rfl htype).congr (by simp [htype])
  refine hchosen.congr ⟨?_, ?_⟩
  · rintro ⟨op, hop, hends⟩
    exact ⟨op, (List.mem_filter.mp hop).1, hends⟩
  · rintro ⟨op, hop, type, htype, hends⟩
    have hsome : op.optionsType.isSome = true := Option.isSome_of_mem htype
    exact ⟨op, List.mem_filter.mpr ⟨hop, hsome⟩, type, htype, hends⟩

/-- What stands behind the name of the group leads out of its comment. -/
theorem leads_moduleRest (st : Standing) (hst : InComment st) :
    Leads st ([line " */", generatedLine] ++ statement "import * as gateway from './gateway'" ++
      [line ""]) .code := by
  have hclose : Reads st " */\n" .code := by cases hst <;> rfl
  have hgenerated : Leads .code [generatedLine] .code :=
    .line .code .code (.ofList _ (by decide +kernel)) rfl .nil
  have himport : Leads .code (statement "import * as gateway from './gateway'") .code :=
    .statement (.ofList _ (by decide +kernel))
  have hblank : Leads .code [line ""] .code := .line .code .code (.ofList _ rfl) rfl .nil
  exact Leads.append (.text .code hclose hgenerated) himport |>.append hblank

/-- **The comments of a group's file** end too early exactly if the name of the group, a line of the
comment of a function or, in the language with types, the description of an optional parameter has
the end of a comment. -/
theorem brings_operations {view : OperationsView} (hs : scopeOf view.toValue = .ok s) :
    Brings s (· = .code) operations
      (Text.endsComment view.group = true ∨ ∃ op ∈ view.operations,
        (∃ l ∈ op.docLines, Text.endsComment l = true) ∨
          (view.typed = true ∧ ∃ type ∈ op.optionsType, ∃ p ∈ type.properties,
            Text.endsComment p.description = true))
      (· = .code) := by
  obtain rfl := Except.ok.inj ((scopeOf_record _).symm.trans hs)
  generalize hscope : Scope.mk _ _ = s
  have hgroup : (var "group").eval s = .ok (some (.str view.group)) := by rw [← hscope]; rfl
  have htyped : (var "typed").eval s = .ok (some (.bool view.typed)) := by rw [← hscope]; rfl
  have hoperations : (var "operations").eval s =
      .ok (some (.list (view.operations.map OperationView.toValue))) := by rw [← hscope]; rfl
  have hmodule : Brings s (· = .code)
      ([typesReference "types.ts", .text "/** @module "] ++
        ([.value (var "group")] ++
          ([line " */", generatedLine] ++ statement "import * as gateway from './gateway'" ++
            [line ""])))
      (Text.endsComment view.group = true) (· = .code) :=
    .behind (leads_code.1.append (.text .comment (.ofList _ (by decide +kernel)) .nil)).of_eq <|
      ((Brings.value hgroup).before leads_moduleRest).congr endsComment_str
  have hfunctions : Brings s (· = .code) [forEach "op" (var "operations") operationFunction]
      (∃ op ∈ view.operations, ∃ l ∈ op.docLines, Text.endsComment l = true) (· = .code) :=
    .forEach hoperations fun op isLast => brings_operationFunction rfl
  have htypes := Brings.optional htyped fun _ => brings_optionsInterfaces hoperations
  have hrecords : Leads .code [forEach "op" (var "operations") callRecord] .code :=
    .each leads_code.2.2.2 .nil
  exact (hmodule.append (hfunctions.append (htypes.before hrecords.of_eq))).congr
    (or_congr_right exists_mem_or_iff)

end ClientScribe.Template
