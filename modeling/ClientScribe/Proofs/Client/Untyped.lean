import ClientScribe.Proofs.Client.ActionCall

/-!
# Signatures Without Types

The language without types asks less of a description: where the row of an operation's arguments can
be made with types, it can be made without, and it is the same row with the types left out
(`arguments_untyped`). So the views of an operation in the two languages are the same but for the
signature and the type of the result (`operationView_untyped`), and those of its action but for the
signature (`actionView_untyped`); and what the signatures without types say is said by those with
types, with the types in between.
-/

namespace ClientScribe.Client

open Api (Operation)
open Document (Value)

variable {document : Value} {op : Operation} {options : Options} {package group : Text}
  {a : Argument} {args : List Argument} {view : OperationView} {action : ActionView}

/-! ### Arguments -/

/-- An argument as the language without types has it. -/
def Argument.untyped (a : Argument) : Argument := { a with type := none }

/-- Without its type an argument has the same name. -/
@[simp] theorem Argument.name_untyped (a : Argument) : a.untyped.name = a.name := rfl

/-- Without its type an argument is written as its name. -/
@[simp] theorem Argument.text_untyped (a : Argument) : a.untyped.text = a.name := rfl

/-- A required argument can be made without its type. -/
theorem requiredArgument_untyped {target : Value} (h : requiredArgument true target = .ok a) :
    requiredArgument false target = .ok a.untyped ∧ a.type.isSome = true := by
  simp only [requiredArgument, if_true, Result.bind_eq_ok_iff, Result.pure_def,
    Except.ok.injEq] at h
  obtain ⟨name, hname, _, -, _, -, rfl⟩ := h
  simp [requiredArgument, hname, Argument.untyped]

/-- The argument of the body can be made without its type. -/
theorem bodyArgument_untyped (h : bodyArgument document op true = .ok a) :
    bodyArgument document op false = .ok a.untyped ∧ a.type.isSome = true := by
  simp only [bodyArgument, if_true, Result.bind_eq_ok_iff, Result.pure_def, Except.ok.injEq] at h
  obtain ⟨_, -, _, -, _, -, _, -, rfl⟩ := h
  exact ⟨rfl, rfl⟩

/-- The argument of the optional parameters can be made without its type. -/
theorem optionsArgument_untyped (h : optionsArgument op true package = .ok a) :
    optionsArgument op false package = .ok a.untyped ∧ a.type.isSome = true := by
  simp only [optionsArgument, if_true, Result.bind_eq_ok_iff, Result.pure_def,
    Except.ok.injEq] at h
  obtain ⟨_, -, _, -, rfl⟩ := h
  exact ⟨rfl, rfl⟩

/-- A row of required arguments can be made without their types. -/
theorem mapM_requiredArgument_untyped {targets : List Value}
    (h : targets.mapM (requiredArgument true) = .ok args) :
    targets.mapM (requiredArgument false) = .ok (args.map Argument.untyped) ∧
      ∀ a ∈ args, a.type.isSome = true := by
  constructor
  · refine Result.mapM_eq_ok_iff.mpr (List.forall₂_map_right_iff.mpr ?_)
    exact (Result.mapM_eq_ok_iff.mp h).imp fun target a ha => (requiredArgument_untyped ha).1
  · intro a ha
    obtain ⟨target, -, ha⟩ := Result.exists_of_mem_mapM h ha
    exact (requiredArgument_untyped ha).2

/-- **A row without its types.** Where the arguments of an operation can be made with types, each of
them has one, and without types there are the same arguments. -/
theorem arguments_untyped (h : arguments document op true package = .ok args) :
    arguments document op false package = .ok (args.map Argument.untyped) ∧
      (∀ a ∈ args, a.type.isSome = true) ∧ ∀ a ∈ args, a.name ≠ [] := by
  obtain ⟨parameters, row, hrow, rfl⟩ := arguments_eq_ok_iff.mp h
  obtain ⟨hrequired, htyped⟩ := mapM_requiredArgument_untyped hrow.required
  refine ⟨arguments_eq_ok_iff.mpr ⟨parameters,
    ⟨row.required.map Argument.untyped, row.body.map Argument.untyped,
      row.optional.map Argument.untyped⟩, ⟨hrow.split, hrequired, ?_, ?_, ?_, ?_⟩, ?_⟩, ?_,
    hrow.name_ne_nil⟩
  · rw [Option.isSome_map, hrow.hasBody]
  · intro _ ha
    obtain ⟨a, hbody, rfl⟩ := Option.map_eq_some_iff.mp ha
    exact (bodyArgument_untyped (hrow.body a hbody)).1
  · rw [Option.isSome_map, hrow.hasOptional]
  · intro _ ha
    obtain ⟨a, hoptional, rfl⟩ := Option.map_eq_some_iff.mp ha
    exact (optionsArgument_untyped (hrow.optional a hoptional)).1
  · rw [ArgumentRow.toList, ArgumentRow.toList, List.map_append, List.map_append]
    cases row.body <;> cases row.optional <;> rfl
  · intro a ha
    simp only [ArgumentRow.toList, List.mem_append, Option.mem_toList] at ha
    obtain (ha | ha) | ha := ha
    · exact htyped a ha
    · exact (bodyArgument_untyped (hrow.body a ha)).2
    · exact (optionsArgument_untyped (hrow.optional a ha)).2

/-! ### Signatures -/

/-- An argument's name stands at the start of its text. -/
theorem name_sublist_text (a : Argument) : a.name.Sublist a.text := by
  unfold Argument.text
  split
  · rw [List.append_assoc]
    exact List.sublist_append_left _ _
  · exact .refl _

/-- What is left of each text is left of the row of texts. -/
theorem intercalate_sublist {between : Text} {texts texts' : List Text}
    (h : List.Forall₂ List.Sublist texts' texts) :
    (Text.intercalate between texts').Sublist (Text.intercalate between texts) := by
  induction h with
  | nil => exact .refl _
  | @cons text' text more' more htext hmore ih =>
      cases hmore with
      | nil => simpa [Text.intercalate] using htext
      | cons hnext hmore =>
          simp only [Text.intercalate, List.intercalate_cons_cons] at ih ⊢
          exact (htext.append (.refl _)).append ih

/-- The names of arguments are what a signature without types leaves of one with types. -/
theorem names_sublist_signature (args : List Argument) :
    (Text.intercalate ", " (args.map Argument.name)).Sublist
      (Text.intercalate ", " (args.map Argument.text)) := by
  refine intercalate_sublist (List.forall₂_map_left_iff.mpr (List.forall₂_map_right_iff.mpr ?_))
  exact List.forall₂_same.mpr fun a _ => name_sublist_text a

/-! ### Views -/

/-- **The view of an operation in the two languages.** Where the one with types can be made, its
signature is a row of arguments with types; the one without types can be made too, and it has the
names of these arguments as its signature and nothing as the type of the result. -/
theorem operationView_untyped
    (h : operationView document op { options with language := .ts } = .ok view) :
    ∃ args, arguments document op true [] = .ok args ∧ (∀ a ∈ args, a.type.isSome = true) ∧
      view.signature = Text.intercalate ", " (args.map Argument.text) ∧
      operationView document op { options with language := .js } =
        .ok { view with
          signature := Text.intercalate ", " (args.map Argument.name), returnSignature := [] } := by
  have hts : ({ options with language := .ts } : Options).typed = true := rfl
  have hjs : ({ options with language := .js } : Options).typed = false := rfl
  simp only [operationView, signature, hts, if_true, Result.bind_eq_ok_iff, Result.pure_def,
    Except.ok.injEq] at h
  obtain ⟨parameters, hparameters, body, hbody, groups, hgroups, _, -, lines, hlines, _,
    ⟨args, hargs, rfl⟩, type, htype, info, hinfo, rfl⟩ := h
  obtain ⟨huntyped, htyped, -⟩ := arguments_untyped hargs
  refine ⟨args, hargs, htyped, rfl, ?_⟩
  simp [operationView, signature, hjs, hparameters, hbody, hgroups, hlines, huntyped, htype, hinfo,
    Function.comp_def]

/-- **The view of an action in the two languages.** Where the one with types can be made, so can the
one without, and it is the same but for what the signature leaves out. -/
theorem actionView_untyped
    (h : actionView document group op { options with language := .ts } = .ok action) :
    ∃ left, left.Sublist action.signature ∧
      actionView document group op { options with language := .js } =
        .ok { action with signature := left } := by
  have hts : ({ options with language := .ts } : Options).typed = true := rfl
  have hjs : ({ options with language := .js } : Options).typed = false := rfl
  simp only [actionView, signature, hts, Result.bind_eq_ok_iff, Result.pure_def,
    Except.ok.injEq] at h
  obtain ⟨_, ⟨args, hargs, rfl⟩, names, hnames, id, hid, type, htype, rfl⟩ := h
  obtain ⟨huntyped, -, hne⟩ := arguments_untyped hargs
  have hleft : withInfo (Text.intercalate ", " (args.map Argument.name)) false =
      Text.intercalate ", " ((args ++ [infoArgument true]).map Argument.name) := by
    have hnames : (args.map Argument.untyped).map Argument.text = args.map Argument.name := by
      simp [Function.comp_def]
    rw [← hnames, withInfo_intercalate (by simpa using hne), List.map_append, List.map_append,
      hnames]
    rfl
  refine ⟨withInfo (Text.intercalate ", " (args.map Argument.name)) false, ?_, ?_⟩
  · rw [hleft, withInfo_intercalate hne]
    exact names_sublist_signature _
  · simp [actionView, signature, hjs, huntyped, hnames, hid, htype, Function.comp_def]

end ClientScribe.Client
