import ClientScribe.Client.OperationView
import ClientScribe.Proofs.Result

/-!
# Rows of Arguments

The arguments of an operation's function are those of its required parameters, one for the body of
the request if there is one, and one for the optional parameters if there are any
(`arguments_eq_ok_iff`). The name of each is fixed, and so is whether a call may leave it out; only
the type of the optional parameters depends on where it is looked for, so the rows for two places
are the same but for the package of that type (`IsRow.toList_inPackage`).
-/

namespace ClientScribe.Client

open Api (Operation)
open Document (Value)

variable {document : Value} {op : Operation} {typed : Bool} {package : Text} {a : Argument}
  {args : List Argument}

/-! ### Single arguments -/

/-- A required argument has the name of its parameter. -/
theorem parameterName_of_requiredArgument {target : Value} {a : Argument} {typed : Bool}
    (h : requiredArgument typed target = .ok a) : parameterName target = .ok a.name := by
  simp only [requiredArgument, Result.bind_eq_ok_iff] at h
  obtain ⟨name, hname, h⟩ := h
  rw [hname]
  split at h
  · simp only [Result.bind_eq_ok_iff, Result.pure_def, Except.ok.injEq] at h
    obtain ⟨_, -, _, -, rfl⟩ := h
    rfl
  · obtain rfl := Except.ok.inj h
    rfl

/-- The argument of a required parameter must be given. -/
theorem optional_of_requiredArgument {target : Value} (h : requiredArgument typed target = .ok a) :
    a.optional = false := by
  simp only [requiredArgument, Result.bind_eq_ok_iff] at h
  obtain ⟨_, -, h⟩ := h
  split at h
  · simp only [Result.bind_eq_ok_iff, Result.pure_def, Except.ok.injEq] at h
    obtain ⟨_, -, _, -, rfl⟩ := h
    rfl
  · obtain rfl := Except.ok.inj h
    rfl

/-- The argument of the body is called so, and a call must give it. -/
theorem bodyArgument_eq_ok (h : bodyArgument document op typed = .ok a) :
    a.name = Text.ofString "body" ∧ a.optional = false := by
  unfold bodyArgument at h
  split at h
  · simp only [Result.bind_eq_ok_iff, Result.pure_def, Except.ok.injEq] at h
    obtain ⟨_, -, _, -, _, -, _, -, rfl⟩ := h
    exact ⟨rfl, rfl⟩
  · obtain rfl := Except.ok.inj h
    exact ⟨rfl, rfl⟩

/-- The argument of the optional parameters is called so, and a call may leave it out. -/
theorem name_of_optionsArgument (h : optionsArgument op typed package = .ok a) :
    a.name = Text.ofString "options" := by
  unfold optionsArgument at h
  split at h
  · simp only [Result.bind_eq_ok_iff, Result.pure_def, Except.ok.injEq] at h
    obtain ⟨_, -, _, -, rfl⟩ := h
    rfl
  · obtain rfl := Except.ok.inj h
    rfl

/-- There is a type of the optional parameters exactly if there are any. -/
theorem isSome_of_optionsType {type : Option OptionsType} {optional : List Value}
    (h : optionsType op optional = .ok type) : type.isSome = !optional.isEmpty := by
  unfold optionsType at h
  split at h
  · next hnone =>
    obtain rfl := Except.ok.inj h
    simp [hnone]
  · next hsome =>
    simp only [Result.bind_eq_ok_iff, Result.pure_def, Except.ok.injEq] at h
    obtain ⟨_, -, _, -, _, -, rfl⟩ := h
    simp [hsome]

/-- In the language with types the argument of the optional parameters has their type. -/
theorem optionsArgument_of_optionsType {type : OptionsType} {optional : List Value}
    (htype : optionsType op optional = .ok (some type)) (typed : Bool) (package : Text) :
    optionsArgument op typed package =
      .ok ⟨"options", true, if typed then some (package ++ type.name) else none⟩ := by
  unfold optionsType at htype
  split at htype
  · cases htype
  · simp only [Result.bind_eq_ok_iff, Result.pure_def, Except.ok.injEq, Option.some.injEq] at htype
    obtain ⟨id, hid, name, hname, properties, -, rfl⟩ := htype
    cases typed with
    | false => rfl
    | true => simp [optionsArgument, hid, hname]

/-! ### The row -/

/-- The arguments of an operation's function by what they are for. -/
structure ArgumentRow where
  required : List Argument
  body : Option Argument
  optional : Option Argument

/-- The arguments in their order. -/
def ArgumentRow.toList (row : ArgumentRow) : List Argument :=
  row.required ++ row.body.toList ++ row.optional.toList

/-- The row is that of an operation whose parameters are split in this way. -/
structure IsRow (document : Value) (op : Operation) (typed : Bool) (package : Text)
    (parameters : Api.Parameters) (row : ArgumentRow) : Prop where
  split : Api.partitioned document op.parameters = .ok parameters
  required : parameters.required.mapM (requiredArgument typed) = .ok row.required
  hasBody : row.body.isSome = op.requestBody.isTrue
  body : ∀ a ∈ row.body, bodyArgument document op typed = .ok a
  hasOptional : row.optional.isSome = !parameters.optional.isEmpty
  optional : ∀ a ∈ row.optional, optionsArgument op typed package = .ok a

/-- The arguments of an operation make a row. -/
theorem arguments_eq_ok_iff : arguments document op typed package = .ok args ↔
    ∃ parameters row, IsRow document op typed package parameters row ∧ args = row.toList := by
  simp only [arguments, ite_eq_iff, Result.bind_eq_ok_iff, Result.pure_def, Except.ok.injEq,
    exists_eq_left']
  constructor
  · rintro ⟨split, hsplit, required, hrequired, ⟨hbody, a, ha, h⟩ | ⟨hbody, h⟩⟩
    · obtain ⟨hnone, rfl⟩ | ⟨hsome, last, hlast, rfl⟩ := h
      · exact ⟨split, ⟨required, some a, none⟩, ⟨hsplit, hrequired, by simp [hbody], by simp [ha],
          by simp [hnone], by simp⟩, rfl⟩
      · exact ⟨split, ⟨required, some a, some last⟩, ⟨hsplit, hrequired, by simp [hbody],
          by simp [ha], by simp [hsome], by simp [hlast]⟩, rfl⟩
    · obtain ⟨hnone, rfl⟩ | ⟨hsome, last, hlast, rfl⟩ := h
      · exact ⟨split, ⟨required, none, none⟩, ⟨hsplit, hrequired, by simp [hbody], by simp,
          by simp [hnone], by simp⟩, rfl⟩
      · exact ⟨split, ⟨required, none, some last⟩, ⟨hsplit, hrequired, by simp [hbody], by simp,
          by simp [hsome], by simp [hlast]⟩, rfl⟩
  · rintro ⟨split, ⟨required, body, optional⟩, h, rfl⟩
    refine ⟨split, h.split, required, h.required, ?_⟩
    obtain ⟨-, -, hhasBody, hbody, hhasOptional, hoptional⟩ := h
    cases body <;> cases optional <;> simp_all [ArgumentRow.toList]

/-- The argument of the optional parameters as it is for those who find its type in a package. -/
def Argument.inPackage (package : Text) (a : Argument) : Argument :=
  if a.optional then { a with type := a.type.map (package ++ ·) } else a

/-- The name of the argument of the body, if there is one. -/
def bodyName (op : Operation) : List Text :=
  if op.requestBody.isTrue then ["body"] else []

/-- The name of the argument of the optional parameters, if there are any. -/
def optionsName (parameters : Api.Parameters) : List Text :=
  if parameters.optional.isEmpty then [] else ["options"]

namespace IsRow

variable {parameters : Api.Parameters} {row : ArgumentRow}

/-- The argument of the body has the name that the operation says. -/
theorem map_name_body (h : IsRow document op typed package parameters row) :
    row.body.toList.map Argument.name = bodyName op := by
  have hsome := h.hasBody
  unfold bodyName
  cases hbody : row.body with
  | none => simp_all
  | some a =>
      have hname := (bodyArgument_eq_ok (h.body a hbody)).1
      simp_all

/-- The argument of the optional parameters has its fixed name, if there are any. -/
theorem map_name_optional (h : IsRow document op typed package parameters row) :
    row.optional.toList.map Argument.name = optionsName parameters := by
  have hsome := h.hasOptional
  unfold optionsName
  cases hoptional : row.optional with
  | none => simp_all
  | some a =>
      have hname := name_of_optionsArgument (h.optional a hoptional)
      simp_all

/-- The names of the required arguments are those of their parameters. -/
theorem map_name_required (h : IsRow document op typed package parameters row) :
    parameters.required.mapM parameterName = .ok (row.required.map Argument.name) := by
  refine Result.mapM_eq_ok_iff.mpr ?_
  rw [List.forall₂_map_right_iff]
  exact (Result.mapM_eq_ok_iff.mp h.required).imp fun _ _ => parameterName_of_requiredArgument

/-- The names of the arguments: of the required parameters, the body and the options. -/
theorem map_name_toList (h : IsRow document op typed package parameters row) :
    row.toList.map Argument.name =
      row.required.map Argument.name ++ bodyName op ++ optionsName parameters := by
  rw [ArgumentRow.toList, List.map_append, List.map_append, h.map_name_body, h.map_name_optional]

/-- A call must give the arguments in front of that of the optional parameters. -/
theorem optional_eq_false (h : IsRow document op typed package parameters row) :
    ∀ a ∈ row.required ++ row.body.toList, a.optional = false := by
  intro a ha
  obtain ha | ha := List.mem_append.mp ha
  · obtain ⟨target, -, htarget⟩ := Result.exists_of_mem_mapM h.required ha
    exact optional_of_requiredArgument htarget
  · exact (bodyArgument_eq_ok (h.body a (Option.mem_toList.mp ha))).2

/-- The argument of the optional parameters is the only one that a call may leave out. -/
theorem filter_optional_toList {type : Option OptionsType}
    (h : IsRow document op typed package parameters row)
    (htype : optionsType op parameters.optional = .ok type) :
    row.toList.filter Argument.optional = type.toList.map fun t =>
      ⟨"options", true, if typed then some (package ++ t.name) else none⟩ := by
  have hgiven : (row.required ++ row.body.toList).filter Argument.optional = [] :=
    List.filter_eq_nil_iff.mpr fun a ha => by simp [h.optional_eq_false a ha]
  have hsome := h.hasOptional.trans (isSome_of_optionsType htype).symm
  rw [ArgumentRow.toList, List.filter_append, hgiven, List.nil_append]
  cases hoptional : row.optional with
  | none =>
      cases type with
      | none => rfl
      | some t => simp [hoptional] at hsome
  | some a =>
      cases type with
      | none => simp [hoptional] at hsome
      | some t =>
          have ha := h.optional a hoptional
          rw [optionsArgument_of_optionsType htype] at ha
          obtain rfl := Except.ok.inj ha
          rfl

/-- In a package the row is the same but for the type of the optional parameters. -/
theorem inPackage {type : Option OptionsType} (h : IsRow document op typed [] parameters row)
    (htype : optionsType op parameters.optional = .ok type) (package : Text) :
    IsRow document op typed package parameters
      { row with optional := row.optional.map (Argument.inPackage package) } where
  split := h.split
  required := h.required
  hasBody := h.hasBody
  body := h.body
  hasOptional := by simpa using h.hasOptional
  optional := by
    intro _ ha
    obtain ⟨a, hoptional, rfl⟩ := Option.map_eq_some_iff.mp ha
    have hsome := h.hasOptional.symm.trans (congrArg Option.isSome hoptional)
    rw [← isSome_of_optionsType htype] at hsome
    obtain ⟨t, rfl⟩ := Option.isSome_iff_exists.mp hsome
    have harg := h.optional a hoptional
    rw [optionsArgument_of_optionsType htype] at harg ⊢
    obtain rfl := Except.ok.inj harg
    cases typed <;> rfl

/-- In a package only the argument of the optional parameters has another type. -/
theorem toList_inPackage (h : IsRow document op typed [] parameters row) (package : Text) :
    ArgumentRow.toList { row with optional := row.optional.map (Argument.inPackage package) } =
      row.toList.map (Argument.inPackage package) := by
  have hgiven : (row.required ++ row.body.toList).map (Argument.inPackage package) =
      row.required ++ row.body.toList := by
    refine (List.map_congr_left fun a ha => ?_).trans (List.map_id _)
    rw [Argument.inPackage, h.optional_eq_false a ha]
    rfl
  rw [ArgumentRow.toList, ArgumentRow.toList, List.map_append, hgiven]
  cases row.optional <;> rfl

end IsRow

end ClientScribe.Client
