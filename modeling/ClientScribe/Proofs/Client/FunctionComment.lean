import ClientScribe.Proofs.Client.ActionCall
import ClientScribe.Proofs.Template.CommentRows

/-!
# The Texts in the Comment of a Function

The comment of a function is put together from texts of the document with fixed texts between them,
and some of the texts are trimmed and written over several lines first. None of this makes an end of
a comment or takes one away. `OperationText` says which texts of the document these are; the comment
has an end of a comment in one of its lines exactly if one of these texts has one
(`ends_docLines_iff`).
-/

namespace ClientScribe.Client

open Api (Operation)
open Document (Value)
open Template (EndsComment)
open Text (endsComment isSeam)

/-! ### Descriptions -/

/-- The text of a description as the document has it. -/
def descriptionText (description : Value) : Result Text :=
  (description.orElse (.str [])).asText

variable {description : Value} {seam start t line : Text}

/-- Starts of comment lines behind the line ends do not matter. -/
theorem endsComment_continueLines (h : isSeam (.char '\n' :: seam) = true) (s : Text) :
    endsComment (continueLines seam s) = endsComment s := by
  induction s with
  | nil => rfl
  | cons c s ih =>
      rw [continueLines, List.flatMap_cons]
      split
      · next hc =>
        obtain rfl : c = .char '\n' := by simpa using hc
        rw [Text.endsComment_seam_append h]
        exact ih
      · -- the code point behind `c` is the same, or `c` has none behind it
        have hhead : (continueLines seam s).head? = s.head? := by
          cases s with
          | nil => rfl
          | cons d s =>
              rw [continueLines, List.flatMap_cons]
              split <;> rfl
        have hrest : List.flatMap (fun c => if (c == .char '\n') = true then c :: seam else [c]) s =
            continueLines seam s := rfl
        rw [hrest, List.singleton_append, endsComment, endsComment, ih, hhead]

/-- A description has the end of a comment where its text has one. -/
theorem exists_of_describe (hseam : isSeam (.char '\n' :: (start ++ indentUnit)) = true)
    (h : describe description start = .ok t) :
    ∃ raw, descriptionText description = .ok raw ∧ endsComment t = endsComment raw := by
  obtain ⟨raw, hraw, h⟩ := Result.bind_eq_ok_iff.mp h
  obtain rfl := Except.ok.inj h
  refine ⟨raw, hraw, ?_⟩
  rw [endsComment_continueLines hseam, Text.endsComment_strip]

/-- The start of a line in a comment comes between lines without ending it. -/
theorem isSeam_commentLine : isSeam (.char '\n' :: (commentLine ++ indentUnit)) = true := by
  decide

/-- So does the start of a line in the comment of a member. -/
theorem isSeam_memberCommentLine :
    isSeam (.char '\n' :: (memberCommentLine ++ indentUnit)) = true := by
  decide

/-! ### The comment of a function -/

/-- The default value of a parameter. -/
def defaultOf (parameter : Value) : Result Value := do
  parameter.fieldOr "default" (← schemaField parameter "default")

/-- A description behind the values that are listed, if there are any. -/
def behindListed (values : Value) (described : Text) : Result Text :=
  if values.isTrue then do
    let texts ← (← values.members).mapM Value.text
    return "Enum: " ++ Text.intercalate ", " texts ++ ". " ++ described
  else pure described

section Parameters

variable {parameter values : Value} {required : Bool} {argument name described full : Text}

/-- What the line of a parameter is put together from. -/
theorem parameterLine_eq_ok (h : parameterLine parameter required = .ok line) :
    ∃ argument name description described values full type typeText,
      parameterName parameter = .ok argument ∧
      (if required then pure argument else optionalName parameter argument) = .ok name ∧
      parameter.field "description" = .ok description ∧
      describe description commentLine = .ok described ∧
      listedValues parameter = .ok values ∧ behindListed values described = .ok full ∧
      Schema.docTypeText parameter = .ok type ∧ type.text = .ok typeText ∧
      line = Text.stripEnd
        (commentLine ++ "@param \x7b" ++ typeText ++ "\x7d " ++ name ++ " " ++ full) := by
  have hlisted {described values} {vs : List Value} {texts : List Text}
      (htrue : values.isTrue = true) (hvs : values.members = .ok vs)
      (htexts : vs.mapM Value.text = .ok texts) : behindListed values described =
        .ok ("Enum: " ++ Text.intercalate ", " texts ++ ". " ++ described) := by
    rw [behindListed, if_pos htrue, hvs, Result.ok_bind, htexts, Result.ok_bind, Result.pure_def]
  have hplain {described values} (hfalse : ¬values.isTrue = true) :
      behindListed values described = .ok described := by
    rw [behindListed, if_neg hfalse, Result.pure_def]
  simp only [parameterLine, ite_eq_iff, Result.bind_eq_ok_iff, Result.pure_def,
    Except.ok.injEq, exists_eq_left'] at h
  obtain ⟨argument, hargument, ⟨hrequired, h⟩ | ⟨hrequired, name, hname, h⟩⟩ := h
  · obtain ⟨description, hdescription, described, hdescribed, values, hvalues,
      ⟨htrue, vs, hvs, texts, htexts, type, htype, typeText, htypeText, rfl⟩ |
      ⟨hfalse, type, htype, typeText, htypeText, rfl⟩⟩ := h
    · exact ⟨argument, argument, description, described, values, _, type, typeText, hargument,
        if_pos hrequired, hdescription, hdescribed, hvalues, hlisted htrue hvs htexts, htype,
        htypeText, rfl⟩
    · exact ⟨argument, argument, description, described, values, _, type, typeText, hargument,
        if_pos hrequired, hdescription, hdescribed, hvalues, hplain hfalse, htype, htypeText, rfl⟩
  · obtain ⟨description, hdescription, described, hdescribed, values, hvalues,
      ⟨htrue, vs, hvs, texts, htexts, type, htype, typeText, htypeText, rfl⟩ |
      ⟨hfalse, type, htype, typeText, htypeText, rfl⟩⟩ := h
    · exact ⟨argument, name, description, described, values, _, type, typeText, hargument,
        (if_neg hrequired).trans hname, hdescription, hdescribed, hvalues,
        hlisted htrue hvs htexts, htype, htypeText, rfl⟩
    · exact ⟨argument, name, description, described, values, _, type, typeText, hargument,
        (if_neg hrequired).trans hname, hdescription, hdescribed, hvalues, hplain hfalse, htype,
        htypeText, rfl⟩

/-- The name of a parameter in a comment has its default value beside it. -/
theorem ends_name_iff
    (h : (if required then pure argument else optionalName parameter argument) = .ok name) :
    endsComment name = true ↔ endsComment argument = true ∨ required = false ∧ ∃ v t,
      defaultOf parameter = .ok v ∧ v.isNull = false ∧ v.text = .ok t ∧ endsComment t = true := by
  cases required with
  | true =>
      obtain rfl := Except.ok.inj h
      simp
  | false =>
      simp only [Bool.false_eq_true, if_false, optionalName, ite_eq_iff, Result.bind_eq_ok_iff,
        Result.pure_def, Except.ok.injEq, exists_eq_left'] at h
      obtain ⟨other, hother, v, hv, h⟩ := h
      have hdefault : defaultOf parameter = .ok v := by rw [defaultOf, hother, Result.ok_bind, hv]
      obtain ⟨hnull, rfl⟩ | ⟨hnull, t, ht, rfl⟩ := h
      · rw [List.append_nil, Text.endsComment_append_seam (by decide),
          Text.endsComment_seam_append (by decide)]
        refine (or_iff_left ?_).symm
        rintro ⟨-, v', t, hdefault', hnull', -⟩
        obtain rfl := Except.ok.inj (hdefault.symm.trans hdefault')
        rw [hnull] at hnull'
        cases hnull'
      · rw [Text.endsComment_append_seam (by decide), ← List.append_assoc,
          Text.endsComment_seam (by decide), Text.endsComment_seam_append (by decide),
          Bool.or_eq_true]
        refine or_congr_right ⟨fun h => ⟨rfl, v, t, hdefault, by simpa using hnull, ht, h⟩, ?_⟩
        rintro ⟨-, v', t', hdefault', -, ht', h⟩
        obtain rfl := Except.ok.inj (hdefault.symm.trans hdefault')
        obtain rfl := Except.ok.inj (ht.symm.trans ht')
        exact h

/-- The values in front of a description end a comment where one of them or the description does. -/
theorem ends_behindListed_iff (h : behindListed values described = .ok full) :
    endsComment full = true ↔ endsComment described = true ∨ values.isTrue = true ∧ ∃ vs v t,
      values.members = .ok vs ∧ v ∈ vs ∧ v.text = .ok t ∧ endsComment t = true := by
  unfold behindListed at h
  split at h
  · next htrue =>
    simp only [Result.bind_eq_ok_iff, Result.pure_def, Except.ok.injEq] at h
    obtain ⟨vs, hvs, texts, htexts, rfl⟩ := h
    have hfull : endsComment ("Enum: " ++ Text.intercalate ", " texts ++ ". " ++ described) =
        (texts.any endsComment || endsComment described) := by
      rw [Text.endsComment_seam (by decide), Text.endsComment_seam_append (by decide),
        Text.endsComment_intercalate (by decide)]
    rw [hfull, Bool.or_eq_true, or_comm, List.any_eq_true]
    refine or_congr_right ⟨?_, ?_⟩
    · rintro ⟨t, ht, hends⟩
      obtain ⟨v, hv, htext⟩ := Result.exists_of_mem_mapM htexts ht
      exact ⟨htrue, vs, v, t, hvs, hv, htext, hends⟩
    · rintro ⟨-, vs', v, t, hvs', hv, htext, hends⟩
      obtain rfl := Except.ok.inj (hvs.symm.trans hvs')
      obtain ⟨t', ht', htext'⟩ := Result.exists_of_mem_of_mapM htexts hv
      obtain rfl := Except.ok.inj (htext.symm.trans htext')
      exact ⟨t, ht', hends⟩
  · next hfalse =>
    obtain rfl := Except.ok.inj h
    simp [hfalse]

/-- A text of a parameter that stands in the comment of a function. -/
inductive ParameterText (parameter : Value) (required : Bool) : Text → Prop
  | name {t : Text} (h : parameterName parameter = .ok t) : ParameterText parameter required t
  | type {type : Value} {t : Text} (htype : Schema.docTypeText parameter = .ok type)
    (h : type.text = .ok t) : ParameterText parameter required t
  | description {description : Value} {t : Text}
    (hdescription : parameter.field "description" = .ok description)
    (h : descriptionText description = .ok t) : ParameterText parameter required t
  /-- A value that the parameter can have. -/
  | listed {values v : Value} {vs : List Value} {t : Text}
    (hvalues : listedValues parameter = .ok values) (htrue : values.isTrue = true)
    (hvs : values.members = .ok vs) (hv : v ∈ vs) (h : v.text = .ok t) :
    ParameterText parameter required t
  /-- The value that the parameter has if it is not given. -/
  | default {v : Value} {t : Text} (hrequired : required = false)
    (hdefault : defaultOf parameter = .ok v) (hnull : v.isNull = false) (h : v.text = .ok t) :
    ParameterText parameter required t

/-- The line of a parameter ends a comment exactly if a text of the parameter in it does. -/
theorem ends_parameterLine_iff (h : parameterLine parameter required = .ok line) :
    endsComment line = true ↔
      ∃ t, ParameterText parameter required t ∧ endsComment t = true := by
  obtain ⟨argument, name, description, described, values, full, type, typeText, hargument, hname,
    hdescription, hdescribed, hvalues, hfull, htype, htypeText, rfl⟩ := parameterLine_eq_ok h
  obtain ⟨raw, hraw, hends⟩ := exists_of_describe isSeam_commentLine hdescribed
  have hline : endsComment (Text.stripEnd
      (commentLine ++ "@param \x7b" ++ typeText ++ "\x7d " ++ name ++ " " ++ full)) =
      (endsComment typeText || endsComment name || endsComment full) := by
    rw [Text.endsComment_stripEnd, Text.endsComment_seam (by decide),
      Text.endsComment_seam (by decide), Text.endsComment_seam_append (by decide)]
  simp only [hline, Bool.or_eq_true, ends_name_iff hname, ends_behindListed_iff hfull, hends]
  constructor
  · rintro ((h | h | ⟨hrequired, v, t, hdefault, hnull, ht, h⟩) |
      h | ⟨htrue, vs, v, t, hvs, hv, ht, h⟩)
    · exact ⟨typeText, .type htype htypeText, h⟩
    · exact ⟨argument, .name hargument, h⟩
    · exact ⟨t, .default hrequired hdefault hnull ht, h⟩
    · exact ⟨raw, .description hdescription hraw, h⟩
    · exact ⟨t, .listed hvalues htrue hvs hv ht, h⟩
  · rintro ⟨t, ht, h⟩
    cases ht with
    | name ht =>
        obtain rfl := Except.ok.inj (hargument.symm.trans ht)
        exact .inl (.inr (.inl h))
    | type htype' ht =>
        obtain rfl := Except.ok.inj (htype.symm.trans htype')
        obtain rfl := Except.ok.inj (htypeText.symm.trans ht)
        exact .inl (.inl h)
    | description hdescription' ht =>
        obtain rfl := Except.ok.inj (hdescription.symm.trans hdescription')
        obtain rfl := Except.ok.inj (hraw.symm.trans ht)
        exact .inr (.inl h)
    | listed hvalues' htrue hvs hv ht =>
        obtain rfl := Except.ok.inj (hvalues.symm.trans hvalues')
        exact .inr (.inr ⟨htrue, _, _, _, hvs, hv, ht, h⟩)
    | default hrequired hdefault hnull ht =>
        exact .inl (.inr (.inr ⟨hrequired, _, _, hdefault, hnull, ht, h⟩))

end Parameters

section Operations

variable {document schema : Value} {op : Operation} {lines : List Text}
  {parameters : Api.Parameters}

/-- Cutting off blanks neither makes an end of a comment nor takes one away. -/
theorem ends_stripped_iff {v : Value} {t : Text} (h : stripped v = .ok t) :
    endsComment t = true ↔ ∃ raw, v.asText = .ok raw ∧ endsComment raw = true := by
  cases v with
  | str raw =>
      obtain rfl : Text.strip raw = t := Except.ok.inj h
      rw [Text.endsComment_strip]
      simp [Value.asText]
  | bytes content =>
      -- nothing is left of bytes that go through
      rw [stripped] at h
      split at h
      · obtain rfl := Except.ok.inj h
        simp [Value.asText, Document.misfit, endsComment]
      · cases h
  | _ => cases h

/-- The comment says what the operation does in its first lines. -/
theorem ends_summaryLines_iff (h : summaryLines op = .ok lines) :
    lines.any endsComment = true ↔
      ∃ t, descriptionText (op.description.orElse op.summary) = .ok t ∧ endsComment t = true := by
  obtain ⟨text, htext, h⟩ := Result.bind_eq_ok_iff.mp h
  have hlines : lines.any endsComment = endsComment text := by
    split at h
    · next hempty =>
      obtain rfl := Except.ok.inj h
      rw [List.isEmpty_iff.mp hempty]
      rfl
    · obtain rfl := Except.ok.inj h
      rw [List.any_cons, List.any_cons, List.any_nil, Text.endsComment_seam_append (by decide),
        endsComment_continueLines (by decide), Text.endsComment_stripEnd]
      simp [show endsComment commentLine = false by decide]
  rw [hlines]
  exact ends_stripped_iff htext

/-- The lines of parameters end a comment exactly if a text of one of the parameters does. -/
theorem ends_parameterLines_iff {required : Bool} {ps : List Value}
    (h : ps.mapM (parameterLine · required) = .ok lines) : lines.any endsComment = true ↔
      ∃ p ∈ ps, ∃ t, ParameterText p required t ∧ endsComment t = true := by
  rw [List.any_eq_true]
  exact Result.exists_mem_iff_of_mapM h fun p _ line hline => ends_parameterLine_iff hline

/-- The line of the body ends a comment exactly if the text of its type does. -/
theorem ends_bodyLine_iff (h : bodyLine op schema = .ok line) : endsComment line = true ↔
    ∃ name type, requestTypeName op.id = .ok name ∧ bodyDocType schema name = .ok type ∧
      EndsComment type := by
  simp only [bodyLine, Result.bind_eq_ok_iff, Result.pure_def, Except.ok.injEq] at h
  obtain ⟨name, hname, type, htype, t, ht, rfl⟩ := h
  rw [Text.endsComment_append_seam (by decide), Text.endsComment_seam_append (by decide)]
  refine ⟨fun hends => ⟨name, type, hname, htype, t, ht, hends⟩, ?_⟩
  rintro ⟨name', type', hname', htype', t', ht', hends⟩
  obtain rfl := Except.ok.inj (hname.symm.trans hname')
  obtain rfl := Except.ok.inj (htype.symm.trans htype')
  obtain rfl := Except.ok.inj (ht.symm.trans ht')
  exact hends

/-- The description of a response, if there is one. -/
def responseDescription (response : Option Value) : Result Value :=
  match response.filter Value.isTrue with
  | some response => response.field "description"
  | none => pure .null

/-- The line that says what a function returns if it is said of this response. -/
def returnLineOf (id : Value) (response : Option Value) : Result Text := do
  let type ← (← bodyDocType (← schemaOf response) (← responseTypeName id)).text
  let description ← describe (← responseDescription response) commentLine
  return Text.stripEnd
    (commentLine ++ "@return \x7bPromise<$tipi$ApiResponse<" ++ type ++ ">>\x7d " ++ description)

/-- The line of a function is said of the best response. -/
theorem returnLine_eq : returnLine op = Api.bestOf op.responses >>= returnLineOf op.id := by
  unfold returnLine
  congr 1
  funext response
  unfold returnLineOf responseDescription
  cases response.filter Value.isTrue <;> rfl

/-- The last line has the type of what the function returns and the description of the response. -/
theorem ends_returnLine_iff (h : returnLine op = .ok line) : endsComment line = true ↔
    (∃ response schema name type, Api.bestOf op.responses = .ok response ∧
      schemaOf response = .ok schema ∧ responseTypeName op.id = .ok name ∧
      bodyDocType schema name = .ok type ∧ EndsComment type) ∨
    ∃ response description t, Api.bestOf op.responses = .ok response ∧
      responseDescription response = .ok description ∧ descriptionText description = .ok t ∧
      endsComment t = true := by
  simp only [returnLine_eq, returnLineOf, Result.bind_eq_ok_iff, Result.pure_def,
    Except.ok.injEq] at h
  obtain ⟨response, hresponse, schema, hschema, name, hname, type, htype, t, ht, description,
    hdescription, described, hdescribed, rfl⟩ := h
  obtain ⟨raw, hraw, hends⟩ := exists_of_describe isSeam_commentLine hdescribed
  rw [Text.endsComment_stripEnd, Text.endsComment_seam (by decide),
    Text.endsComment_seam_append (by decide), hends, Bool.or_eq_true]
  constructor
  · rintro (h | h)
    · exact .inl ⟨response, schema, name, type, hresponse, hschema, hname, htype, t, ht, h⟩
    · exact .inr ⟨response, description, raw, hresponse, hdescription, hraw, h⟩
  · rintro (⟨response', schema', name', type', hresponse', hschema', hname', htype', t', ht', h⟩ |
      ⟨response', description', raw', hresponse', hdescription', hraw', h⟩)
    · obtain rfl := Except.ok.inj (hresponse.symm.trans hresponse')
      obtain rfl := Except.ok.inj (hschema.symm.trans hschema')
      obtain rfl := Except.ok.inj (hname.symm.trans hname')
      obtain rfl := Except.ok.inj (htype.symm.trans htype')
      obtain rfl := Except.ok.inj (ht.symm.trans ht')
      exact .inl h
    · obtain rfl := Except.ok.inj (hresponse.symm.trans hresponse')
      obtain rfl := Except.ok.inj (hdescription.symm.trans hdescription')
      obtain rfl := Except.ok.inj (hraw.symm.trans hraw')
      exact .inr h

/-- A text of the document that stands in the comment of a function. -/
inductive OperationText (document : Value) (op : Operation) : Text → Prop
  | summary {t : Text} (h : descriptionText (op.description.orElse op.summary) = .ok t) :
    OperationText document op t
  | required {parameters : Api.Parameters} {p : Value} {t : Text}
    (hparameters : Api.partitioned document op.parameters = .ok parameters)
    (hp : p ∈ parameters.required) (h : ParameterText p true t) : OperationText document op t
  | optional {parameters : Api.Parameters} {p : Value} {t : Text}
    (hparameters : Api.partitioned document op.parameters = .ok parameters)
    (hp : p ∈ parameters.optional) (h : ParameterText p false t) : OperationText document op t
  /-- The type of the request body, which there is. -/
  | body {schema type : Value} {name t : Text} (hbody : op.requestBody.isTrue = true)
    (hschema : Api.requestSchema document op.requestBody = .ok schema)
    (hname : requestTypeName op.id = .ok name) (htype : bodyDocType schema name = .ok type)
    (h : type.text = .ok t) : OperationText document op t
  /-- The type of what the function returns. -/
  | returned {response : Option Value} {schema type : Value} {name t : Text}
    (hresponse : Api.bestOf op.responses = .ok response) (hschema : schemaOf response = .ok schema)
    (hname : responseTypeName op.id = .ok name) (htype : bodyDocType schema name = .ok type)
    (h : type.text = .ok t) : OperationText document op t
  /-- The description of the response. -/
  | response {response : Option Value} {description : Value} {t : Text}
    (hresponse : Api.bestOf op.responses = .ok response)
    (hdescription : responseDescription response = .ok description)
    (h : descriptionText description = .ok t) : OperationText document op t

/-- **The comment of a function** has the end of a comment in a line exactly if a text of the
document that stands in it has one. -/
theorem ends_docLines_iff (hparameters : Api.partitioned document op.parameters = .ok parameters)
    (hschema : Api.requestSchema document op.requestBody = .ok schema)
    (h : docLines op parameters schema = .ok lines) : lines.any endsComment = true ↔
      ∃ t, OperationText document op t ∧ endsComment t = true := by
  simp only [docLines, ite_eq_iff, Result.bind_eq_ok_iff, Result.pure_def, Except.ok.injEq,
    exists_eq_left'] at h
  obtain ⟨summary, hsummary, required, hrequired, optional, hoptional, h⟩ := h
  have hparts : ∃ body returned, returnLine op = .ok returned ∧
      (body.any endsComment = true ↔ op.requestBody.isTrue = true ∧ ∃ name type,
        requestTypeName op.id = .ok name ∧ bodyDocType schema name = .ok type ∧
          EndsComment type) ∧
      lines = summary ++ required ++ optionsLine parameters ++ optional ++ body ++ [returned] := by
    obtain ⟨hbody, line, hline, returned, hreturned, rfl⟩ | ⟨hbody, returned, hreturned, rfl⟩ := h
    · refine ⟨[line], returned, hreturned, ?_, rfl⟩
      rw [List.any_cons, List.any_nil, Bool.or_false, ends_bodyLine_iff hline, and_iff_right hbody]
    · exact ⟨[], returned, hreturned, by simp [hbody], rfl⟩
  obtain ⟨body, returned, hreturned, hbody, rfl⟩ := hparts
  have hoptions : (optionsLine parameters).any endsComment = false := by
    unfold optionsLine
    split
    · rfl
    · decide
  simp only [List.any_append, hoptions, Bool.or_false, Bool.or_eq_true, List.any_cons,
    List.any_nil, ends_summaryLines_iff hsummary, ends_parameterLines_iff hrequired,
    ends_parameterLines_iff hoptional, hbody, ends_returnLine_iff hreturned]
  constructor
  · rintro ((((⟨t, ht, h⟩ | ⟨p, hp, t, ht, h⟩) | ⟨p, hp, t, ht, h⟩) |
      ⟨hbody, name, type, hname, htype, t, ht, h⟩) |
      ⟨response, schema, name, type, hresponse, hschema, hname, htype, t, ht, h⟩ |
      ⟨response, description, t, hresponse, hdescription, ht, h⟩)
    · exact ⟨t, .summary ht, h⟩
    · exact ⟨t, .required hparameters hp ht, h⟩
    · exact ⟨t, .optional hparameters hp ht, h⟩
    · exact ⟨t, .body hbody hschema hname htype ht, h⟩
    · exact ⟨t, .returned hresponse hschema hname htype ht, h⟩
    · exact ⟨t, .response hresponse hdescription ht, h⟩
  · rintro ⟨t, ht, h⟩
    cases ht with
    | summary ht => exact .inl (.inl (.inl (.inl ⟨t, ht, h⟩)))
    | required hparameters' hp ht =>
        obtain rfl := Except.ok.inj (hparameters.symm.trans hparameters')
        exact .inl (.inl (.inl (.inr ⟨_, hp, t, ht, h⟩)))
    | optional hparameters' hp ht =>
        obtain rfl := Except.ok.inj (hparameters.symm.trans hparameters')
        exact .inl (.inl (.inr ⟨_, hp, t, ht, h⟩))
    | body hbody hschema' hname htype ht =>
        obtain rfl := Except.ok.inj (hschema.symm.trans hschema')
        exact .inl (.inr ⟨hbody, _, _, hname, htype, t, ht, h⟩)
    | returned hresponse hschema hname htype ht =>
        exact .inr (.inl ⟨_, _, _, _, hresponse, hschema, hname, htype, t, ht, h⟩)
    | response hresponse hdescription ht =>
        exact .inr (.inr ⟨_, _, t, hresponse, hdescription, ht, h⟩)

/-- The description of an optional parameter stands in the comment of the function too. -/
theorem exists_parameterText_of_optionProperty {p : Value} {property : OptionProperty}
    (h : optionProperty p = .ok property) (hends : endsComment property.description = true) :
    ∃ t, ParameterText p false t ∧ endsComment t = true := by
  simp only [optionProperty, Result.bind_eq_ok_iff, Result.pure_def, Except.ok.injEq] at h
  obtain ⟨_, -, _, -, description, hdescription, described, hdescribed, rfl⟩ := h
  obtain ⟨raw, hraw, heq⟩ := exists_of_describe isSeam_memberCommentLine hdescribed
  exact ⟨raw, .description hdescription hraw, heq ▸ hends⟩

/-- The comments of what is written of an operation: that of its function, and in the language with
types those of its optional parameters. -/
theorem ends_operationView_iff {options : Options} {view : OperationView} (typed : Bool)
    (h : operationView document op options = .ok view) :
    ((∃ l ∈ view.docLines, endsComment l = true) ∨
        (typed = true ∧ ∃ type ∈ view.optionsType, ∃ p ∈ type.properties,
          endsComment p.description = true)) ↔
      ∃ t, OperationText document op t ∧ endsComment t = true := by
  obtain ⟨parameters, schema, args, hview⟩ := exists_isView h
  rw [← List.any_eq_true, ends_docLines_iff hview.split hview.schema hview.docLines,
    or_iff_left_iff_imp]
  rintro ⟨-, type, htype, property, hproperty, hends⟩
  have hoptions := hview.optionsType
  rw [Option.mem_def.mp htype] at hoptions
  unfold optionsType at hoptions
  split at hoptions
  · cases hoptions
  · simp only [Result.bind_eq_ok_iff, Result.pure_def, Except.ok.injEq, Option.some.injEq]
      at hoptions
    obtain ⟨_, -, _, -, properties, hproperties, rfl⟩ := hoptions
    obtain ⟨p, hp, hproperty⟩ := Result.exists_of_mem_mapM hproperties hproperty
    obtain ⟨t, ht, hends⟩ := exists_parameterText_of_optionProperty hproperty hends
    exact ⟨t, .optional hview.split hp ht, hends⟩

end Operations

end ClientScribe.Client
