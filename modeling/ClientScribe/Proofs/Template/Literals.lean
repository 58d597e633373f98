import ClientScribe.Output.ClientFile
import ClientScribe.Proofs.Client.ParameterBinding
import ClientScribe.Proofs.Template.Declaring

/-!
# Object Literals in the File of a Group

The function of an operation may hold an object literal with the parameters of the request, and
behind the functions there is one for every operation that says how it is called. Both are written
member by member, in repetitions and behind conditions, and whether a comma belongs behind a member
depends on what comes after it: on the turn of its repetition, and on what may follow that.

`membersText` says what the members of a literal are to look like: a comma behind every one but the
last. A repetition whose rows end in a comma unless the turn is the last one, and nothing follows,
writes its members so in front of any others (`exists_members_of_forEach`). From this the literals
of a group's file are read off as rows of members (`literals_of_group`).
-/

namespace ClientScribe

namespace Template

open Api (Requirement)
open Client (CallInfo OperationView ParameterGroup)
open Document (Value lookup record)

variable {s : Scope} {text st : Text} {typed isLast followed : Bool}

/-! ### Members -/

/-- The members of a literal, each on lines of its own, with a comma behind every one but the
last. -/
def membersText : List Text → Text
  | [] => []
  | member :: more =>
    member ++ (if more.isEmpty then [] else Text.ofString ",") ++ "\n" ++ membersText more

/-- What is written of members is empty with them. -/
theorem isEmpty_of_forall₂ {α β : Type} {r : α → β → Prop} {xs : List α} {ys : List β}
    (h : List.Forall₂ r xs ys) : ys.isEmpty = xs.isEmpty := by
  cases h <;> rfl

/-- The comma behind a row of a repetition: the last one has one only if something follows. -/
def commaText (isLast followed : Bool) : Text :=
  if isLast && !followed then [] else ","

/-- The comma of a repetition that nothing follows. -/
theorem renderPart_commaBetween (s : Scope) (name : Text) (v : Value) (isLast : Bool) :
    renderPart (s.bind name v isLast) commaBetween = .ok (commaText isLast false) := by
  cases isLast <;> rfl

/-- **Rows with such a comma are members in front of others.** -/
theorem exists_members_of_forEach {α : Type} {name : Text} {e : Expr} {body : List Part}
    {views : List α} {value : α → Value} {IsMember : α → Text → Prop}
    (hmembers : e.eval s = .ok (some (.list (views.map value))))
    (hbody : ∀ view isLast here,
      renderParts (s.bind name (value view) isLast) body = .ok here →
        ∃ member, IsMember view member ∧ here = member ++ commaText isLast followed ++ "\n")
    (h : renderPart s (forEach name e body) = .ok text) :
    ∃ members, List.Forall₂ IsMember views members ∧
      ∀ more, followed = !more.isEmpty →
        text ++ membersText more = membersText (members ++ more) := by
  obtain ⟨chosen, rows, hchosen, hrows, rfl⟩ := exists_texts_of_each hmembers h
  obtain rfl := Except.ok.inj hchosen
  clear hmembers h hchosen
  induction views generalizing rows with
  | nil =>
      obtain rfl := Except.ok.inj hrows
      exact ⟨[], .nil, fun _ _ => rfl⟩
  | cons view views ih =>
      simp only [List.map_cons, turns, List.mapM_cons, Result.bind_eq_ok_iff, Result.pure_def,
        Except.ok.injEq] at hrows
      obtain ⟨here, hhere, others, hothers, rfl⟩ := hrows
      obtain ⟨member, hmember, rfl⟩ := hbody view _ here hhere
      obtain ⟨members, hviews, hmore⟩ := ih others hothers
      refine ⟨member :: members, .cons hmember hviews, fun more hfollowed => ?_⟩
      have hcomma : commaText (views.map value).isEmpty followed =
          if (members ++ more).isEmpty then [] else Text.ofString "," := by
        subst hfollowed
        cases hviews <;> cases more <;> rfl
      rw [List.cons_append, membersText, ← hmore more hfollowed, List.flatten_cons, hcomma]
      simp only [List.append_assoc]

/-- The same where nothing follows. -/
theorem exists_members_of_last {α : Type} {name : Text} {e : Expr} {body : List Part}
    {views : List α} {value : α → Value} {IsMember : α → Text → Prop}
    (hmembers : e.eval s = .ok (some (.list (views.map value))))
    (hbody : ∀ view isLast here,
      renderParts (s.bind name (value view) isLast) body = .ok here →
        ∃ member, IsMember view member ∧ here = member ++ commaText isLast false ++ "\n")
    (h : renderPart s (forEach name e body) = .ok text) :
    ∃ members, List.Forall₂ IsMember views members ∧ text = membersText members := by
  obtain ⟨members, hviews, hmore⟩ := exists_members_of_forEach hmembers hbody h
  refine ⟨members, hviews, ?_⟩
  simpa [membersText] using hmore [] rfl

/-! ### The parameters of a request -/

/-- A member of the parameters: the entries of one location, in order. -/
def IsGroupMember (group : ParameterGroup) (member : Text) : Prop :=
  ∃ name, group.location.text = .ok name ∧
    member = "    " ++ name ++ ": \x7b\n" ++
      membersText (group.entries.map (Text.ofString "      " ++ ·)) ++ "    \x7d"

/-- The member of the body, if there is one. -/
def bodyMember (hasBody : Bool) : List Text :=
  if hasBody then ["    body: body"] else []

/-- The entries of a group as the template writes them. -/
theorem renderPart_groupEntries {group : ParameterGroup}
    (hgroup : s.bindings.lookup (Text.ofString "group") = some group.toValue)
    (h : renderPart s groupEntries = .ok text) :
    text = membersText (group.entries.map (Text.ofString "      " ++ ·)) := by
  have hentries : (dot "group" "entries").eval s =
      .ok (some (.list (group.entries.map Value.str))) :=
    eval_dot hgroup rfl
  have hbody (entry : Text) (isLast : Bool) (here : Text)
      (hhere : renderParts (s.bind "entry" (.str entry) isLast)
        [.text "      ", .value (var "entry"), commaBetween, lineEnd] = .ok here) :
      ∃ member, Text.ofString "      " ++ entry = member ∧
        here = member ++ commaText isLast false ++ "\n" := by
    have hrow : renderParts (s.bind "entry" (.str entry) isLast)
        [.text "      ", .value (var "entry"), commaBetween, lineEnd] =
          .ok (Text.ofString "      " ++ (entry ++ (commaText isLast false ++ "\n"))) := by
      cases isLast <;> rfl
    obtain rfl := Except.ok.inj (hrow.symm.trans hhere)
    exact ⟨_, rfl, by simp only [List.append_assoc]⟩
  obtain ⟨members, hmembers, rfl⟩ := exists_members_of_last hentries hbody h
  have hrows : List.Forall₂ Eq (group.entries.map (Text.ofString "      " ++ ·)) members :=
    List.forall₂_map_left_iff.mpr hmembers
  rw [List.forall₂_eq_eq_eq] at hrows
  rw [hrows]

/-- The groups of parameters as the template writes them: members in front of the body, if there is
one. -/
theorem exists_members_of_writesGroups {view : OperationView} (h : WritesGroups view text) :
    ∃ members, List.Forall₂ IsGroupMember view.groups members ∧
      text ++ bodyEntry view = membersText (members ++ bodyMember view.hasBody) := by
  obtain ⟨s, hop, h⟩ := h
  have hgroups : (dot "op" "param_groups").eval s =
      .ok (some (.list (view.groups.map ParameterGroup.toValue))) :=
    eval_dot hop rfl
  have hcomma (group : ParameterGroup) (isLast : Bool) (comma : Text)
      (h : renderPart (s.bind "group" group.toValue isLast)
        (optional (.or (.not .last) (dot "op" "has_body")) [.text ","]) = .ok comma) :
      comma = commaText isLast view.hasBody := by
    have hasked : (Expr.or (.not .last) (dot "op" "has_body")).eval
        (s.bind "group" group.toValue isLast) =
          .ok (some (.bool (!isLast || view.hasBody))) := by
      cases isLast with
      | false => rfl
      | true =>
          exact eval_dot (s := s.bind "group" group.toValue true) (v := view.toValue) hop rfl
    rw [renderPart_optional_text hasked h]
    cases isLast <;> cases view.hasBody <;> rfl
  have hbody (group : ParameterGroup) (isLast : Bool) (here : Text)
      (hhere : renderParts (s.bind "group" group.toValue isLast)
        [.text "    ", .value (dot "group" "name"), line ": \x7b", groupEntries, .text "    \x7d",
          optional (.or (.not .last) (dot "op" "has_body")) [.text ","], lineEnd] = .ok here) :
      ∃ member, IsGroupMember group member ∧
        here = member ++ commaText isLast view.hasBody ++ "\n" := by
    obtain ⟨_, hname, rfl⟩ := exists_append_of_renderParts hhere
    obtain ⟨name, _, hwritten, hopen, rfl⟩ := renderParts_cons_eq_ok_iff.mp hname
    obtain ⟨_, hinner, rfl⟩ := exists_append_of_renderParts hopen
    obtain ⟨entries, _, hentries, hclose, rfl⟩ := renderParts_cons_eq_ok_iff.mp hinner
    obtain ⟨_, hbehind, rfl⟩ := exists_append_of_renderParts hclose
    obtain ⟨comma, _, hoptional, hend, rfl⟩ := renderParts_cons_eq_ok_iff.mp hbehind
    obtain ⟨_, hnil, rfl⟩ := exists_append_of_renderParts hend
    obtain rfl := Except.ok.inj hnil
    obtain rfl := hcomma group isLast comma hoptional
    obtain rfl := renderPart_groupEntries (s := s.bind "group" group.toValue isLast) rfl hentries
    obtain ⟨v, hv, hwritten⟩ := renderPart_value_eq_ok_iff.mp hwritten
    obtain rfl : group.location = v := Option.some.inj (Except.ok.inj hv)
    refine ⟨_, ⟨name, hwritten, rfl⟩, ?_⟩
    simp only [List.append_assoc, List.append_nil]
    rfl
  obtain ⟨members, hmembers, hmore⟩ := exists_members_of_forEach hgroups hbody h
  refine ⟨members, hmembers, ?_⟩
  rw [← hmore (bodyMember view.hasBody) (by cases view.hasBody <;> rfl)]
  unfold bodyEntry bodyMember
  cases view.hasBody <;> rfl

/-! ### The record of a call -/

/-- Texts between quotes, with a comma between them. -/
def quotedRow (texts : List Text) : Text :=
  Text.intercalate ", " (texts.map fun t => Text.ofString "'" ++ t ++ "'")

/-- A member of a row that may be left out: it is there if there are texts to write. -/
def rowMember (opening closing : Text) (texts : List Text) : List Text :=
  if texts.isEmpty then [] else [opening ++ quotedRow texts ++ closing]

/-- A member of the security of a call: the scheme, and the scopes if there are any. -/
def IsRequirementMember (r : Requirement) (member : Text) : Prop :=
  ∃ id scopes, r.scheme.text = .ok id ∧ (r.scopes.getD []).mapM Value.text = .ok scopes ∧
    member = "    \x7b\n" ++
      membersText (("      id: '" ++ id ++ "'") :: rowMember "      scopes: [" "]" scopes) ++
      "    \x7d"

/-- The security of a call as a member, if it has any. -/
def securityMember (requirements : List Text) : List Text :=
  if requirements.isEmpty then []
  else [Text.ofString "  security: [\n" ++ membersText requirements ++ "  ]"]

/-- The members of the record of a call. -/
def IsRecordMembers (info : CallInfo) (members : List Text) : Prop :=
  ∃ path contentTypes requirements, info.path.text = .ok path ∧
    info.contentTypes.mapM Value.text = .ok contentTypes ∧
    List.Forall₂ IsRequirementMember info.security requirements ∧
    members = ("  path: '" ++ path ++ "'") :: rowMember "  contentTypes: [ " " ]" contentTypes ++
      ("  method: '" ++ info.method ++ "'") :: securityMember requirements

/-- Texts with quotes and a comma between them, in quotes, are texts between quotes. -/
theorem quotedRow_eq {texts : List Text} (h : texts ≠ []) :
    Text.ofString "'" ++ (Text.intercalate "', '" texts ++ "'") = quotedRow texts := by
  have hbetween : Text.ofString "', '" = Text.ofString "'" ++ ", " ++ "'" := rfl
  induction texts with
  | nil => exact absurd rfl h
  | cons first more ih =>
      cases more with
      | nil => simp [quotedRow, Text.intercalate]
      | cons next more =>
          have hmore := ih (List.cons_ne_nil next more)
          simp only [quotedRow, Text.intercalate, List.map_cons,
            List.intercalate_cons_cons] at hmore ⊢
          rw [← hmore, hbetween]
          simp only [List.append_assoc]

/-- The members of a value with a text between them. -/
theorem renderPart_joined_eq_ok {e : Expr} {vs : List Value} {separator : Text}
    (he : e.eval s = .ok (some (.list vs))) (h : renderPart s (.joined e separator) = .ok text) :
    ∃ texts, vs.mapM Value.text = .ok texts ∧ text = Text.intercalate separator texts := by
  have hdemand : e.demand s = .ok (.list vs) := by
    rw [Expr.demand, he]
    rfl
  rw [renderPart, hdemand] at h
  have h : (vs.mapM Value.text >>= fun texts => .ok (Text.intercalate separator texts)) =
      .ok text := h
  obtain ⟨texts, htexts, h⟩ := Result.bind_eq_ok_iff.mp h
  exact ⟨texts, htexts, (Except.ok.inj h).symm⟩

/-- A row that is written if there are texts for it. A value that is none has no texts. -/
theorem renderPart_optional_row {e : Expr} {v : Value} {vs : List Value} {opening closing : Text}
    (he : e.eval s = .ok (some v)) (hv : v = .list vs ∨ v = .null ∧ vs = [])
    (h : renderPart s (optional e [.text opening, .joined e "', '", line closing]) = .ok text) :
    ∃ texts, vs.mapM Value.text = .ok texts ∧ v.isTrue = !texts.isEmpty ∧
      text = if texts.isEmpty then []
        else opening ++ (Text.intercalate "', '" texts ++ (closing ++ Text.ofString "\n")) := by
  have htext := renderParts_of_choice he h
  obtain rfl | ⟨rfl, rfl⟩ := hv
  · cases hvs : vs.isEmpty with
    | true =>
        obtain rfl := List.isEmpty_iff.mp hvs
        exact ⟨[], rfl, rfl, (Except.ok.inj htext).symm⟩
    | false =>
        have htrue : (Value.list vs).isTrue = true := congrArg (!·) hvs
        rw [htrue, if_pos rfl] at htext
        obtain ⟨_, hrow, rfl⟩ := exists_append_of_renderParts htext
        obtain ⟨_, _, hjoined, hend, rfl⟩ := renderParts_cons_eq_ok_iff.mp hrow
        obtain ⟨_, hnil, rfl⟩ := exists_append_of_renderParts hend
        obtain rfl := Except.ok.inj hnil
        obtain ⟨texts, htexts, rfl⟩ := renderPart_joined_eq_ok he hjoined
        have hempty := (isEmpty_of_forall₂ (Result.mapM_eq_ok_iff.mp htexts)).trans hvs
        exact ⟨texts, htexts, by rw [htrue, hempty]; rfl, by rw [hempty]; simp⟩
  · exact ⟨[], rfl, rfl, (Except.ok.inj htext).symm⟩

/-- A requirement as the template writes it. -/
theorem exists_requirementMember {r : Requirement}
    (h : renderParts (s.bind "sec" r.toValue isLast)
      [line "    \x7b",
        .text "      id: '", .value (dot "sec" "id"), .text "'",
        optional (dot "sec" "scopes") [.text ","], lineEnd,
        optional (dot "sec" "scopes")
          [.text "      scopes: ['", .joined (dot "sec" "scopes") "', '", line "']"],
        .text "    \x7d", commaBetween, lineEnd] = .ok text) :
    ∃ member, IsRequirementMember r member ∧ text = member ++ commaText isLast false ++ "\n" := by
  obtain ⟨v, hscopes, hv⟩ : ∃ v, (dot "sec" "scopes").eval (s.bind "sec" r.toValue isLast) =
      .ok (some v) ∧ (v = .list (r.scopes.getD []) ∨ v = .null ∧ r.scopes.getD [] = []) := by
    obtain ⟨scheme, scopes⟩ := r
    cases scopes with
    | none => exact ⟨_, rfl, .inr ⟨rfl, rfl⟩⟩
    | some scopes => exact ⟨_, rfl, .inl rfl⟩
  obtain ⟨_, hopen, rfl⟩ := exists_append_of_renderParts h
  obtain ⟨_, hid, rfl⟩ := exists_append_of_renderParts hopen
  obtain ⟨id, _, hwritten, hquote, rfl⟩ := renderParts_cons_eq_ok_iff.mp hid
  obtain ⟨_, hfirst, rfl⟩ := exists_append_of_renderParts hquote
  obtain ⟨comma, _, hcomma, hend, rfl⟩ := renderParts_cons_eq_ok_iff.mp hfirst
  obtain ⟨_, hsecond, rfl⟩ := exists_append_of_renderParts hend
  obtain ⟨row, _, hrow, hclose, rfl⟩ := renderParts_cons_eq_ok_iff.mp hsecond
  obtain ⟨_, hbehind, rfl⟩ := exists_append_of_renderParts hclose
  obtain ⟨_, _, hbetween, hlast, rfl⟩ := renderParts_cons_eq_ok_iff.mp hbehind
  obtain ⟨_, hnil, rfl⟩ := exists_append_of_renderParts hlast
  obtain rfl := Except.ok.inj hnil
  obtain rfl := Except.ok.inj ((renderPart_commaBetween s _ _ isLast).symm.trans hbetween)
  obtain ⟨w, hw, hwritten⟩ := renderPart_value_eq_ok_iff.mp hwritten
  obtain rfl : r.scheme = w := Option.some.inj (Except.ok.inj hw)
  obtain ⟨scopes, hscopesText, htrue, rfl⟩ := renderPart_optional_row hscopes hv hrow
  obtain rfl := renderPart_optional_text hscopes hcomma
  refine ⟨_, ⟨id, scopes, hwritten, hscopesText, rfl⟩, ?_⟩
  rw [htrue]
  cases scopes with
  | nil =>
      simp only [rowMember, membersText, List.append_assoc, List.isEmpty_nil]
      rfl
  | cons first more =>
      have hopening : Text.ofString "      scopes: ['" =
        Text.ofString "      scopes: [" ++ "'" := rfl
      have hclosing : Text.ofString "']" = Text.ofString "'" ++ "]" := rfl
      simp only [rowMember, membersText, List.append_assoc, List.isEmpty_cons, List.isEmpty_nil,
        Bool.not_false, if_true, Bool.false_eq_true, if_false, hopening, hclosing,
        ← quotedRow_eq (List.cons_ne_nil first more)]
      rfl

/-- The security of a call as the template writes it: a comma behind the member in front of it, and
then a member of its own, if there is any. -/
theorem exists_securityMember {requirements : List Requirement} {comma : Text}
    (he : (Expr.field (dot "op" "info") "security").eval s =
      .ok (some (.list (requirements.map Requirement.toValue))))
    (hcomma : renderPart s (optional (.field (dot "op" "info") "security") [.text ","]) = .ok comma)
    (h : renderPart s (optional (.field (dot "op" "info") "security")
      [line "  security: [", securityLiteral, line "  ]"]) = .ok text) :
    ∃ members, List.Forall₂ IsRequirementMember requirements members ∧
      comma ++ (Text.ofString "\n" ++ text) =
        (if (securityMember members).isEmpty then [] else Text.ofString ",") ++
          (Text.ofString "\n" ++ membersText (securityMember members)) := by
  obtain rfl := renderPart_optional_text he hcomma
  have htext := renderParts_of_choice he h
  cases requirements with
  | nil =>
      obtain rfl := Except.ok.inj htext
      exact ⟨[], .nil, rfl⟩
  | cons first more =>
      obtain ⟨_, hloop, rfl⟩ := exists_append_of_renderParts htext
      obtain ⟨_, _, hmembers, hend, rfl⟩ := renderParts_cons_eq_ok_iff.mp hloop
      obtain ⟨_, hnil, rfl⟩ := exists_append_of_renderParts hend
      obtain rfl := Except.ok.inj hnil
      obtain ⟨_, hrequirements, rfl⟩ :=
        exists_members_of_last he (fun _ _ _ => exists_requirementMember) hmembers
      cases hrequirements with
      | @cons _ member _ members hfirst hmore =>
          refine ⟨member :: members, .cons hfirst hmore, ?_⟩
          simp only [securityMember, membersText, List.isEmpty_cons, List.isEmpty_nil,
            Bool.false_eq_true, if_false, if_true, List.append_assoc, List.append_nil]
          rfl

/-- The members of a record in a row. -/
theorem membersText_record {path method : Text} {contentTypes : List Text} (security : List Text) :
    membersText (path :: rowMember "  contentTypes: [ " " ]" contentTypes ++ method :: security) =
      path ++ (Text.ofString ",\n" ++ ((if contentTypes.isEmpty then []
        else Text.ofString "  contentTypes: [ '" ++
          (Text.intercalate "', '" contentTypes ++ Text.ofString "' ],\n")) ++
        (method ++ ((if security.isEmpty then [] else Text.ofString ",") ++
          (Text.ofString "\n" ++ membersText security))))) := by
  cases contentTypes with
  | nil =>
      simp only [rowMember, membersText, List.isEmpty_nil, List.isEmpty_cons, if_true,
        Bool.false_eq_true, if_false, List.nil_append, List.singleton_append, List.append_assoc]
      rfl
  | cons first more =>
      have hopening : Text.ofString "  contentTypes: [ '" =
        Text.ofString "  contentTypes: [ " ++ "'" := rfl
      have hclosing : Text.ofString "' ],\n" = Text.ofString "'" ++ " ],\n" := rfl
      simp only [rowMember, membersText, List.isEmpty_cons, Bool.false_eq_true, if_false,
        List.cons_append, List.nil_append, List.append_assoc, hopening, hclosing,
        ← quotedRow_eq (List.cons_ne_nil first more)]
      rfl

/-- The type of a literal, in the language with types. -/
def annotation (typed : Bool) (type : Text) : Text := if typed then type else []

/-- The record of how an operation is called. -/
def IsCallRecord (typed : Bool) (st : Text) (view : OperationView) (piece : Text) : Prop :=
  ∃ id members, view.id.text = .ok id ∧ IsRecordMembers view.info members ∧
    piece = "const " ++ recordName id ++ annotation typed ": api.OperationInfo" ++ " = \x7b\n" ++
      membersText members ++ "\x7d" ++ st ++ "\n\n"

/-- The template writes such a record. -/
theorem isCallRecord_of_renderParts {view : OperationView}
    (hop : s.bindings.lookup (Text.ofString "op") = some view.toValue)
    (htyped : s.bindings.lookup (Text.ofString "typed") = some (.bool typed))
    (hst : s.bindings.lookup (Text.ofString "st") = some (.str st))
    (h : renderParts s callRecord = .ok text) : IsCallRecord typed st view text := by
  have hinfo : (dot "op" "info").eval s = .ok (some view.info.toValue) := eval_dot hop rfl
  have hsecurity : (Expr.field (dot "op" "info") "security").eval s =
      .ok (some (.list (view.info.security.map Requirement.toValue))) := eval_field hinfo rfl
  have htypes : (Expr.field (dot "op" "info") "content_types").eval s =
      .ok (some (.list view.info.contentTypes)) := eval_field hinfo rfl
  obtain ⟨_, _, hfront, hlast, rfl⟩ := renderParts_append_eq_ok_iff.mp h
  obtain ⟨_, _, hparts, hclose, rfl⟩ := renderParts_append_eq_ok_iff.mp hfront
  obtain ⟨_, hnamed, rfl⟩ := exists_append_of_renderParts hparts
  obtain ⟨id, _, hid, hrecord, rfl⟩ := renderParts_cons_eq_ok_iff.mp hnamed
  obtain ⟨_, htype, rfl⟩ := exists_append_of_renderParts hrecord
  obtain ⟨_, _, hannotated, hopen, rfl⟩ := renderParts_cons_eq_ok_iff.mp htype
  obtain ⟨_, hpath, rfl⟩ := exists_append_of_renderParts hopen
  obtain ⟨_, hwritten, rfl⟩ := exists_append_of_renderParts hpath
  obtain ⟨path, _, hpathText, hquote, rfl⟩ := renderParts_cons_eq_ok_iff.mp hwritten
  obtain ⟨_, hrow, rfl⟩ := exists_append_of_renderParts hquote
  obtain ⟨_, _, hcontentTypes, hmethod, rfl⟩ := renderParts_cons_eq_ok_iff.mp hrow
  obtain ⟨_, hverb, rfl⟩ := exists_append_of_renderParts hmethod
  obtain ⟨_, _, hmethodText, hbehind, rfl⟩ := renderParts_cons_eq_ok_iff.mp hverb
  obtain ⟨_, hcommas, rfl⟩ := exists_append_of_renderParts hbehind
  obtain ⟨comma, _, hcomma, hline, rfl⟩ := renderParts_cons_eq_ok_iff.mp hcommas
  obtain ⟨_, hsecured, rfl⟩ := exists_append_of_renderParts hline
  obtain ⟨secured, _, hmembers, hnil, rfl⟩ := renderParts_cons_eq_ok_iff.mp hsecured
  obtain rfl := Except.ok.inj hnil
  obtain ⟨_, hblank, rfl⟩ := exists_append_of_renderParts hlast
  obtain rfl := Except.ok.inj hblank
  obtain ⟨st', hst', rfl⟩ := renderParts_statement_eq_ok hclose
  obtain rfl := eq_of_renderPart_var hst hst'
  -- every part of the row is known now
  obtain rfl := renderPart_optional_text (e := var "typed") (congrArg Except.ok htyped) hannotated
  obtain ⟨v, hv, hpathText⟩ := renderPart_value_eq_ok_iff.mp hpathText
  rw [eval_field hinfo rfl] at hv
  obtain rfl : view.info.path = v := Option.some.inj (Except.ok.inj hv)
  obtain ⟨contentTypes, htexts, -, rfl⟩ := renderPart_optional_row htypes (.inl rfl) hcontentTypes
  obtain rfl := renderPart_field hinfo rfl rfl hmethodText
  obtain ⟨requirements, hrequirements, hsecurityText⟩ :=
    exists_securityMember hsecurity hcomma hmembers
  refine ⟨id, _, text_of_renderPart_id hop hid,
    ⟨path, contentTypes, requirements, hpathText, htexts, hrequirements, rfl⟩, ?_⟩
  rw [membersText_record]
  simp only [List.append_assoc, List.append_nil, recordName, ← hsecurityText]
  rfl

/-! ### The function of an operation -/

/-- The object with the members of a request, if there are any. -/
def parametersText (typed : Bool) (st : Text) (view : OperationView) (members : List Text) : Text :=
  if members.isEmpty then []
  else
    guardText view st ++ "  const parameters" ++ annotation typed ": api.OperationParamGroups" ++
      " = \x7b\n" ++ membersText members ++ "  \x7d" ++ st ++ "\n"

/-- The call behind it, which passes the object on if there is one. -/
def requestText (id st : Text) (members : List Text) : Text :=
  "  return gateway.request(" ++ recordName id ++
    (if members.isEmpty then [] else Text.ofString ", parameters") ++ ")" ++ st ++ "\n\x7d\n\n"

/-- The function of an operation, whose object has the groups of its parameters as members, and its
body if there is one. -/
def IsRequestFunction (typed : Bool) (st : Text) (view : OperationView) (piece : Text) : Prop :=
  ∃ id groups, view.id.text = .ok id ∧ List.Forall₂ IsGroupMember view.groups groups ∧
    piece = commentText view.docLines ++ "export function " ++ id ++ "(" ++ view.signature ++ ")" ++
      view.returnSignature ++ " \x7b\n" ++
      parametersText typed st view (groups ++ bodyMember view.hasBody) ++
      requestText id st (groups ++ bodyMember view.hasBody)

/-- The template writes such a function. -/
theorem isRequestFunction_of_renderParts {view : OperationView}
    (hparameters : view.hasParameters = (!view.groups.isEmpty || view.hasBody))
    (hop : s.bindings.lookup (Text.ofString "op") = some view.toValue)
    (htyped : s.bindings.lookup (Text.ofString "typed") = some (.bool typed))
    (hst : s.bindings.lookup (Text.ofString "st") = some (.str st))
    (h : renderParts s operationFunction = .ok text) : IsRequestFunction typed st view text := by
  obtain ⟨id, st', type, groups, hid, hst', hobject, rfl⟩ :=
    renderParts_operationFunction_eq_ok hop h
  obtain rfl := eq_of_renderPart_var hst hst'
  obtain ⟨members, hmembers, hgroups⟩ : ∃ members, List.Forall₂ IsGroupMember view.groups members ∧
      (view.hasParameters = true →
        groups ++ bodyEntry view = membersText (members ++ bodyMember view.hasBody)) := by
    cases hasParameters : view.hasParameters with
    | true =>
        obtain ⟨members, hmembers, hgroups⟩ :=
          exists_members_of_writesGroups (hobject hasParameters).groups
        exact ⟨members, hmembers, fun _ => hgroups⟩
    | false =>
        have hnone : view.groups = [] := by
          rw [hasParameters] at hparameters
          simpa using (Bool.or_eq_false_iff.mp hparameters.symm).1
        exact ⟨[], hnone ▸ .nil, nofun⟩
  have hempty : (members ++ bodyMember view.hasBody).isEmpty = !view.hasParameters := by
    have happend : (members ++ bodyMember view.hasBody).isEmpty =
        (members.isEmpty && (bodyMember view.hasBody).isEmpty) := by
      cases members <;> rfl
    rw [happend, hparameters, isEmpty_of_forall₂ hmembers]
    cases view.groups.isEmpty <;> cases view.hasBody <;> rfl
  refine ⟨id, members, hid, hmembers, ?_⟩
  cases hasParameters : view.hasParameters with
  | true =>
      obtain rfl := renderPart_optional_text (e := var "typed") (congrArg Except.ok htyped)
        (hobject hasParameters).type
      rw [hasParameters] at hempty
      simp only [functionText, callText, objectText, parametersText, requestText, hasParameters,
        hempty, ← hgroups hasParameters, List.append_assoc, recordName, Bool.not_true, if_true,
        Bool.false_eq_true, if_false]
      rfl
  | false =>
      rw [hasParameters] at hempty
      simp only [functionText, callText, objectText, parametersText, requestText, hasParameters,
        hempty, List.append_assoc, recordName, Bool.not_false, if_true, Bool.false_eq_true,
        if_false, List.append_nil]
      rfl

end Template

namespace Output

open Api (Operation)
open Client (OperationView callInfo operationView)
open Document (Value record)
open Template (IsCallRecord IsRequestFunction reindent)

variable {document : Value} {options : Options} {group : Text} {members : List Operation}
  {file : ClientFile}

/-- A view is that of an operation, with a body and a record for its call as the operation has
them. -/
def IsViewOf (document : Value) (options : Options) (op : Operation) (view : OperationView) :
    Prop :=
  operationView document op options = .ok view ∧ view.hasBody = op.requestBody.isTrue ∧
    callInfo op = .ok view.info

/-- **The literals of a group's file.** The file has a function and a record for every operation,
both in order, and

* the object of the request has the groups of the parameters as members, each with its entries in
  order, and then the body if there is one; without members there is no object;
* the call passes the object on exactly if there is one;
* the record has the path, the content types if there are any, the method, and the security if there
  is any, each requirement of which has the scheme, and the scopes if there are any.

All of these are `membersText`: a comma stands behind every member but the last. -/
theorem literals_of_group (h : operationsFile document options (group, members) = .ok file) :
    ∃ views text front functions types records,
      List.Forall₂ (IsViewOf document options) members views ∧
      file.contents = reindent text options.indent.unit ∧
      text = front ++ functions.flatten ++ types ++ records.flatten ∧
      List.Forall₂ (IsRequestFunction options.typed options.statementEnd) views functions ∧
      List.Forall₂ (IsCallRecord options.typed options.statementEnd) views records := by
  simp only [operationsFile, Client.operationsView, written, Template.render,
    Client.OperationsView.toValue, Template.scopeOf_record, Result.bind_eq_ok_iff, Result.pure_def,
    Except.ok.injEq] at h
  obtain ⟨_, ⟨hasTypes, -, views, hviews, rfl⟩, _, ⟨text, ⟨_, rfl, htext⟩, rfl⟩, rfl⟩ := h
  have hparameters : ∀ view ∈ views,
      view.hasParameters = (!view.groups.isEmpty || view.hasBody) := by
    intro view hview
    obtain ⟨op, -, hmade⟩ := Result.exists_of_mem_mapM hviews hview
    obtain ⟨_, _, _, hparts⟩ := Client.exists_isView hmade
    exact hparts.hasParameters
  obtain ⟨front, functions, types, records, hcut, hfunctions, hrecords⟩ :=
    Template.exists_cut_of_operations rfl
      (fun view _ _ hhere hparameters =>
        Template.isRequestFunction_of_renderParts hparameters rfl rfl rfl hhere)
      (fun _ _ _ => Template.isCallRecord_of_renderParts rfl rfl rfl) htext
  refine ⟨views, text, front, functions, types, records, ?_, rfl, hcut, ?_, hrecords⟩
  · refine (Result.mapM_eq_ok_iff.mp hviews).imp fun op view hview => ?_
    obtain ⟨_, _, _, hparts⟩ := Client.exists_isView hview
    exact ⟨hview, hparts.hasBody, hparts.info⟩
  · exact ((List.forall₂_and_left _ _).mpr ⟨hparameters, hfunctions⟩).imp fun _ _ h => h.2 h.1

/-- An operation with parameters in three places, a body of one of two types, and two requirements
for its security, one of them with scopes. -/
def securedOperation : Operation :=
  { Client.datedOperation with
    method := "post"
    requestBody := record [("content", record [("application/json", record []),
      ("text/plain", record [])])]
    security := some [⟨.str "key", none⟩, ⟨.str "oauth", some [.str "read", .str "write"]⟩] }

/-- The literals of this operation have all the members that there are. They stand in its file as
the template writes them. -/
theorem literals_of_group_secured : ∃ file views front functions types records,
    operationsFile Client.datedDocument (.usual "out") ("visits", [securedOperation]) = .ok file ∧
      List.Forall₂ (IsViewOf Client.datedDocument (.usual "out")) [securedOperation] views ∧
      file.contents = front ++ functions.flatten ++ types ++ records.flatten ∧
      List.Forall₂ (IsRequestFunction true []) views functions ∧
      List.Forall₂ (IsCallRecord true []) views records := by
  obtain ⟨file, hfile⟩ := Result.exists_eq_ok_of_isOk (x := operationsFile Client.datedDocument
    (.usual "out") ("visits", [securedOperation])) (by decide +kernel)
  obtain ⟨views, _, front, functions, types, records, hviews, hcontents, rfl, hliterals⟩ :=
    literals_of_group hfile
  exact ⟨file, views, front, functions, types, records, hfile, hviews,
    hcontents.trans (Template.reindent_step _), hliterals⟩

end Output

end ClientScribe
