import ClientScribe.Proofs.Output.SideBySide
import ClientScribe.Proofs.Output.Written
import ClientScribe.Proofs.Template.Indentation
import ClientScribe.Proofs.Template.StatementEnd

/-!
# The Layout of a Client

The unit of indentation and the end of a statement are matters of taste: they say how the files of a
client are laid out, not what is in them. No step that finds out what to write asks for either. The
end of a statement is one field of every view, and the unit is used once, on the finished text. So
two runs that differ in them end alike, and their files have the same paths and differ line by line:

* `agree_of_indent`: another unit changes the spaces in front of the lines, two by two;
* `agree_of_semicolon`: semicolons are added at the ends of lines, at most one to a line.
-/

namespace ClientScribe.Output

open Api (Operation)
open Document (Value record)
open Result (Agree)
open Template (EndApart Part endName endsLines halved indentLine)
open Text (EndedLine Ended lines ofLines)

variable {document : Value} {options options' : Options} {q : Text → Text → Prop}

/-! ### Options that differ in the layout -/

/-- Options that differ in the unit of indentation and in the end of statements at most. -/
structure LayoutApart (options options' : Options) : Prop where
  outDir : options.outDir = options'.outDir
  language : options.language = options'.language
  redux : options.redux = options'.redux

/-- Two views that differ in the end of statements at most. -/
inductive EndsDiffer (plain ended : Text) : Value → Value → Prop
  | intro (before behind : List (Text × Value)) (h : endName ∉ before.map Prod.fst) :
      EndsDiffer plain ended (record (before ++ (endName, .str plain) :: behind))
        (record (before ++ (endName, .str ended) :: behind))

/-- The templates of the files of a client. -/
def templates : List (List Part) :=
  [Template.operations, Template.types, Template.descriptor, Template.actions]

/-- A file with the path of another one and contents that stand in a relation to its contents. -/
def Rewritten (q : Text → Text → Prop) (file file' : ClientFile) : Prop :=
  file'.path = file.path ∧ q file.contents file'.contents

/-- Templates that are written in a relation in two runs, for views that differ in the end of
statements. -/
def WrittenApart (q : Text → Text → Prop) (options options' : Options) : Prop :=
  ∀ parts ∈ templates, ∀ view view',
    EndsDiffer options.statementEnd options'.statementEnd view view' →
      Agree q (written parts view options) (written parts view' options')

namespace LayoutApart

/-- The layout does not say whether the client has types. -/
theorem typed (h : LayoutApart options options') : options.typed = options'.typed := by
  rw [Options.typed, Options.typed, h.language]

/-- The layout does not change the names of files. -/
theorem fileName (h : LayoutApart options options') (name : Text) :
    fileName name options = Output.fileName name options' := by
  rw [Output.fileName, Output.fileName, Options.extension, Options.extension, h.language]

/-- What is written of an operation does not depend on the layout. -/
theorem operationView (h : LayoutApart options options') (op : Operation) :
    Client.operationView document op options = Client.operationView document op options' := by
  simp only [Client.operationView, Client.signature, h.typed]

/-- What is written of an action does not depend on the layout. -/
theorem actionView (h : LayoutApart options options') (group : Text) (op : Operation) :
    Client.actionView document group op options =
      Client.actionView document group op options' := by
  simp only [Client.actionView, Client.signature, h.typed]

/-- The files of a group's operations stand in the relation, or both fail alike. -/
theorem agree_operationsFile (h : LayoutApart options options')
    (hwritten : WrittenApart q options options') (group : Text × List Operation) :
    Agree (Rewritten q) (operationsFile document options group)
      (operationsFile document options' group) := by
  have hnames : endName ∉ [Text.ofString "group", "typed", "has_types"] := by decide
  simp only [operationsFile, Client.operationsView, h.operationView, h.typed, h.fileName,
    h.outDir, bind_assoc, pure_bind]
  refine .bind_same _ fun hasTypes => .bind_same _ fun operations => ?_
  refine (hwritten _ (by simp [templates]) _ _ (.intro [_, _, _] [_] ?_)).bind
    fun _ _ hcontents => .ok ⟨rfl, hcontents⟩
  exact hnames

/-- The files of a group's actions stand in the relation, or both fail alike. -/
theorem agree_actionsFile (h : LayoutApart options options')
    (hwritten : WrittenApart q options options') (group : Text × List Operation) :
    Agree (Rewritten q) (actionsFile document options group)
      (actionsFile document options' group) := by
  have hnames : endName ∉ [Text.ofString "group", "typed", "has_types"] := by decide
  simp only [actionsFile, Client.actionsView, h.actionView, h.typed, h.fileName, h.outDir,
    bind_assoc, pure_bind]
  refine .bind_same _ fun hasTypes => .bind_same _ fun actions => ?_
  refine (hwritten _ (by simp [templates]) _ _ (.intro [_, _, _] [_] ?_)).bind
    fun _ _ hcontents => .ok ⟨rfl, hcontents⟩
  exact hnames

/-- The files of the service stand in the relation, or both fail alike. -/
theorem agree_descriptorFile (h : LayoutApart options options')
    (hwritten : WrittenApart q options options') :
    Agree (Rewritten q) (descriptorFile document options)
      (descriptorFile document options') := by
  have hnames : endName ∉ [Text.ofString "typed"] := by decide
  simp only [descriptorFile, Client.descriptorView, h.typed, h.fileName, h.outDir, bind_assoc,
    pure_bind]
  refine .bind_same _ fun view => .bind_same _ fun literal => ?_
  refine (hwritten _ (by simp [templates]) _ _ (.intro [_] [_] ?_)).bind
    fun _ _ hcontents => .ok ⟨rfl, hcontents⟩
  exact hnames

/-- The files of types stand in the relation, or both fail alike. -/
theorem agree_typesFile (h : LayoutApart options options')
    (hwritten : WrittenApart q options options') (ops : List Operation) :
    Agree (Rewritten q) (typesFile document ops options).result
      (typesFile document ops options').result := by
  have hnames : endName ∉ [Text.ofString "typed"] := by decide
  simp only [typesFile, Client.typesView, Logged.result_bind, Logged.result_liftM,
    Logged.result_pure, h.typed, h.fileName, h.outDir, bind_assoc, Result.ok_bind]
  refine .bind_same _ fun definitions => .bind_same _ fun declarations => ?_
  refine (hwritten _ (by simp [templates]) _ _ (.intro [_] [_] ?_)).bind
    fun _ _ hcontents => .ok ⟨rfl, hcontents⟩
  exact hnames

/-- Two runs whose options differ in the layout end alike, and their files stand in the relation in
which templates are written. -/
theorem agree_clientFiles (h : LayoutApart options options')
    (hwritten : WrittenApart q options options') (document : Value) :
    Agree (List.Forall₂ (Rewritten q)) (clientFiles document options).result
      (clientFiles document options').result :=
  (Output.agree_clientFiles rfl (congrArg _ h.redux) (h.agree_operationsFile hwritten)
    (h.agree_typesFile hwritten) (h.agree_descriptorFile hwritten)
    (h.agree_actionsFile hwritten)).mono fun _ _ => FilesAgree.forall₂

end LayoutApart

/-! ### Another unit of indentation -/

/-- Views with the same end of statements that differ in it at most are the same. -/
theorem EndsDiffer.eq {e : Text} {view view' : Value} (h : EndsDiffer e e view view') :
    view = view' := by
  cases h
  rfl

/-- A template is written with another unit as it is with the unit of the templates, line by line
indented anew. -/
theorem writtenApart_of_indent (options : Options) (indent : Indent) :
    WrittenApart (fun text text' => lines text' = (lines text).map (indentLine indent.unit))
      { options with indent := .two } { options with indent } := by
  rintro parts - view view' hview
  obtain rfl := hview.eq
  refine .bind_same _ fun text => .ok ?_
  have htwo : Template.reindent text Indent.two.unit = text := if_pos (by decide)
  rw [htwo]
  exact Template.lines_reindent (Template.newline_notMem_unit indent) text

/-- **The unit of indentation changes the spaces in front of the lines only.** A run with another
unit ends as the run with two spaces does, and gives files with the same paths, in the same order
and with the same number of lines: every two of the spaces in front of a line are written with the
unit, and a last single space and the rest of the line stay. So with tabs no line starts with two
spaces, and the files in steps of four spaces tell those in steps of two. -/
theorem agree_of_indent (document : Value) (options : Options) :
    (∀ indent : Indent,
      Agree
        (List.Forall₂ fun file file' => file'.path = file.path ∧
          lines file'.contents = (lines file.contents).map (indentLine indent.unit))
        (clientFiles document { options with indent := .two }).result
        (clientFiles document { options with indent }).result) ∧
    (∀ files, (clientFiles document { options with indent := .tab }).result = .ok files →
      ∀ file ∈ files, ∀ line ∈ lines file.contents, ¬Template.step <+: line) ∧
    Agree
      (List.Forall₂ fun file file' => file'.path = file.path ∧
        file.contents = ofLines ((lines file'.contents).map halved))
      (clientFiles document { options with indent := .two }).result
      (clientFiles document { options with indent := .four }).result := by
  have hapart (indent : Indent) :
      LayoutApart { options with indent := .two } { options with indent } := ⟨rfl, rfl, rfl⟩
  have hagree (indent : Indent) :=
    (hapart indent).agree_clientFiles (writtenApart_of_indent options indent) document
  refine ⟨hagree, fun files hfiles => ?_, ?_⟩
  · obtain ⟨before, -, hbefore⟩ := (hagree .tab).symm.exists_of_eq_ok hfiles
    refine Result.forall_mem_of_forall₂ hbefore fun before file hfile line hline => ?_
    rw [hfile.2] at hline
    obtain ⟨old, -, rfl⟩ := List.mem_map.mp hline
    exact Template.not_step_prefix_indentLine_tab old
  · refine (hagree .four).mono fun files files' h => ?_
    refine h.imp fun file file' ⟨hpath, hlines⟩ => ⟨hpath, ?_⟩
    have hhalved : halved ∘ indentLine Indent.four.unit = id :=
      funext Template.halved_indentLine_four
    rw [hlines, List.map_map, hhalved, List.map_id, Text.ofLines_lines]

/-- The client of a description with one operation has no line that starts with two spaces if it is
told to indent with tabs. -/
theorem agree_of_indent_pets : ∃ files,
    (clientFiles (taggedDocument "pets") { Options.usual "out" with indent := .tab }).result =
        .ok files ∧
      ∀ file ∈ files, ∀ line ∈ lines file.contents, ¬Template.step <+: line := by
  obtain ⟨files, hfiles⟩ := Result.exists_eq_ok_of_isOk
    (x := (clientFiles (taggedDocument "pets")
      { Options.usual "out" with indent := .tab }).result) (by decide +kernel)
  exact ⟨files, hfiles, (agree_of_indent (taggedDocument "pets") (.usual "out")).2.1 files hfiles⟩

/-! ### Another end of statements -/

/-- All templates ask for the end of a statement only where a line ends. -/
theorem endsLines_of_mem_templates {parts : List Part} (h : parts ∈ templates) :
    endsLines parts = true := by
  simp only [templates, List.mem_cons, List.not_mem_nil, or_false] at h
  obtain rfl | rfl | rfl | rfl := h
  · exact Template.endsLines_operations
  · exact Template.endsLines_types
  · exact Template.endsLines_descriptor
  · exact Template.endsLines_actions

/-- Views without and with a semicolon give such scopes. -/
theorem EndsDiffer.scopeOf {view view' : Value} (h : EndsDiffer [] [.char ';'] view view') :
    Agree EndApart (Template.scopeOf view) (Template.scopeOf view') := by
  obtain ⟨before, behind, hbefore⟩ := h
  have hnone : before.lookup endName = none := by
    refine List.lookup_eq_none_iff.mpr fun field hfield => ?_
    exact bne_iff_ne.mpr fun heq => hbefore (heq ▸ List.mem_map_of_mem hfield)
  rw [Template.scopeOf_record, Template.scopeOf_record]
  refine .ok ⟨fun n hn => ?_, rfl, ?_, ?_⟩
  · simp [List.lookup_append, List.lookup_cons, beq_false_of_ne hn]
  · simp [List.lookup_append, hnone]
  · simp [List.lookup_append, hnone]
    rfl

/-- A template is written with semicolons as it is without, line by line but for a semicolon at the
end. -/
theorem writtenApart_of_semicolon (hplain : options.statementEnd = [])
    (hended : options'.statementEnd = [.char ';']) (hindent : options.indent = options'.indent) :
    WrittenApart (fun text text' => List.Forall₂ EndedLine (lines text) (lines text'))
      options options' := by
  intro parts hparts view view' hview
  rw [hplain, hended] at hview
  have hends := endsLines_of_mem_templates hparts
  rw [written, written, Template.render, Template.render, ← hindent]
  refine (hview.scopeOf.bind fun s s' h => (Template.agree_renderParts parts h hends).1).bind
    fun text text' htext => .ok ?_
  have hunit := Template.newline_notMem_unit options.indent
  rw [Template.lines_reindent hunit, Template.lines_reindent hunit, List.forall₂_map_left_iff,
    List.forall₂_map_right_iff]
  exact htext.lines.imp fun line line' hline => Template.EndedLine.indentLine hline _

/-- **A semicolon ends lines and does nothing else.** A run that ends statements with a semicolon
ends as the run without does, and gives files with the same paths, in the same order and with the
same number of lines: each line is the same or has one semicolon more at its end. -/
theorem agree_of_semicolon (document : Value) (options : Options) {plain ended : Value}
    (hplain : plain.isTrue = false) (hended : ended.isTrue = true) :
    Agree
      (List.Forall₂ fun file file' => file'.path = file.path ∧
        List.Forall₂ EndedLine (lines file.contents) (lines file'.contents))
      (clientFiles document { options with semicolon := plain }).result
      (clientFiles document { options with semicolon := ended }).result := by
  have hapart :
      LayoutApart { options with semicolon := plain } { options with semicolon := ended } :=
    ⟨rfl, rfl, rfl⟩
  refine hapart.agree_clientFiles (writtenApart_of_semicolon ?_ ?_ rfl) document
  · exact if_neg (Bool.eq_false_iff.mp hplain)
  · exact if_pos hended

/-- The client of a description with one operation ends lines in semicolons if it is told to. -/
theorem agree_of_semicolon_pets : ∃ files files',
    (clientFiles (taggedDocument "pets") (.usual "out")).result = .ok files ∧
      (clientFiles (taggedDocument "pets")
        { Options.usual "out" with semicolon := .bool true }).result = .ok files' ∧
      List.Forall₂ (fun file file' => file'.path = file.path ∧
        List.Forall₂ EndedLine (lines file.contents) (lines file'.contents)) files files' := by
  obtain ⟨files, hfiles⟩ := Result.exists_eq_ok_of_isOk
    (x := (clientFiles (taggedDocument "pets") (.usual "out")).result) (by decide +kernel)
  have hplain : (Value.bool false).isTrue = false := rfl
  have hended : (Value.bool true).isTrue = true := rfl
  obtain ⟨files', hfiles', hagree⟩ := (agree_of_semicolon (taggedDocument "pets") (.usual "out")
    hplain hended).exists_of_eq_ok hfiles
  exact ⟨files, files', hfiles, hfiles', hagree⟩

end ClientScribe.Output
