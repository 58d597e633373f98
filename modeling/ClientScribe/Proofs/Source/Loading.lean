import ClientScribe.Proofs.Json.Impossible
import ClientScribe.Source.Load

/-!
# How Loading Ends

Loading has errors of its own: the document cannot be fetched or read, its text is malformed, or it
is no mapping. But several things can go wrong on the way to the document that none of these errors
stands for, and a run that meets one of them ends as a misfit:

* the name of a file holds a code point that no path can hold;
* the bytes of a file are not UTF-8, or those of an answer are not in its encoding;
* the address of an answer has no authority that can be used;
* the text names something that there is not, as a thirteenth month.

`Misfits` lists them, and they are all there are: loading ends as documented exactly if it meets
none of them (`documented_load_iff`). In JSON the last one takes a text that overruns
(`documented_load_of_json`).
-/

namespace ClientScribe.Store

variable {s : Store} {path : Path}

/-- A walk does not look at what a path can hold. -/
theorem walk_ne_unusable (p : Place) (names : List Text) :
    s.walk p names ≠ .error .unusable := by
  induction names generalizing p with
  | nil => nofun
  | cons name names ih =>
      rw [walk]
      split
      · nofun
      · dsimp only
        split
        · nofun
        · nofun
        · exact ih _

/-- A path is unusable exactly if it holds a code point that no path can hold. -/
theorem usable_eq_unusable_iff :
    usable path = .error .unusable ↔ ∃ c ∈ path.text, isPathPoint c = false := by
  rw [usable]
  split
  · next h => simpa using h
  · next h =>
    refine ⟨fun husable => ?_, fun hpoint => absurd (by simpa using hpoint) h⟩
    split at husable <;> cases husable

/-- Only reading an unusable path ends so. -/
theorem read?_eq_unusable_iff :
    s.read? path = .error .unusable ↔ usable path = .error .unusable := by
  constructor
  · intro h
    obtain hlocate | ⟨place, -, hat⟩ := Result.bind_eq_error_iff.mp h
    · obtain husable | ⟨-, -, hwalk⟩ := Result.bind_eq_error_iff.mp hlocate
      · exact husable
      · split at hwalk
        · cases hwalk
        · obtain hwalk | ⟨directory, -, hstep⟩ := Result.bind_eq_error_iff.mp hwalk
          · exact absurd hwalk (walk_ne_unusable _ _)
          · split at hstep <;> cases hstep
    · split at hat <;> cases hat
  · intro husable
    rw [read?, locate, husable]
    rfl

end ClientScribe.Store

namespace ClientScribe.Source

open Document (Value misfit)
open Store (Path isPathPoint)

variable {store : Store} {fetch : Text → Response} {source : Text} {bytes : ByteArray} {p : Prop}
  {r : Result Value}

/-! ### Ends of a run -/

/-- A run of loading ends with a mapping or with an error of its own. -/
def Documented : Result Value → Prop
  | .ok v => v.isMap = true
  | .error e => e.kind = .load

/-- A run of loading ends as a misfit under a condition, and else as documented. -/
structure MisfitsIf (p : Prop) (r : Result Value) : Prop where
  misfit : p → r = misfit
  documented : ¬ p → Documented r

/-- The condition is exact, as a misfit is not documented. -/
theorem MisfitsIf.documented_iff (h : MisfitsIf p r) : Documented r ↔ ¬ p := by
  refine ⟨fun hr hp => ?_, h.documented⟩
  rw [h.misfit hp] at hr
  cases hr

/-! ### The text -/

/-- A text misfits if it is impossible. -/
theorem misfitsIf_parse (contents name : Text) :
    MisfitsIf (valueOf contents name = .error .impossible) (parse contents name) where
  misfit h := by rw [parse, h]
  documented h := by
    rw [parse]
    cases hvalue : valueOf contents name with
    | error fault =>
        cases fault with
        | malformed => rfl
        | impossible => exact absurd hvalue h
    | ok v =>
        dsimp only
        split
        · next hmap => exact hmap
        · rfl

/-- The bytes of a file have a text if they are UTF-8. -/
theorem exists_fileText (h : bytes.IsValidUTF8) : ∃ contents, fileText bytes = .ok contents := by
  rw [fileText, String.fromUTF8?, dif_pos h]
  exact ⟨_, rfl⟩

/-- Bytes that are not UTF-8 have no text. -/
theorem fileText_eq_misfit (h : ¬ bytes.IsValidUTF8) : fileText bytes = misfit := by
  rw [fileText, String.fromUTF8?, dif_neg h]

/-- What can go wrong with a file that no error of loading stands for. -/
inductive FileMisfits (store : Store) (source : Text) : Prop where
  /-- Its name holds a code point that no path can hold. -/
  | name (c : CodePoint) (hc : c ∈ (Path.ofText source).text) (h : isPathPoint c = false)
  /-- Its bytes are not UTF-8. -/
  | bytes (bytes : ByteArray) (hread : store.read? (.ofText source) = .ok bytes)
      (h : ¬ bytes.IsValidUTF8)
  /-- Its text names something that there is not. -/
  | value (bytes : ByteArray) (contents : Text) (hread : store.read? (.ofText source) = .ok bytes)
      (hcontents : fileText bytes = .ok contents)
      (h : valueOf contents (Path.ofText source).name = .error .impossible)

/-- A file misfits if one of these things goes wrong. -/
theorem misfitsIf_loadFile (store : Store) (source : Text) :
    MisfitsIf (FileMisfits store source) (loadFile store source) where
  misfit h := by
    rw [loadFile]
    cases h with
    | name c hc h =>
        have hread := Store.usable_eq_unusable_iff.mpr ⟨c, hc, h⟩
        rw [Store.read?_eq_unusable_iff.mpr hread]
    | bytes bytes hread h =>
        rw [hread]
        dsimp only
        rw [fileText_eq_misfit h]
        rfl
    | value bytes contents hread hcontents h =>
        rw [hread]
        dsimp only
        rw [hcontents]
        exact (misfitsIf_parse _ _).misfit h
  documented h := by
    rw [loadFile]
    cases hread : store.read? (.ofText source) with
    | ok bytes =>
        by_cases hbytes : bytes.IsValidUTF8
        · obtain ⟨contents, hcontents⟩ := exists_fileText hbytes
          dsimp only
          rw [hcontents]
          exact (misfitsIf_parse _ _).documented fun hvalue =>
            h (.value bytes contents hread hcontents hvalue)
        · exact absurd (.bytes bytes hread hbytes) h
    | error fault =>
        cases fault with
        | unusable =>
            obtain ⟨c, hc, hpoint⟩ :=
              Store.usable_eq_unusable_iff.mp (Store.read?_eq_unusable_iff.mp hread)
            exact absurd (.name c hc hpoint) h
        | missing | notDirectory | isDirectory | nameTooLong => rfl

/-! ### Answers -/

/-- What can go wrong with an answer that no error of loading stands for. -/
inductive AnswerMisfits (source : Text) (contentType : Option Text) (body : ByteArray) : Prop where
  /-- Its body is not in its encoding. -/
  | body (h : (Charset.ofContentType contentType).decode? body.toList = none)
  /-- Its address has no authority that can be used. -/
  | address (contents : Text)
      (hcontents : (Charset.ofContentType contentType).decode? body.toList = some contents)
      (h : Url.ofText source = misfit)
  /-- Its text names something that there is not. -/
  | value (contents : Text) (url : Url)
      (hcontents : (Charset.ofContentType contentType).decode? body.toList = some contents)
      (hurl : Url.ofText source = .ok url)
      (h : valueOf contents (if url.path.isEmpty then source else url.path) = .error .impossible)

/-- The parts of an address can be told, or the address is a misfit. -/
theorem url_cases (source : Text) :
    Url.ofText source = misfit ∨ ∃ url, Url.ofText source = .ok url := by
  simp only [Url.ofText]
  exact (Classical.em _).elim (fun h => .inr ⟨_, if_pos h⟩) fun h => .inl (if_neg h)

/-- What can go wrong with what comes back from an address. -/
inductive ResponseMisfits (source : Text) : Response → Prop where
  /-- An answer that is no refusal misfits. -/
  | answer {status : Int} {contentType : Option Text} {body : ByteArray}
    (hstatus : 200 ≤ status ∧ status < 300) (h : AnswerMisfits source contentType body) :
    ResponseMisfits source (.answer status contentType body)

/-- What comes back misfits if it is an answer with which one of these things goes wrong. -/
theorem misfitsIf_loadResponse (source : Text) (response : Response) :
    MisfitsIf (ResponseMisfits source response) (loadResponse source response) where
  misfit h := by
    obtain ⟨hstatus, h⟩ := h
    rw [loadResponse, if_pos (by simpa using hstatus)]
    cases h with
    | body h => rw [h]
    | address contents hcontents h =>
        rw [hcontents]
        dsimp only
        rw [h]
        rfl
    | value contents url hcontents hurl h =>
        rw [hcontents]
        dsimp only
        rw [hurl]
        exact (misfitsIf_parse _ _).misfit h
  documented h := by
    cases response with
    | failure cause => rfl
    | answer status contentType body =>
        rw [loadResponse]
        split
        · next hstatus =>
          replace h (hanswer : AnswerMisfits source contentType body) : False :=
            h (.answer (by simpa using hstatus) hanswer)
          cases hcontents : (Charset.ofContentType contentType).decode? body.toList with
          | none => exact (h (.body hcontents)).elim
          | some contents =>
              obtain hurl | ⟨url, hurl⟩ := url_cases source
              · exact (h (.address contents hcontents hurl)).elim
              · dsimp only
                rw [hurl]
                exact (misfitsIf_parse _ _).documented fun hvalue =>
                  h (.value contents url hcontents hurl hvalue)
        · rfl

/-! ### Sources -/

/-- What can go wrong with a source that no error of loading stands for. -/
inductive Misfits (store : Store) (fetch : Text → Response) (source : Text) : Prop where
  | file (hsource : isUrl source = false) (h : FileMisfits store source)
  | response (hsource : isUrl source = true) (h : ResponseMisfits source (fetch source))

/-- A source misfits if one of these things goes wrong with its file or what comes back from it. -/
theorem misfitsIf_load (store : Store) (fetch : Text → Response) (source : Text) :
    MisfitsIf (Misfits store fetch source) (load store fetch source) where
  misfit h := by
    rw [load]
    cases h with
    | file hsource h =>
        rw [if_neg (by simp [hsource])]
        exact (misfitsIf_loadFile store source).misfit h
    | response hsource h =>
        rw [if_pos hsource]
        exact (misfitsIf_loadResponse source _).misfit h
  documented h := by
    rw [load]
    split
    · next hsource =>
      exact (misfitsIf_loadResponse source _).documented fun hresponse =>
        h (.response hsource hresponse)
    · next hsource =>
      exact (misfitsIf_loadFile store source).documented fun hfile =>
        h (.file (by simpa using hsource) hfile)

/-- **Files in JSON**: if the path can be used, the bytes are UTF-8 and the text does not overrun,
loading ends as documented. -/
theorem documented_load_of_json (hsource : isUrl source = false)
    (hpath : ∀ c ∈ (Path.ofText source).text, isPathPoint c = true)
    (hjson : isYamlName (Path.ofText source).name = false)
    (hbytes : ∀ bytes, store.read? (.ofText source) = .ok bytes → bytes.IsValidUTF8 ∧
      ∀ contents, fileText bytes = .ok contents → ¬ Json.Overruns jsonDepth contents) :
    Documented (load store fetch source) := by
  rw [(misfitsIf_load store fetch source).documented_iff]
  intro h
  cases h with
  | response hurl h => rw [hsource] at hurl; cases hurl
  | file _ h =>
      cases h with
      | name c hc h => rw [hpath c hc] at h; cases h
      | bytes bytes hread h => exact h (hbytes bytes hread).1
      | value bytes contents hread hcontents h =>
          rw [valueOf, if_neg (by simp [hjson])] at h
          exact (hbytes bytes hread).2 contents hcontents (Json.overruns_of_read_eq_impossible h)

end ClientScribe.Source
