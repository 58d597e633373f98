import ClientScribe.Api.Derived
import ClientScribe.Client.Descriptor
import ClientScribe.Proofs.Api.Derived

/-!
# Descriptors From Two Sources

A description that is taken from two sources may get two descriptors: the host and the schemes that
it leaves out are those of the source. Whether there is a descriptor at all does not depend on the
source, since a host and a scheme are texts, and texts have literals. So the one run has a
descriptor exactly if the other one does (`agree_descriptorView`).
-/

namespace ClientScribe.Client

open Api (Outside IsDerived)
open Document (Value Entries lookup record)
open Json (print printElements printEntries)
open Result (Agree)

/-! ### Values that print alike -/

/-- Two values that are both null or both not, and both have a literal or both end the run. -/
structure PrintAlike (v w : Value) : Prop where
  isNull : v.isNull = w.isNull
  print : ∀ level, Agree (fun _ _ => True) (print level v) (print level w)

/-- A value prints like itself. -/
theorem PrintAlike.refl (v : Value) : PrintAlike v v :=
  ⟨rfl, fun _ => .refl (fun _ => trivial) _⟩

/-- Texts have literals. -/
theorem print_str (level : Nat) (s : Text) :
    print level (.str s) = .ok (Text.ofChars (Json.literalText s)) := by
  simp [Json.print, Json.scalarText]

/-- Texts print alike, whatever they say. -/
theorem PrintAlike.str (s t : Text) : PrintAlike (.str s) (.str t) where
  isNull := rfl
  print level := by
    rw [print_str, print_str]
    exact .ok trivial

/-- Lists of texts have literals. -/
theorem PrintAlike.singleton (s t : Text) : PrintAlike (.list [.str s]) (.list [.str t]) where
  isNull := rfl
  print level := by
    rw [Json.print, Json.print]
    simp only [printElements]
    exact ((PrintAlike.str s t).print (level + 1)).bind fun _ _ _ => .ok trivial

/-- A link has no literal, and neither has the member that it stands for. -/
theorem PrintAlike.outside {f g : Value → Value} (hf : Outside f) (hg : Outside g) (v : Value) :
    PrintAlike (f v) (g v) := by
  cases v with
  | link j =>
      have hlink {f : Value → Value} (hf : Outside f) : (f (.link j)).isNull = false ∧
          ∀ level, Json.print level (f (.link j)) = Document.misfit := by
        cases hf <;> exact ⟨rfl, fun level => by simp [Value.outside, Json.print, Json.scalarText]⟩
      refine ⟨(hlink hf).1.trans (hlink hg).1.symm, fun level => ?_⟩
      rw [(hlink hf).2, (hlink hg).2]
      exact .error _
  | _ =>
      rw [hf.eq_of_ne_link (by simp), hg.eq_of_ne_link (by simp)]
      exact .refl _

/-- Entries with the same keys whose values print alike print alike. -/
theorem agree_printEntries {es es' : Entries}
    (h : List.Forall₂ (fun e e' => e.1 = e'.1 ∧ PrintAlike e.2 e'.2) es es') (level : Nat) :
    Agree (fun _ _ => True) (printEntries level es) (printEntries level es') := by
  induction h with
  | nil =>
      rw [printEntries]
      exact .ok trivial
  | @cons e e' es es' he _ ih =>
      obtain ⟨key, v⟩ := e
      obtain ⟨key', w⟩ := e'
      obtain ⟨rfl, hvalues⟩ := he
      rw [printEntries, printEntries]
      refine .bind_same _ fun _ => ?_
      exact (hvalues.print level).bind fun _ _ _ => ih.bind fun _ _ _ => .ok trivial

/-! ### Two sources -/

section Sources

variable {document d d' : Value} {a b : Option Text} {k : Text} {f g : Value → Value}

/-- A field of a description with derived fields, by what it is in its entries. -/
theorem field_of_withDerivedFields {derived : Entries} (hf : Outside f)
    (hview : d.view = .map (derived.map fun e => (e.1, f e.2))) (k : Text) :
    d.field k = .ok (f ((lookup k derived).getD .null)) := by
  have hnull : f .null = .null := hf.eq_of_ne_link (by simp)
  rw [Value.field_of_view hview, Value.get?_of_view hview, Document.lookup_map_snd]
  cases lookup k derived with
  | none => exact congrArg Except.ok hnull.symm
  | some v => rfl

/-- The fields of a description that its descriptor shows. -/
def shownKeys : List Text :=
  ["host", "schemes", "basePath", "contentTypes", "accepts"].map Text.ofString

/-- The derived fields of one description from two sources print alike. -/
theorem printAlike_of_isDerived {es derived derived' : Entries}
    {basePath host scheme host' scheme' : Text} (hf : Outside f) (hg : Outside g)
    (h : IsDerived es basePath host scheme derived)
    (h' : IsDerived es basePath host' scheme' derived') (hk : k ∈ shownKeys) :
    PrintAlike (f ((lookup k derived).getD .null)) (g ((lookup k derived').getD .null)) := by
  simp only [shownKeys, List.map_cons, List.map_nil, List.mem_cons, List.not_mem_nil,
    or_false] at hk
  obtain rfl | rfl | rfl | rfl | rfl := hk
  · rw [h.host, h'.host]
    cases lookup "host" es with
    | none =>
        have hstr {f : Value → Value} (hf : Outside f) (s : Text) : f (.str s) = .str s :=
          hf.eq_of_ne_link (by simp)
        simp only [Option.getD_some, Option.getD_none, hstr hf, hstr hg]
        exact .str host host'
    | some v => exact .outside hf hg v
  · rw [h.schemes, h'.schemes]
    unfold Value.orElse
    split
    · exact .outside hf hg _
    · rw [hf.eq_of_ne_link (by simp), hg.eq_of_ne_link (by simp)]
      exact .singleton scheme scheme'
  · rw [h.basePath, h'.basePath]
    exact .outside hf hg _
  · rw [h.contentTypes, h'.contentTypes]
    exact .outside hf hg _
  · rw [h.accepts, h'.accepts]
    exact .outside hf hg _

/-- The fields of one description from two sources print alike. -/
theorem agree_field (ha : Api.withDerivedFields document a = .ok d)
    (hb : Api.withDerivedFields document b = .ok d') (hk : k ∈ shownKeys) :
    Agree PrintAlike (d.field k) (d'.field k) := by
  obtain ⟨es, derived, f, hes, hderived, hf, hview⟩ := Api.withDerivedFields_eq_ok ha
  obtain ⟨es', derived', g, hes', hderived', hg, hview'⟩ := Api.withDerivedFields_eq_ok hb
  obtain rfl := Except.ok.inj (hes.symm.trans hes')
  obtain ⟨basePath, _, _, hbase, -, hisDerived⟩ := Api.derivedFields_eq_ok hderived
  obtain ⟨basePath', _, _, hbase', -, hisDerived'⟩ := Api.derivedFields_eq_ok hderived'
  obtain rfl := Except.ok.inj (hbase.symm.trans hbase')
  rw [field_of_withDerivedFields hf hview, field_of_withDerivedFields hg hview']
  exact .ok (printAlike_of_isDerived hf hg hisDerived hisDerived' hk)

/-- The descriptors of one description from two sources have the same keys, and values that print
alike. -/
theorem agree_descriptor (ha : Api.withDerivedFields document a = .ok d)
    (hb : Api.withDerivedFields document b = .ok d')
    (hcomponents : Api.components d = Api.components d') :
    Agree (fun v v' => ∃ es es', v = .map es ∧ v' = .map es' ∧
      List.Forall₂ (fun e e' => e.1 = e'.1 ∧ PrintAlike e.2 e'.2) es es')
      (descriptor d) (descriptor d') := by
  have hfield (k : Text) (hk : k ∈ shownKeys) := agree_field ha hb hk
  rw [descriptor, descriptor, ← hcomponents]
  refine (hfield "host" (by decide)).bind fun host host' hhost => ?_
  refine (hfield "schemes" (by decide)).bind fun schemes schemes' hschemes => ?_
  refine (hfield "basePath" (by decide)).bind fun basePath basePath' hbasePath => ?_
  refine (hfield "contentTypes" (by decide)).bind fun types types' htypes => ?_
  refine (hfield "accepts" (by decide)).bind fun accepts accepts' haccepts => ?_
  refine .bind_same _ fun components => .bind_same _ fun security => .ok ⟨_, _, rfl, rfl, ?_⟩
  rw [List.forall₂_map_left_iff, List.forall₂_map_right_iff]
  have hall : List.Forall₂ (fun (e e' : Text × Value) => e.1 = e'.1 ∧ PrintAlike e.2 e'.2)
      [("host", host), ("schemes", schemes), ("basePath", basePath), ("contentTypes", types),
        ("accepts", accepts), ("securitySchemes", security)]
      [("host", host'), ("schemes", schemes'), ("basePath", basePath'), ("contentTypes", types'),
        ("accepts", accepts'), ("securitySchemes", security)] :=
    .cons ⟨rfl, hhost⟩ (.cons ⟨rfl, hschemes⟩ (.cons ⟨rfl, hbasePath⟩ (.cons ⟨rfl, htypes⟩
      (.cons ⟨rfl, haccepts⟩ (.cons ⟨rfl, .refl security⟩ .nil)))))
  have hkept := List.rel_filter (p := fun e : Text × Value => !e.2.isNull)
    (q := fun e : Text × Value => !e.2.isNull)
    (fun e e' (he : e.1 = e'.1 ∧ PrintAlike e.2 e'.2) => by simp [he.2.isNull]) hall
  exact hkept.imp fun e e' he => ⟨congrArg Value.str he.1, he.2⟩

/-- **Whether there is a descriptor does not depend on the source.** -/
theorem agree_descriptorView (ha : Api.withDerivedFields document a = .ok d)
    (hb : Api.withDerivedFields document b = .ok d')
    (hcomponents : Api.components d = Api.components d') (options : Options) :
    Agree (fun v v' => v'.typed = v.typed ∧ v'.statementEnd = v.statementEnd)
      (descriptorView d options) (descriptorView d' options) := by
  refine (agree_descriptor ha hb hcomponents).bind ?_
  rintro _ _ ⟨es, es', rfl, rfl, hentries⟩
  have hprint : Agree (fun _ _ => True) (print 0 (.map es)) (print 0 (.map es')) := by
    rw [print, print]
    exact (agree_printEntries hentries 1).bind fun _ _ _ => .ok trivial
  exact hprint.bind fun _ _ _ => .ok ⟨rfl, rfl⟩

end Sources

end ClientScribe.Client
