import ClientScribe.Notice
import Mathlib.Data.List.Forall2

/-!
# Results, Step by Step

A run is a chain of steps, and each of them may end it. Proofs about a run that ends well take the
chain apart again: `Result.bind_eq_ok_iff` names what a step hands on, and
`Result.mapM_eq_ok_iff` does the same for a step that is made for every element of a list.

A step with notices is a result with a list beside it. What is proved here about the result of such
steps (`Logged.result_bind` and its kin) reduces a chain of them to a chain of plain results.
-/

namespace ClientScribe

namespace Result

variable {ε α β : Type}

/-- A chain of two steps ends well exactly when both do, whatever else may end it. -/
theorem bind_eq_ok_iff {x : Except ε α} {f : α → Except ε β} {b : β} :
    (x >>= f) = .ok b ↔ ∃ a, x = .ok a ∧ f a = .ok b := by
  cases x with
  | error e => simp [bind, Except.bind]
  | ok a => simp [bind, Except.bind]

/-- A chain of two steps ends early exactly when one of them does. -/
theorem bind_eq_error_iff {x : Except ε α} {f : α → Except ε β} {e : ε} :
    (x >>= f) = .error e ↔ x = .error e ∨ ∃ a, x = .ok a ∧ f a = .error e := by
  cases x with
  | error e' => simp [bind, Except.bind]
  | ok a => simp [bind, Except.bind]

/-- A chain behind a check ends well exactly when the check and the chain do. -/
theorem check_bind_eq_ok_iff {x : Except ε Unit} {f : Unit → Except ε β} {b : β} :
    (x >>= f) = .ok b ↔ x = .ok () ∧ f () = .ok b := by
  rw [bind_eq_ok_iff]
  exact ⟨fun ⟨(), h⟩ => h, fun h => ⟨(), h⟩⟩

/-- A chain whose steps end well where those of another one do ends well where that one does. -/
theorem bind_mono {x y : Result α} {f g : α → Result β} {b : β}
    (hxy : ∀ a, x = .ok a → y = .ok a) (hfg : ∀ a, f a = .ok b → g a = .ok b)
    (h : (x >>= f) = .ok b) : (y >>= g) = .ok b := by
  obtain ⟨a, hx, hf⟩ := bind_eq_ok_iff.mp h
  exact bind_eq_ok_iff.mpr ⟨a, hxy a hx, hfg a hf⟩

/-- What is done with the value of a step does not change how the step ends. -/
theorem map_eq_ok_iff {x : Result α} {f : α → β} {b : β} :
    x.map f = .ok b ↔ ∃ a, x = .ok a ∧ f a = b := by
  cases x with
  | error e => simp [Except.map]
  | ok a => simp [Except.map]

/-- The value that a chain is entered with is a step that ends well. -/
@[simp] theorem pure_def (a : α) : (pure a : Result α) = .ok a := rfl

/-- A map over a step, as `do` blocks write it, is the step and then its value mapped. -/
@[simp] theorem map_def (f : α → β) (x : Result α) : f <$> x = x >>= fun a => .ok (f a) := by
  cases x <;> rfl

/-- A step with a known value hands that value on. -/
@[simp] theorem ok_bind (a : α) (f : α → Result β) : ((.ok a : Result α) >>= f) = f a := rfl

/-- A step that ends a run ends the chain behind it. -/
@[simp] theorem error_bind (e : Error) (f : α → Result β) :
    ((.error e : Result α) >>= f) = .error e := rfl

/-- A step that ends well has a value. -/
theorem exists_eq_ok_of_isOk {x : Except ε α} (h : x.isOk = true) : ∃ a, x = .ok a := by
  cases x with
  | error e => cases h
  | ok a => exact ⟨a, rfl⟩

/-- A step whose value passes a test has a value. -/
theorem exists_eq_ok_of_any {x : Except ε α} {p : α → Bool} (h : x.toOption.any p = true) :
    ∃ a, x = .ok a ∧ p a = true := by
  cases x with
  | error e => cases h
  | ok a => exact ⟨a, rfl, h⟩

/-- A step for every element of a list ends well exactly when it does for each, and its value is the
row of the values. -/
theorem mapM_eq_ok_iff {f : α → Result β} {xs : List α} {ys : List β} :
    xs.mapM f = .ok ys ↔ List.Forall₂ (fun x y => f x = .ok y) xs ys := by
  induction xs generalizing ys with
  | nil => cases ys <;> simp
  | cons x xs ih =>
      simp only [List.mapM_cons, bind_eq_ok_iff, pure_def, Except.ok.injEq, ih]
      constructor
      · rintro ⟨y, hy, zs, hzs, rfl⟩
        exact .cons hy hzs
      · rintro (_ | ⟨hy, hzs⟩)
        exact ⟨_, hy, _, hzs, rfl⟩

/-- Steps that are the same for every element of a list are the same for the list. -/
theorem mapM_congr {f g : α → Result β} {xs : List α} (h : ∀ x ∈ xs, f x = g x) :
    xs.mapM f = xs.mapM g := by
  induction xs with
  | nil => rfl
  | cons x xs ih =>
      rw [List.mapM_cons, List.mapM_cons, h x List.mem_cons_self,
        ih fun y hy => h y (List.mem_cons_of_mem _ hy)]


/-- What the values of a row are told by is what their elements are told by. -/
theorem map_eq_map_of_mapM {γ : Type} {f : α → Result β} {xs : List α} {ys : List β} {g : β → γ}
    {k : α → γ} (h : xs.mapM f = .ok ys) (hf : ∀ x ∈ xs, ∀ y, f x = .ok y → g y = k x) :
    ys.map g = xs.map k := by
  induction mapM_eq_ok_iff.mp h with
  | nil => rfl
  | @cons x y xs ys hy hys ih =>
      rw [List.map_cons, List.map_cons, hf x List.mem_cons_self y hy,
        ih (mapM_eq_ok_iff.mpr hys) fun z hz => hf z (List.mem_cons_of_mem _ hz)]

/-- Every element has its value in the row. -/
theorem exists_of_mem_of_mapM {f : α → Result β} {xs : List α} {ys : List β} {x : α}
    (h : xs.mapM f = .ok ys) (hx : x ∈ xs) : ∃ y ∈ ys, f x = .ok y := by
  induction mapM_eq_ok_iff.mp h with
  | nil => cases hx
  | @cons a y as ys hy hys ih =>
      obtain rfl | hx := List.mem_cons.mp hx
      · exact ⟨y, List.mem_cons_self, hy⟩
      · obtain ⟨z, hz, hxz⟩ := ih (mapM_eq_ok_iff.mpr hys) hx
        exact ⟨z, List.mem_cons_of_mem _ hz, hxz⟩

/-- Every value in the row is that of an element. -/
theorem exists_of_mem_mapM {f : α → Result β} {xs : List α} {ys : List β} {y : β}
    (h : xs.mapM f = .ok ys) (hy : y ∈ ys) : ∃ x ∈ xs, f x = .ok y := by
  induction mapM_eq_ok_iff.mp h with
  | nil => cases hy
  | @cons x a xs as hx hxs ih =>
      obtain rfl | hy := List.mem_cons.mp hy
      · exact ⟨x, List.mem_cons_self, hx⟩
      · obtain ⟨z, hz, hzy⟩ := ih (mapM_eq_ok_iff.mpr hxs) hy
        exact ⟨z, List.mem_cons_of_mem _ hz, hzy⟩

/-- A step that is known for every element of a list is known for the list. -/
theorem mapM_eq_ok_iff_forall {f : α → Result β} {P : α → Prop} {g : α → β} {xs : List α}
    {ys : List β} (h : ∀ x ∈ xs, ∀ y, f x = .ok y ↔ P x ∧ y = g x) :
    xs.mapM f = .ok ys ↔ (∀ x ∈ xs, P x) ∧ ys = xs.map g := by
  constructor
  · intro hys
    have hP : ∀ x ∈ xs, P x := fun x hx => by
      obtain ⟨y, -, hy⟩ := exists_of_mem_of_mapM hys hx
      exact ((h x hx y).mp hy).1
    have hmap := map_eq_map_of_mapM (g := id) hys fun x hx y hy => ((h x hx y).mp hy).2
    exact ⟨hP, by simpa using hmap⟩
  · rintro ⟨hP, rfl⟩
    exact mapM_eq_ok_iff.mpr <| List.forall₂_map_right_iff.mpr <|
      List.forall₂_same.mpr fun x hx => (h x hx _).mpr ⟨hP x hx, rfl⟩

/-- Some value in the row has a property exactly if some element has the one that gives it. -/
theorem exists_mem_iff_of_mapM {f : α → Result β} {xs : List α} {ys : List β} {p : β → Prop}
    {q : α → Prop} (h : xs.mapM f = .ok ys) (hf : ∀ x ∈ xs, ∀ y, f x = .ok y → (p y ↔ q x)) :
    (∃ y ∈ ys, p y) ↔ ∃ x ∈ xs, q x := by
  constructor
  · rintro ⟨y, hy, hp⟩
    obtain ⟨x, hx, hxy⟩ := exists_of_mem_mapM h hy
    exact ⟨x, hx, (hf x hx y hxy).mp hp⟩
  · rintro ⟨x, hx, hq⟩
    obtain ⟨y, hy, hxy⟩ := exists_of_mem_of_mapM h hx
    exact ⟨y, hy, (hf x hx y hxy).mpr hq⟩

/-- Rows that belong together element by element give rows of values that do, if each step for the
second one ends well where that for the first one does. -/
theorem exists_mapM_of_forall₂ {γ δ : Type} {r : α → γ → Prop} {t : β → δ → Prop}
    {f : α → Result β} {g : γ → Result δ} {xs : List α} {zs : List γ} {ys : List β}
    (hrows : List.Forall₂ r xs zs)
    (hstep : ∀ x z y, r x z → f x = .ok y → ∃ w, g z = .ok w ∧ t y w) (h : xs.mapM f = .ok ys) :
    ∃ ws, zs.mapM g = .ok ws ∧ List.Forall₂ t ys ws := by
  induction hrows generalizing ys with
  | nil =>
      obtain rfl := Except.ok.inj h
      exact ⟨[], rfl, .nil⟩
  | @cons x z xs zs hr _ ih =>
      simp only [List.mapM_cons, bind_eq_ok_iff, pure_def, Except.ok.injEq] at h
      obtain ⟨y, hy, ys, hys, rfl⟩ := h
      obtain ⟨w, hw, ht⟩ := hstep x z y hr hy
      obtain ⟨ws, hws, hts⟩ := ih hys
      exact ⟨w :: ws, by simp [hw, hws], .cons ht hts⟩

/-- The same for two steps that are made for every element of one list. -/
theorem exists_mapM {δ : Type} {t : β → δ → Prop} {f : α → Result β} {g : α → Result δ}
    {xs : List α} {ys : List β} (hstep : ∀ x y, f x = .ok y → ∃ w, g x = .ok w ∧ t y w)
    (h : xs.mapM f = .ok ys) : ∃ ws, xs.mapM g = .ok ws ∧ List.Forall₂ t ys ws := by
  refine exists_mapM_of_forall₂ (List.forall₂_same.mpr fun x _ => rfl) ?_ h
  rintro x _ y rfl hy
  exact hstep x y hy

/-- What stays of a list are the elements kept so far and those for which the condition holds. -/
theorem mem_of_filterAuxM {f : α → Result Bool} {xs kept ys : List α} {x : α}
    (h : xs.filterAuxM f kept = .ok ys) (hx : x ∈ kept ∨ x ∈ xs ∧ f x = .ok true) : x ∈ ys := by
  induction xs generalizing kept with
  | nil =>
      obtain rfl := Except.ok.inj h
      simpa using hx
  | cons a xs ih =>
      obtain ⟨holds, hholds, h⟩ := bind_eq_ok_iff.mp h
      refine ih h ?_
      obtain hx | ⟨hx, hf⟩ := hx
      · cases holds <;> simp [hx]
      · obtain rfl | hx := List.mem_cons.mp hx
        · obtain rfl := Except.ok.inj (hholds.symm.trans hf)
          exact .inl List.mem_cons_self
        · exact .inr ⟨hx, hf⟩

/-- The loop behind `filterM` has asked about each element of the list it went through. -/
theorem exists_eq_ok_of_filterAuxM {f : α → Result Bool} {xs kept ys : List α} {x : α}
    (h : xs.filterAuxM f kept = .ok ys) (hx : x ∈ xs) : ∃ holds, f x = .ok holds := by
  induction xs generalizing kept with
  | nil => cases hx
  | cons a xs ih =>
      obtain ⟨holds, hholds, h⟩ := bind_eq_ok_iff.mp h
      obtain rfl | hx := List.mem_cons.mp hx
      · exact ⟨holds, hholds⟩
      · exact ih h hx

/-- A list is filtered only if the condition can be told of every element. -/
theorem exists_eq_ok_of_filterM {f : α → Result Bool} {xs ys : List α} {x : α}
    (h : xs.filterM f = .ok ys) (hx : x ∈ xs) : ∃ holds, f x = .ok holds := by
  obtain ⟨kept, hkept, -⟩ := bind_eq_ok_iff.mp h
  exact exists_eq_ok_of_filterAuxM hkept hx

/-- Elements for which a condition holds stay. -/
theorem mem_of_filterM {f : α → Result Bool} {xs ys : List α} {x : α}
    (h : xs.filterM f = .ok ys) (hx : x ∈ xs) (hf : f x = .ok true) : x ∈ ys := by
  obtain ⟨kept, hkept, h⟩ := bind_eq_ok_iff.mp h
  obtain rfl := Except.ok.inj h
  exact List.mem_reverse.mpr (mem_of_filterAuxM hkept (.inr ⟨hx, hf⟩))

/-- A condition that never ends the run filters as a plain one. -/
theorem filterM_map_eq_ok {γ : Type} {g : γ → α} {f : α → Result Bool} {p : γ → Bool}
    {zs : List γ} (h : ∀ z ∈ zs, f (g z) = .ok (p z)) :
    (zs.map g).filterM f = .ok ((zs.filter p).map g) := by
  have haux (kept : List α) :
      (zs.map g).filterAuxM f kept = .ok (((zs.filter p).map g).reverse ++ kept) := by
    induction zs generalizing kept with
    | nil => rfl
    | cons z zs ih =>
        rw [List.map_cons, List.filterAuxM, h z List.mem_cons_self, ok_bind,
          ih (fun y hy => h y (List.mem_cons_of_mem _ hy))]
        cases hz : p z <;> simp [hz]
  simp [List.filterM, haux]

/-- A test that answers for each element keeps what the plain filter keeps. -/
theorem filterM_eq_ok {f : α → Result Bool} {p : α → Bool} {xs : List α}
    (h : ∀ x ∈ xs, f x = .ok (p x)) : xs.filterM f = .ok (xs.filter p) := by
  simpa using filterM_map_eq_ok (g := id) h

/-- A condition that is known for every element of a list filters it if it can be told of all. -/
theorem filterM_eq_ok_iff_forall {f : α → Result Bool} {P : α → Prop} {p : α → Bool}
    {xs ys : List α} (h : ∀ x ∈ xs, ∀ b, f x = .ok b ↔ P x ∧ b = p x) :
    xs.filterM f = .ok ys ↔ (∀ x ∈ xs, P x) ∧ ys = xs.filter p := by
  have hfilter (hP : ∀ x ∈ xs, P x) : xs.filterM f = .ok (xs.filter p) :=
    filterM_eq_ok fun x hx => (h x hx _).mpr ⟨hP x hx, rfl⟩
  constructor
  · intro hys
    have hP : ∀ x ∈ xs, P x := fun x hx => by
      obtain ⟨b, hb⟩ := exists_eq_ok_of_filterM hys hx
      exact ((h x hx b).mp hb).1
    exact ⟨hP, Except.ok.inj (hys.symm.trans (hfilter hP))⟩
  · rintro ⟨hP, rfl⟩
    exact hfilter hP

/-- A run that ends with a value of one kind, or early by an error of another. -/
inductive Ends (P : α → Prop) (Q : ε → Prop) : Except ε α → Prop
  | ok {a : α} (h : P a) : Ends P Q (.ok a)
  | error {e : ε} (h : Q e) : Ends P Q (.error e)

namespace Ends

variable {P P' : α → Prop} {R : β → Prop} {Q Q' : ε → Prop} {x : Except ε α} {e : ε}

/-- A run may be said to end in more ways than it was. -/
theorem mono (h : Ends P Q x) (hP : ∀ a, P a → P' a) (hQ : ∀ e, Q e → Q' e) : Ends P' Q' x := by
  cases h with
  | ok h => exact .ok (hP _ h)
  | error h => exact .error (hQ _ h)

/-- A chain of two steps ends as its second one does, or early as its first one. -/
theorem bind {f : α → Except ε β} (h : Ends P Q x) (hf : ∀ a, P a → Ends R Q (f a)) :
    Ends R Q (x >>= f) := by
  cases h with
  | ok h => exact hf _ h
  | error h => exact .error h

/-- A step for every element of a list ends early only as it does for one of them. -/
theorem mapM {f : α → Except ε β} {xs : List α} (h : ∀ x ∈ xs, Ends (fun _ => True) Q (f x)) :
    Ends (fun _ => True) Q (xs.mapM f) := by
  induction xs with
  | nil => exact .ok trivial
  | cons x xs ih =>
      rw [List.mapM_cons]
      refine (h x List.mem_cons_self).bind fun _ _ => ?_
      exact (ih fun y hy => h y (List.mem_cons_of_mem _ hy)).bind fun _ _ => .ok trivial

/-- A run that ends early does so by an error of its kind. -/
theorem of_eq_error (h : Ends P Q x) (hx : x = .error e) : Q e := by
  subst hx
  cases h with
  | error h => exact h

end Ends

end Result

namespace Logged

variable {α β : Type}

/-- The result of a chain is the chain of the results. -/
@[simp] theorem result_bind (x : Logged α) (f : α → Logged β) :
    (x >>= f).result = x.result >>= fun a => (f a).result := by
  obtain ⟨r, notices⟩ := x
  cases r <;> rfl

/-- What is done with the value of a step is done with its result. -/
@[simp] theorem result_map (f : α → β) (x : Logged α) : (f <$> x).result = f <$> x.result := by
  obtain ⟨r, notices⟩ := x
  cases r <;> rfl

/-- What is logged beside a pure value does not change it. -/
@[simp] theorem result_pure (a : α) : (pure a : Logged α).result = .ok a := rfl

/-- A notice never ends a run. -/
@[simp] theorem result_note (n : Notice) : (note n).result = .ok () := rfl

/-- A step that is lifted to one that logs keeps its outcome. -/
@[simp] theorem result_liftM (x : Result α) : (liftM x : Logged α).result = x := rfl

/-- A step that is taken in without notices keeps its outcome. -/
@[simp] theorem result_ofResult (x : Result α) : (ofResult x).result = x := rfl

instance : LawfulMonad Logged :=
  LawfulMonad.mk' Logged
    (fun x => by
      obtain ⟨_ | a, notices⟩ := x
      · rfl
      · simp [Functor.map, andThen, ofResult])
    (fun a f => by simp [bind, pure, andThen, ofResult])
    (fun x f g => by
      obtain ⟨_ | a, notices⟩ := x
      · rfl
      · cases h : (f a).result <;> simp [bind, andThen, h])

/-- The result of a step made for every element of a list comes from the results of the steps. -/
theorem result_mapM (f : α → Logged β) (xs : List α) :
    (xs.mapM f).result = xs.mapM fun x => (f x).result := by
  induction xs with
  | nil => rfl
  | cons x xs ih => simp [ih]

/-- The result of a fold comes from the results of its steps. -/
theorem result_foldlM (f : β → α → Logged β) (b : β) (xs : List α) :
    (xs.foldlM f b).result = xs.foldlM (fun b x => (f b x).result) b := by
  induction xs generalizing b with
  | nil => rfl
  | cons x xs ih => simp [ih]

/-- A step without notices hands its value on and leaves no trace. -/
theorem liftM_ok_bind (a : α) (f : α → Logged β) :
    ((liftM (.ok a : Result α) : Logged α) >>= f) = f a := by
  simp [liftM, monadLift, MonadLift.monadLift, ofResult, bind, andThen]

/-- A notice stands before those of the steps behind it. -/
theorem notices_note_bind (n : Notice) (f : Unit → Logged β) :
    (note n >>= f).notices = n :: (f ()).notices := rfl

/-- A chain gives the notices of its steps, one after the other. -/
theorem notices_bind {x : Logged α} {a : α} (h : x.result = .ok a) (f : α → Logged β) :
    (x >>= f).notices = x.notices ++ (f a).notices := by
  obtain ⟨r, notices⟩ := x
  obtain rfl : r = .ok a := h
  rfl

/-- What is done with the value of a step gives no notice. -/
theorem notices_bind_pure (x : Logged α) (f : α → β) :
    (x >>= fun a => pure (f a)).notices = x.notices := by
  obtain ⟨_ | a, notices⟩ := x
  · rfl
  · simp [bind, andThen, pure, ofResult]

/-- A step made for every element of a list that ends well consists of the values and the notices of
all of them. -/
theorem exists_parts_of_mapM {f : α → Logged β} {xs : List α} {ys : List β}
    (h : (xs.mapM f).result = .ok ys) : ∃ parts : List (β × List Notice),
      List.Forall₂ (fun x part => f x = ⟨.ok part.1, part.2⟩) xs parts ∧
        ys = parts.map Prod.fst ∧ (xs.mapM f).notices = parts.flatMap Prod.snd := by
  induction xs generalizing ys with
  | nil =>
      obtain rfl := Except.ok.inj h
      exact ⟨[], .nil, rfl, rfl⟩
  | cons x xs ih =>
      rw [List.mapM_cons] at h ⊢
      simp only [result_bind, result_pure, Result.bind_eq_ok_iff, Except.ok.injEq] at h
      obtain ⟨y, hy, zs, hzs, rfl⟩ := h
      obtain ⟨parts, hparts, rfl, hnotices⟩ := ih hzs
      refine ⟨(y, (f x).notices) :: parts, .cons ?_ hparts, rfl, ?_⟩
      · rw [← hy]
      · rw [notices_bind hy, notices_bind hzs, hnotices, List.flatMap_cons]
        simp [pure, ofResult]

end Logged

end ClientScribe
