import ClientScribe.Proofs.Result

/-!
# Runs Side by Side

Two runs that differ in one option, or in a part of the description that they do not look at, take
the same steps. `Result.Agree r` says that they end alike: both well and with values that stand in
the relation `r`, or both by the same error. The relation goes through chains of steps
(`Agree.bind`) and through a step for every element of a list (`Agree.mapM`), so it is proved where
the runs differ and carried from there to the whole run.
-/

namespace ClientScribe.Result

/-- Two results of which both are values in a relation, or both the same error. -/
inductive Agree {α β : Type} (r : α → β → Prop) : Result α → Result β → Prop
  | ok {a : α} {b : β} (h : r a b) : Agree r (.ok a) (.ok b)
  | error (e : Error) : Agree r (.error e) (.error e)

variable {α β γ δ : Type} {r : α → β → Prop} {q : γ → δ → Prop} {x : Result α} {y : Result β}

/-- A run agrees with itself. -/
theorem Agree.refl {r : α → α → Prop} (hr : ∀ a, r a a) (x : Result α) : Agree r x x := by
  cases x with
  | error e => exact .error e
  | ok a => exact .ok (hr a)

/-- Runs agree in every relation that holds of their values. -/
theorem Agree.mono {r' : α → β → Prop} (h : Agree r x y) (hr : ∀ a b, r a b → r' a b) :
    Agree r' x y := by
  cases h with
  | ok h => exact .ok (hr _ _ h)
  | error e => exact .error e

/-- Runs agree in both directions. -/
theorem Agree.symm (h : Agree r x y) : Agree (fun b a => r a b) y x := by
  cases h with
  | ok h => exact .ok h
  | error e => exact .error e

/-- Runs that agree go on agreeing if the next step does for all values in the relation. -/
theorem Agree.bind {f : α → Result γ} {g : β → Result δ} (h : Agree r x y)
    (hfg : ∀ a b, r a b → Agree q (f a) (g b)) : Agree q (x >>= f) (y >>= g) := by
  cases h with
  | ok h => exact hfg _ _ h
  | error e => exact .error e

/-- Behind the same step, runs agree if they do for its value. -/
theorem Agree.bind_same {f : α → Result γ} {g : α → Result δ} (x : Result α)
    (hfg : ∀ a, Agree q (f a) (g a)) : Agree q (x >>= f) (x >>= g) :=
  (Agree.refl (fun _ => rfl) x).bind fun a _ heq => heq ▸ hfg a

/-- What is done with the value of the first run does not change how it ends. -/
theorem Agree.pure_left {q : γ → β → Prop} {f : α → γ} (h : Agree r x y)
    (hf : ∀ a b, r a b → q (f a) b) : Agree q (x >>= fun a => pure (f a)) y := by
  cases h with
  | ok h => exact .ok (hf _ _ h)
  | error e => exact .error e

/-- A step for every element of a list agrees if it does for each. -/
theorem Agree.mapM {ι : Type} {f : ι → Result α} {g : ι → Result β} (xs : List ι)
    (h : ∀ i ∈ xs, Agree r (f i) (g i)) : Agree (List.Forall₂ r) (xs.mapM f) (xs.mapM g) := by
  induction xs with
  | nil => exact .ok .nil
  | cons i xs ih =>
      rw [List.mapM_cons, List.mapM_cons]
      refine (h i List.mem_cons_self).bind fun a b hab => ?_
      refine (ih fun j hj => h j (List.mem_cons_of_mem _ hj)).bind fun as bs habs => ?_
      exact .ok (.cons hab habs)

/-- What the relation tells of a value of the second list holds of all its values. -/
theorem forall_mem_of_forall₂ {p : β → Prop} {as : List α} {bs : List β} (h : List.Forall₂ r as bs)
    (hp : ∀ a b, r a b → p b) : ∀ b ∈ bs, p b := by
  induction h with
  | nil => simp
  | cons hab _ ih => exact List.forall_mem_cons.mpr ⟨hp _ _ hab, ih⟩

/-- If one of two runs that agree ends well, the other one does too. -/
theorem Agree.exists_of_eq_ok {a : α} (h : Agree r x y) (hx : x = .ok a) :
    ∃ b, y = .ok b ∧ r a b := by
  subst hx
  cases h with
  | ok h => exact ⟨_, rfl, h⟩

/-- If one of two runs that agree ends early, the other one does by the same error. -/
theorem Agree.eq_error {e : Error} (h : Agree r x y) (hx : x = .error e) : y = .error e := by
  subst hx
  cases h with
  | error => rfl

end ClientScribe.Result
