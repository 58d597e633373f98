/-!
# The words of a name

Names are cut into words at the characters of a class; what stands between two such characters, if
anything, is a word.
-/

namespace ClientScribe.Identifier

/-- The words between the gaps of a text. -/
def words {α : Type} (isGap : α → Bool) : List α → List (List α)
  | [] => []
  | c :: rest =>
    if isGap c then words isGap rest
    else match rest with
      | [] => [[c]]
      | d :: _ =>
        if isGap d then [c] :: words isGap rest
        else match words isGap rest with
          | [] => [[c]]
          | word :: more => (c :: word) :: more

/-- The words hold exactly the characters that are no gap, in order. -/
theorem flatten_words {α : Type} (isGap : α → Bool) (s : List α) :
    (words isGap s).flatten = s.filter (!isGap ·) := by
  induction s with
  | nil => rfl
  | cons c rest ih =>
    by_cases hc : isGap c
    · simp [words, hc, ih]
    · match rest with
      | [] => simp [words, hc]
      | d :: more =>
        by_cases hd : isGap d
        · simp [words, hc, hd] at ih ⊢
          exact ih
        · rw [words]
          simp only [hc, hd, Bool.false_eq_true, if_false]
          split
          · rename_i h
            simp [h, hd] at ih
          · rename_i word others h
            rw [h] at ih
            simp only [List.flatten_cons] at ih ⊢
            rw [List.cons_append, ih]
            simp [hc]

/-- No word is empty. -/
theorem ne_nil_of_mem_words {α : Type} {isGap : α → Bool} {s word : List α}
    (h : word ∈ words isGap s) : word ≠ [] := by
  fun_induction words isGap s with
  | case1 => cases h
  | case2 c rest hc ih => exact ih h
  | case3 c hc => simp_all
  | case4 c hc d more hd ih =>
    obtain rfl | h := List.mem_cons.mp h
    · exact List.cons_ne_nil _ _
    · exact ih h
  | case5 c hc d more hd hwords ih => simp_all
  | case6 c hc d more hd first others hwords ih =>
    rw [hwords] at h
    obtain rfl | h := List.mem_cons.mp h
    · exact List.cons_ne_nil _ _
    · exact ih (hwords ▸ List.mem_cons_of_mem _ h)

end ClientScribe.Identifier
