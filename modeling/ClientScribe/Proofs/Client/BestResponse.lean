import ClientScribe.Client.Definition
import ClientScribe.Proofs.Api.BestResponse
import ClientScribe.Proofs.Client.FunctionComment

/-!
# One Response for Every Use

The type of what an operation returns, the line of its comment that says so and the definition that
is declared for it are found one by one, and each time the best response is looked for again.
`UsesResponse` says that one response makes all three of them. With what the best response of a list
is, this gives `exists_bestOf_eq_ok`.
-/

namespace ClientScribe.Client

open Api (Operation HasTextCode IsFirstLeast hasNumber number?)
open Document (Value Entries record)

variable {document : Value} {op : Operation} {best : Option Value} {defs : Entries}
  {responses : List Value}

/-- The definitions with that of an operation's request added. -/
def addRequest (document : Value) (definitions : Entries) (op : Operation) : Logged Entries := do
  if op.requestBody.isTrue then
    let schema ← (Api.requestSchema document op.requestBody : Result Value)
    addBody definitions schema (← (requestTypeName op.id : Result Text))
  else return definitions

/-- The definitions with that of this response added. -/
def addResponse (id : Value) (response : Option Value) (definitions : Entries) :
    Logged Entries := do
  let schema ← (schemaOf response : Result Value)
  addBody definitions schema (← (responseTypeName id : Result Text))

/-- The type of what an operation returns, the line that says so and the definition that is declared
for it among those of other operations are made of one response. -/
structure UsesResponse (op : Operation) (response : Option Value) : Prop where
  type : returnTypeOf op = returnType op.id response
  line : returnLine op = returnLineOf op.id response
  definitions : ∀ document before after, definitions document (before ++ op :: after) = do
    let defs ← Client.definitions document before
    let defs ← addRequest document defs op
    let defs ← addResponse op.id response defs
    after.foldlM (addBodies document) defs

/-- An operation adds the definition of its request and then that of the best response. -/
theorem addBodies_eq (h : Api.bestOf op.responses = .ok best) :
    addBodies document defs op = addRequest document defs op >>= addResponse op.id best := by
  have hbest : (liftM (Api.bestOf op.responses) : Logged (Option Value)) = pure best := by
    rw [h]
    rfl
  unfold addBodies addRequest
  rw [hbest]
  split
  · simp only [bind_assoc, pure_bind]
    rfl
  · simp only [pure_bind]
    rfl

/-- The response that an operation uses is the best of its responses. -/
theorem usesResponse_of_bestOf (h : Api.bestOf op.responses = .ok best) :
    UsesResponse op best where
  type := by rw [returnTypeOf, h, Result.ok_bind]
  line := by rw [returnLine_eq, h, Result.ok_bind]
  definitions document before after := by
    simp only [definitions, List.foldlM_append, List.foldlM_cons, bind_assoc, addBodies_eq h]

/-- An operation that was read can tell its best response, and uses it. -/
theorem exists_usesResponse_of_operation {pathItem path : Value} {method : Text}
    (h : Api.operation document pathItem path method = .ok op) :
    ∃ best, Api.bestOf op.responses = .ok best ∧ UsesResponse op best := by
  obtain ⟨best, hbest⟩ := Api.exists_bestOf (Api.hasTextCode_of_operation h)
  exact ⟨best, hbest, usesResponse_of_bestOf hbest⟩

/-- **The best response and its uses.** Responses whose codes are texts have a best one. If there is
a number among the codes it is the first response with the least one, whatever responses without a
number there are, and whatever the order is unless a number comes up twice; otherwise it is the
first response. There is none only if there are no responses. It is the best response of every
record with these responses, and an operation that has them uses it and no other. -/
theorem exists_bestOf_eq_ok (hcodes : ∀ r ∈ responses, HasTextCode r) :
    ∃ best, Api.bestOf responses = .ok best ∧
      ((∃ r ∈ responses, hasNumber r = true) →
        (∃ r n, best = some r ∧ IsFirstLeast r n responses) ∧
        (∀ others, (∀ r ∈ others, HasTextCode r) →
          others.filter hasNumber = responses.filter hasNumber →
            Api.bestOf others = .ok best) ∧
        ((responses.filterMap number?).Nodup →
          ∀ others : List Value, others.Perm responses → Api.bestOf others = .ok best)) ∧
      ((∀ r ∈ responses, hasNumber r = false) → best = responses.head?) ∧
      (best = none ↔ responses = []) ∧
      (∀ record : Value, (do ((← record.field "responses").orElse (.list [])).members) =
          .ok responses → Api.bestResponse record = .ok best) ∧
      ∀ op : Operation, op.responses = responses → UsesResponse op best := by
  obtain ⟨best, hbest⟩ := Api.exists_bestOf hcodes
  refine ⟨best, hbest, fun hnumber => ⟨?_, fun others hothers hfilter => ?_,
    fun hnodup others hperm => ?_⟩, fun hnone => ?_, ?_, fun record hrecord => ?_, ?_⟩
  · obtain ⟨r, n, hr, hleast⟩ := Api.exists_isFirstLeast hcodes hnumber
    exact ⟨r, n, Except.ok.inj (hbest.symm.trans hr), hleast⟩
  · rw [Api.bestOf_eq_of_filter_eq hcodes hothers hnumber hfilter, hbest]
  · rw [Api.bestOf_eq_of_perm hcodes hnumber hnodup hperm, hbest]
  · exact Except.ok.inj (hbest.symm.trans (Api.bestOf_eq_ok_head? hcodes hnone))
  · rw [← Api.bestOf_eq_ok_none_iff hcodes, hbest, Except.ok.injEq]
  · obtain ⟨listed, hlisted, hmembers⟩ := Result.bind_eq_ok_iff.mp hrecord
    rw [Api.bestResponse, hlisted, Result.ok_bind, hmembers, Result.ok_bind, hbest]
  · rintro op rfl
    exact usesResponse_of_bestOf hbest

/-- A response with nothing but its code. -/
def answer (code : Text) : Value := record [("code", .str code)]

/-- Codes are compared as numbers, in whatever way they are written. -/
theorem exists_bestOf_answers :
    ∃ best, Api.bestOf [answer "default", answer "404", answer " 2_00"] = .ok best ∧
      best = some (answer " 2_00") ∧
      ∀ others : List Value, others.Perm [answer "default", answer "404", answer " 2_00"] →
        Api.bestOf others = .ok best := by
  have hcodes : ∀ r ∈ [answer "default", answer "404", answer " 2_00"], HasTextCode r := by
    intro r hr
    obtain ⟨code, -, rfl⟩ : ∃ code ∈ ["default", "404", " 2_00"].map Text.ofString,
        answer code = r := List.mem_map.mp hr
    exact ⟨code, rfl⟩
  obtain ⟨best, hbest, hnumber, -⟩ := exists_bestOf_eq_ok hcodes
  obtain ⟨-, -, horder⟩ := hnumber ⟨answer "404", by simp, by decide⟩
  exact ⟨best, hbest, Except.ok.inj (hbest.symm.trans rfl), horder (by decide)⟩

end ClientScribe.Client
