import ClientScribe.Proofs.Agreement
import ClientScribe.Proofs.Output.Paths

/-!
# Two Clients Side by Side

A client is made file by file, so two clients are compared file by file. If the descriptions of two
clients have the same operations and each file of the one agrees with its counterpart, then the
clients end alike, and their files agree one by one (`agree_clientFiles`). The file of the
descriptor shows what no other file shows, and may agree in another way than the others.
-/

namespace ClientScribe.Output

open Api (Operation)
open Document (Value)
open Result (Agree)

variable {document document' : Value} {options options' : Options}

/-- The files of two clients that agree one by one, the descriptors in a way of their own. -/
inductive FilesAgree (r onDescriptor : ClientFile → ClientFile → Prop) :
    List ClientFile → List ClientFile → Prop
  | intro {operations operations' actions actions' : List ClientFile}
      {types types' descriptor descriptor' : ClientFile}
      (operations_agree : List.Forall₂ r operations operations') (types_agree : r types types')
      (descriptor_agree : onDescriptor descriptor descriptor')
      (actions_agree : List.Forall₂ r actions actions') :
      FilesAgree r onDescriptor (operations ++ [types, descriptor] ++ actions)
        (operations' ++ [types', descriptor'] ++ actions')

/-- Files that agree in one way agree one by one. -/
theorem FilesAgree.forall₂ {r : ClientFile → ClientFile → Prop} {files files' : List ClientFile}
    (h : FilesAgree r r files files') : List.Forall₂ r files files' := by
  obtain ⟨hoperations, htypes, hdescriptor, hactions⟩ := h
  exact List.rel_append (List.rel_append hoperations (.cons htypes (.cons hdescriptor .nil)))
    hactions

/-- **Two clients side by side.** Descriptions with the same operations whose files agree one by one
have clients that end alike. -/
theorem agree_clientFiles {r onDescriptor : ClientFile → ClientFile → Prop}
    (hops : Api.findOperations document = Api.findOperations document')
    (hredux : options.redux.isTrue = options'.redux.isTrue)
    (hoperations : ∀ group,
      Agree r (operationsFile document options group) (operationsFile document' options' group))
    (htypes : ∀ ops,
      Agree r (typesFile document ops options).result (typesFile document' ops options').result)
    (hdescriptor :
      Agree onDescriptor (descriptorFile document options) (descriptorFile document' options'))
    (hactions : ∀ group,
      Agree r (actionsFile document options group) (actionsFile document' options' group)) :
    Agree (FilesAgree r onDescriptor) (clientFiles document options).result
      (clientFiles document' options').result := by
  rw [result_clientFiles, result_clientFiles, ← hops]
  refine .bind_same _ fun ops => ?_
  refine (Agree.mapM _ fun group _ => hoperations group).bind fun _ _ hoperations => ?_
  refine (htypes ops).bind fun _ _ htypes => ?_
  refine hdescriptor.bind fun _ _ hdescriptor => ?_
  have hall : Agree (List.Forall₂ r) (actionsFiles document options ops)
      (actionsFiles document' options' ops) := by
    rw [actionsFiles, actionsFiles, ← hredux]
    split
    · exact .mapM _ fun group _ => hactions group
    · exact .ok .nil
  exact hall.bind fun _ _ hactions => .ok (.intro hoperations htypes hdescriptor hactions)

end ClientScribe.Output
