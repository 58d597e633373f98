import ClientScribe.Client.Action
import ClientScribe.Client.Declaration

/-!
# What Is Read of a Description

The description is handed on to everything that is made from it, but little of it is read. What is
written of operations, actions and types depends on the schemas that it keeps under a name, and on
nothing else of it: two descriptions with the same schemas give the same views of the same
operations (`operationsView_congr`, `actionsView_congr`, `typesView_congr`). The operations
themselves depend on the paths and on the security requirements (`findOperations_congr`).
-/

namespace ClientScribe

open Api (Operation)
open Document (Value)

variable {document document' : Value}

namespace Api

/-- References lead to the same schemas. -/
theorem resolve_congr (h : schemas document = schemas document') :
    resolve document = resolve document' := by
  funext reference
  rw [resolve, resolve, h]

/-- Parameters are resolved in the same way. -/
theorem resolved_congr (h : schemas document = schemas document') :
    resolved document = resolved document' := by
  funext parameter
  rw [resolved, resolved, resolve_congr h]

/-- The same parameters are required. -/
theorem isRequired_congr (h : schemas document = schemas document') :
    isRequired document = isRequired document' := by
  funext parameter
  rw [isRequired, isRequired, resolve_congr h]

/-- Parameters are split in the same way. -/
theorem partitioned_congr (h : schemas document = schemas document') :
    partitioned document = partitioned document' := by
  have hclassified : classified document = classified document' := by
    funext parameter
    rw [classified, classified, resolved_congr h, isRequired_congr h]
  funext parameters
  rw [partitioned, partitioned, hclassified]

/-- Requests have the same schemas. -/
theorem requestSchema_congr (h : schemas document = schemas document') :
    requestSchema document = requestSchema document' := by
  funext body
  rw [requestSchema, requestSchema, resolve_congr h]

/-- Descriptions with the same paths and the same security requirements have the same operations. -/
theorem findOperations_congr (hpaths : paths document = paths document')
    (hsecurity : document.field "security" = document'.field "security") :
    findOperations document = findOperations document' := by
  have hoperation : operation document = operation document' := by
    funext pathItem path method
    simp only [operation, security, hsecurity]
  have hofPath : operationsOfPath document = operationsOfPath document' := by
    funext path pathItem
    rw [operationsOfPath, operationsOfPath, hoperation]
  rw [findOperations, findOperations, hpaths, hofPath]

end Api

namespace Client

variable {options : Options}

/-- Functions have the same arguments. -/
theorem arguments_congr (h : Api.schemas document = Api.schemas document') :
    arguments document = arguments document' := by
  funext op typed package
  simp only [arguments, bodyArgument, Api.partitioned_congr h, Api.requestSchema_congr h]

/-- Operations are written in the same way. -/
theorem operationView_congr (h : Api.schemas document = Api.schemas document') (op : Operation)
    (options : Options) :
    operationView document op options = operationView document' op options := by
  have hlocated : located document = located document' := by
    funext parameter
    rw [located, located, Api.resolved_congr h, Api.isRequired_congr h]
  simp only [operationView, signature, parameterGroups, hlocated, arguments_congr h,
    Api.partitioned_congr h, Api.requestSchema_congr h]

/-- Actions are written in the same way. -/
theorem actionView_congr (h : Api.schemas document = Api.schemas document') (group : Text)
    (op : Operation) (options : Options) :
    actionView document group op options = actionView document' group op options := by
  simp only [actionView, signature, callArguments, arguments_congr h, Api.partitioned_congr h]

/-- Both have schemas or none has. -/
theorem hasSchemas_congr (h : Api.schemas document = Api.schemas document') :
    hasSchemas document = hasSchemas document' := by
  rw [hasSchemas, hasSchemas, h]

/-- **What is written of a group of operations depends on the schemas only.** -/
theorem operationsView_congr (h : Api.schemas document = Api.schemas document') (group : Text)
    (ops : List Operation) (options : Options) :
    operationsView document group ops options = operationsView document' group ops options := by
  simp only [operationsView, hasSchemas_congr h, operationView_congr h]

/-- **What is written of a group of actions depends on the schemas only.** -/
theorem actionsView_congr (h : Api.schemas document = Api.schemas document') (group : Text)
    (ops : List Operation) (options : Options) :
    actionsView document group ops options = actionsView document' group ops options := by
  simp only [actionsView, hasSchemas_congr h, actionView_congr h]

/-- Bodies add the same definitions. -/
theorem definitions_congr (h : Api.schemas document = Api.schemas document')
    (ops : List Operation) : definitions document ops = definitions document' ops := by
  have hadd : addBodies document = addBodies document' := by
    funext definitions op
    rw [addBodies, addBodies, Api.requestSchema_congr h]
  rw [definitions, definitions, h, hadd]

/-- **What is written of types depends on the schemas only**, given the operations. -/
theorem typesView_congr (h : Api.schemas document = Api.schemas document') (ops : List Operation)
    (options : Options) : typesView document ops options = typesView document' ops options := by
  rw [typesView, typesView, definitions_congr h]

end Client

end ClientScribe
