import ClientScribe.Template.Operations

/-!
# The file of the service descriptor
-/

namespace ClientScribe.Template

/-- The file of the descriptor: one constant, exported. -/
def descriptor : List Part :=
  [optional (var "typed") [line "/// <reference path=\"../types.ts\"/>"],
    generatedLine,
    .text "const spec", optional (var "typed") [.text ": api.OpenApiSpec"], .text " = ",
    .value (var "view")] ++
  statementEnd ++
  statement "export default spec"

end ClientScribe.Template
