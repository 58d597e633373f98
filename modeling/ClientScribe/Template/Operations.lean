import ClientScribe.Template.Basic

/-!
# The file of a group of operations

Three parts: the functions, the types of their optional parameters in the language with types, and
the records of how the operations are called.
-/

namespace ClientScribe.Template

/-- The line that tells where the types are, in a file that can use them. -/
def typesReference (path : Text) : Part :=
  optional (.and (var "typed") (var "has_types"))
    [line ("/// <reference path=\"" ++ path ++ "\"/>")]

/-- The line that says where the file comes from. -/
def generatedLine : Part := line "// Auto-generated, edits will be overwritten"

/-- A comma, unless this is the last turn. -/
def commaBetween : Part := optional (.not .last) [.text ","]

/-- The end of a line of fixed text, behind other parts. -/
def lineEnd : Part := .text "\n"

/-- The comment of a property with its indentation, if there is a description. -/
def describedBy (indent : Text) (description : Expr) : Part :=
  optional description
    [line (indent ++ "/**"), .text (indent ++ " * "), .value description, lineEnd,
      line (indent ++ " */")]

/-- The comment of a function. -/
def operationComment : List Part :=
  [line "/**", forEach "line" (dot "op" "doc_lines") [.value (var "line"), lineEnd], line " */"]

/-- The entries of one group of parameters. -/
def groupEntries : Part :=
  forEach "entry" (dot "group" "entries")
    [.text "      ", .value (var "entry"), commaBetween, lineEnd]

/-- The groups of parameters of a request. -/
def parameterGroups : Part :=
  forEach "group" (dot "op" "param_groups")
    [.text "    ", .value (dot "group" "name"), line ": \x7b",
      groupEntries,
      .text "    \x7d", optional (.or (.not .last) (dot "op" "has_body")) [.text ","], lineEnd]

/-- The object literal with the parameters of a request, if there are any. -/
def parametersLiteral : Part :=
  optional (dot "op" "has_parameters")
    ([optional (dot "op" "has_optionals") (statement "  if (!options) options = \x7b\x7d"),
      .text "  const parameters",
      optional (var "typed") [.text ": api.OperationParamGroups"],
      line " = \x7b",
      parameterGroups,
      optional (dot "op" "has_body") [line "    body: body"]] ++
      statement "  \x7d")

/-- The function of an operation. -/
def operationFunction : List Part :=
  operationComment ++
  [.text "export function ", .value (dot "op" "id"), .text "(", .value (dot "op" "signature"),
    .text ")", .value (dot "op" "return_signature"), line " \x7b",
    parametersLiteral,
    .text "  return gateway.request(", .value (dot "op" "id"), .text "Operation",
    optional (dot "op" "has_parameters") [.text ", parameters"]] ++
  statement ")" ++
  [line "\x7d", line ""]

/-- The type of an operation's optional parameters. -/
def optionsInterface : List Part :=
  let type (field : Text) : Expr := .field (dot "op" "options_type") field
  [.text "export interface ", .value (type "name"), line " \x7b",
    forEach "prop" (type "props")
      ([describedBy "  " (dot "prop" "description"),
        .text "  ", .value (dot "prop" "name"), .text "?: ", .value (dot "prop" "type")] ++
        statementEnd),
    line "\x7d", line ""]

/-- The security requirements of an operation. -/
def securityLiteral : Part :=
  forEach "sec" (.field (dot "op" "info") "security")
    [line "    \x7b",
      .text "      id: '", .value (dot "sec" "id"), .text "'",
      optional (dot "sec" "scopes") [.text ","], lineEnd,
      optional (dot "sec" "scopes")
        [.text "      scopes: ['", .joined (dot "sec" "scopes") "', '", line "']"],
      .text "    \x7d", commaBetween, lineEnd]

/-- The record of how an operation is called. -/
def callRecord : List Part :=
  let info (field : Text) : Expr := .field (dot "op" "info") field
  [.text "const ", .value (dot "op" "id"), .text "Operation",
    optional (var "typed") [.text ": api.OperationInfo"], line " = \x7b",
    .text "  path: '", .value (info "path"), line "',",
    optional (info "content_types")
      [.text "  contentTypes: [ '", .joined (info "content_types") "', '", line "' ],"],
    .text "  method: '", .value (info "method"), .text "'",
    optional (info "security") [.text ","], lineEnd,
    optional (info "security") [line "  security: [", securityLiteral, line "  ]"]] ++
  statement "\x7d" ++
  [line ""]

/-- The file of a group of operations. -/
def operations : List Part :=
  [typesReference "types.ts",
    .text "/** @module ", .value (var "group"), line " */",
    generatedLine] ++
  statement "import * as gateway from './gateway'" ++
  [line "",
    forEach "op" (var "operations") operationFunction,
    optional (var "typed")
      [.each "op" (var "operations") (some (dot "op" "options_type")) optionsInterface],
    forEach "op" (var "operations") callRecord]

end ClientScribe.Template
