import ClientScribe.Template.Operations

/-!
# The file of a group's actions

Every action has two constants, one for the start of its operation and one for the end. The action
itself announces the start, calls the operation's function, and announces the end with what came
back.
-/

namespace ClientScribe.Template

/-- The constant of an announcement. -/
def actionConstant (name : Expr) : List Part :=
  [.text "export const ", .value name, .text " = 's/", .value (var "group"), .text "/",
    .value name, .text "'"] ++ statementEnd

/-- The function of an action. -/
def actionFunction : List Part :=
  [.text "export function ", .value (dot "action" "id"), .text "(",
    .value (dot "action" "signature"), .text ")", optional (var "typed") [.text ": any"],
    line " \x7b",
    line "  return dispatch => \x7b",
    .text "    dispatch(\x7b type: ", .value (dot "action" "start")] ++
  statement ", meta: \x7b info \x7d \x7d)" ++
  [.text "    return ", .value (var "group"), .text ".", .value (dot "action" "id"), .text "(",
    .value (dot "action" "call_args"), line ")",
    line "      .then(response => dispatch(\x7b",
    .text "        type: ", .value (dot "action" "complete"), line ",",
    line "        payload: response.data,",
    line "        error: response.error,",
    line "        meta: \x7b",
    line "          res: response.raw,",
    line "          info",
    line "        \x7d"] ++
  statement "      \x7d))" ++
  statement "  \x7d" ++
  [line "\x7d"]

/-- The constants of an action, the type of its data, and its function. -/
def action : List Part :=
  [line ""] ++
  actionConstant (dot "action" "start") ++
  actionConstant (dot "action" "complete") ++
  [optional (var "typed")
    ([.text "export type ", .value (dot "action" "complete"), .text " = ",
      .value (dot "action" "return_type")] ++ statementEnd),
    line ""] ++
  actionFunction

/-- The file of a group's actions. -/
def actions : List Part :=
  [typesReference "../types.ts",
    .text "/** @module action/", .value (var "group"), line " */",
    generatedLine,
    .text "import * as ", .value (var "group"), .text " from '../", .value (var "group")] ++
  statement "'" ++
  [forEach "action" (var "actions") action]

end ClientScribe.Template
