import ClientScribe.Template.Operations
import ClientScribe.Template.SupportTypes

/-!
# The file of types

Comments that describe the client's own types stand first. In the language with types follows a
namespace with the declared types and the support types; in both languages every declaration is then
described by a comment.
-/

namespace ClientScribe.Template

/-- The comment of the callback that finds rights. -/
def authorizationComment : List Part :=
  [line "/**",
    line (" * Callback which should resolve rights for a request (e.g auth token) given " ++
      "the OpenAPI defined security requirements of the operation to be executed."),
    line " * @callback getAuthorizationFn",
    line " * @param \x7bOperationSecurity\x7d security",
    line " * @param \x7bany\x7d securitySchemes",
    line " * @param \x7bOperationInfo\x7d op",
    line " * @returns \x7bPromise<OperationRightsInfo>\x7d",
    line " */",
    line ""]

/-- The comment of the callback that makes an error of a response. -/
def serviceErrorComment : List Part :=
  [line "/**",
    line " * Given an error response, custom format and return a ServiceError",
    line " * @callback formatServiceErrorFn",
    line " * @param \x7bFetchResponse\x7d response",
    line " * @param \x7bany\x7d data",
    line " * @returns \x7bServiceError\x7d",
    line " */",
    line ""]

/-- The comment of the callback before a request. -/
def requestCallbackComment : List Part :=
  [line "/**",
    line " * @callback processRequestFn",
    line " * @param \x7bOperationInfo\x7d op",
    line " * @param \x7bRequestInfo\x7d reqInfo",
    line " * @returns \x7bRequestInfo\x7d",
    line " */",
    line ""]

/-- The comment of the callback after a response. -/
def responseCallbackComment : List Part :=
  [line "/**",
    line " * @callback processResponseFn",
    line " * @param \x7bServiceRequest\x7d req",
    line " * @param \x7bResponse<any>\x7d res",
    line " * @param \x7bNumber\x7d attempt",
    line " * @returns \x7bPromise<ResponseOutcome>\x7d",
    line " */",
    line ""]

/-- The comment of the callback after a failure. -/
def errorCallbackComment : List Part :=
  [line "/**",
    line " * @callback processErrorFn",
    line " * @param \x7bServiceRequest\x7d req",
    line " * @param \x7bResponseOutcome\x7d res",
    line " * @returns \x7bPromise<ResponseOutcome>\x7d",
    line " */",
    line ""]

/-- The comment of the options of the service. -/
def requestOptionsComment : List Part :=
  [line "/**",
    line " * Request options",
    line " * @typedef _requestOptionsType",
    line " * @property \x7bstring\x7d url   The service url.",
    line (" * @property \x7bany\x7d fetchOptions   Fetch options object to apply to each " ++
      "request e.g \x7b mode: 'cors', credentials: true \x7d"),
    line (" * @property \x7bgetAuthorizationFn\x7d getAuthorization Function which should " ++
      "resolve rights for a request (e.g auth token) given the OpenAPI defined " ++
      "security requirements of the operation to be executed."),
    line " * @property \x7bformatServiceErrorFn\x7d formatServiceError",
    line (" * @property \x7bprocessRequestFn\x7d processRequest    Before each Fetch " ++
      "request is dispatched this function will be called if it's defined."),
    line (" * @property \x7bprocessResponseFn\x7d processResponse  If you need some type " ++
      "of request retry behavior this function is the place to do it."),
    line (" * @property \x7bprocessErrorFn\x7d processError        If a fetch request " ++
      "fails this function gives you a chance to process that error before it's " ++
      "returned up the promise chain to the original caller."),
    line (" * @property \x7bstring\x7d authorizationHeader         By default the " ++
      "authorization header name is \"Authorization\". This property allows you to " ++
      "override it."),
    line " */",
    line ""]

/-- The comment of a response. -/
def responseComment : List Part :=
  [line "/**",
    line " * Typed fetch API response.",
    line " * @template T",
    line " * @typedef $tipi$ApiResponse",
    line " * @property \x7bResponse\x7d raw   raw fetch client response object",
    line " * @property \x7bT\x7d data   contains the query result",
    line " * @property \x7bError\x7d error ServiceError if hasError is set",
    line (" * @property \x7b?boolean\x7d hasError   boolean flag set if status code " ++
      "indicates failure"),
    line " */",
    line ""]

/-- The comments of the client's own types. -/
def ownTypeComments : List Part :=
  authorizationComment ++ serviceErrorComment ++ requestCallbackComment ++
  responseCallbackComment ++ errorCallbackComment ++ requestOptionsComment ++ responseComment

/-- Whether a declaration is another name for a type. -/
def isAlias : Expr := .is (dot "decl" "kind") "alias"

/-- A declaration as another name for a type. -/
def aliasDeclaration : List Part :=
  [.text "export type ", .value (dot "decl" "name"), .text " = ", .value (dot "decl" "type")] ++
  statementEnd

/-- A declaration as an interface. -/
def interfaceDeclaration : List Part :=
  [.text "export interface ", .value (dot "decl" "name"),
    optional (dot "decl" "parent") [.text " extends ", .value (dot "decl" "parent")],
    line " \x7b",
    forEach "prop" (dot "decl" "props")
      ([describedBy "  " (dot "prop" "description"),
        .text "  ", .value (dot "prop" "name"), optional (dot "prop" "optional") [.text "?"],
        .text ": ", .value (dot "prop" "type")] ++ statementEnd),
    line "\x7d"]

/-- A declaration in the language with types. -/
def typeDeclaration : List Part :=
  [describedBy "" (dot "decl" "description"),
    .choice isAlias aliasDeclaration interfaceDeclaration,
    line ""]

/-- The namespace of the declared types. -/
def typesNamespace : List Part :=
  [line "namespace api \x7b", forEach "decl" (var "declarations") typeDeclaration] ++
  supportTypes ++
  [line "\x7d", line ""]

/-- The comment lines of a declaration's members, if there are any. -/
def memberComments : Part :=
  optional (dot "decl" "props")
    [line " *",
      forEach "prop" (dot "decl" "props")
        [.text " * @property \x7b", .value (dot "prop" "doc_type"), .text "\x7d ",
          .value (dot "prop" "name"),
          optional (dot "prop" "format") [.text " <", .value (dot "prop" "format"), .text ">"],
          optional (dot "prop" "doc_description")
            [.text " ", .value (dot "prop" "doc_description")],
          lineEnd]]

/-- The comment that describes a declaration. -/
def typeComment : List Part :=
  [line "/**",
    optional (dot "decl" "description") [.text " * ", .value (dot "decl" "description"), lineEnd],
    .text " * @typedef ",
    optional isAlias [.text "\x7b", .value (dot "decl" "doc_type"), .text "\x7d "],
    .value (dot "decl" "name"), lineEnd,
    optional (dot "decl" "parent")
      [.text " * @extends ", .value (dot "decl" "parent"), lineEnd],
    memberComments,
    line " */", line ""]

/-- The file of types. -/
def types : List Part :=
  [line "/** @module types */", generatedLine, line ""] ++
  ownTypeComments ++
  [optional (var "typed") typesNamespace, forEach "decl" (var "declarations") typeComment]

end ClientScribe.Template
