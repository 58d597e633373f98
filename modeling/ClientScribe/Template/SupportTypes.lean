import ClientScribe.Template.Basic

/-!
# Support types

The fixed types of the typed client: the shapes of the descriptor, of calls, of requests and
responses, and of the options of the service. They stand at the end of the namespace of the declared
types.
-/

namespace ClientScribe.Template

/-- The declaration of `OpenApiSpec`. -/
def openApiSpecType : List Part :=
  [line "export interface OpenApiSpec \x7b"] ++
  statement "  host: string" ++
  statement "  basePath: string" ++
  statement "  schemes: string[]" ++
  statement "  contentTypes: string[]" ++
  statement "  accepts: string[]" ++
  statement "  securitySchemes?: \x7b[key: string]: SecurityDefinition\x7d" ++
  [line "\x7d", line ""]

/-- The declaration of `SecurityDefinition`. -/
def securityDefinitionType : List Part :=
  [line "export interface SecurityDefinition \x7b"] ++
  statement "  type: 'basic'|'apiKey'|'oauth2'|'http'|'openIdConnect'" ++
  statement "  description?: string" ++
  statement "  name?: string" ++
  statement "  in?: 'query'|'header'|'cookie'" ++
  statement "  scheme?: string" ++
  statement "  bearerFormat?: string" ++
  statement "  flows?: any" ++
  statement "  openIdConnectUrl?: string" ++
  [line "\x7d", line ""]

/-- The declarations of `CollectionFormat` and `HttpMethod`. -/
def collectionFormatType : List Part :=
  statement "export type CollectionFormat = 'csv'|'ssv'|'tsv'|'pipes'|'multi'" ++
  statement "export type HttpMethod = 'get'|'put'|'post'|'delete'|'options'|'head'|'patch'" ++
  [line ""]

/-- The declaration of `OperationInfo`. -/
def operationInfoType : List Part :=
  [line "export interface OperationInfo \x7b"] ++
  statement "  path: string" ++
  statement "  method: HttpMethod" ++
  statement "  security?: OperationSecurity[]" ++
  statement "  contentTypes?: string[]" ++
  statement "  accepts?: string[]" ++
  [line "\x7d", line ""]

/-- The declaration of `OperationSecurity`. -/
def operationSecurityType : List Part :=
  [line "export interface OperationSecurity \x7b"] ++
  statement "  id: string" ++
  statement "  scopes?: string[]" ++
  [line "\x7d", line ""]

/-- The declaration of `OperationParamGroups`. -/
def operationParamGroupsType : List Part :=
  [line "export interface OperationParamGroups \x7b"] ++
  statement "  header?: \x7b[key: string]: string\x7d" ++
  statement "  path?: \x7b[key: string]: string|number|boolean\x7d" ++
  statement "  query?: \x7b[key: string]: string|string[]|number|boolean\x7d" ++
  statement "  formData?: \x7b[key: string]: string|number|boolean\x7d" ++
  statement "  body?: any" ++
  [line "\x7d", line ""]

/-- The declaration of `ServiceRequest`. -/
def serviceRequestType : List Part :=
  [line "export interface ServiceRequest \x7b"] ++
  statement "  method: HttpMethod" ++
  statement "  url: string" ++
  statement "  headers: \x7b [index: string]: string \x7d" ++
  statement "  body: any" ++
  [line "\x7d", line ""]

/-- The declaration of `RequestInfo`. -/
def requestInfoType : List Part :=
  [line "export interface RequestInfo \x7b"] ++
  statement "  baseUrl: string" ++
  statement "  parameters: OperationParamGroups" ++
  [line "\x7d", line ""]

/-- The declaration of `ResponseOutcome`. -/
def responseOutcomeType : List Part :=
  [line "export interface ResponseOutcome \x7b"] ++
  statement "  retry?: boolean" ++
  statement "  res: Response<any>" ++
  [line "\x7d", line ""]

/-- The declaration of `ServiceOptions`. -/
def serviceOptionsType : List Part :=
  [line "export interface ServiceOptions \x7b",
    line "  /**",
    line "   * The service url.",
    line "   *",
    line "   * If not specified then defaults to the one defined in the Open API",
    line "   * spec used to generate the service api.",
    line "   */"] ++
  statement "  url?: string" ++
  [line "  /**",
    line "   * Fetch options object to apply to each request e.g",
    line "   *",
    line "   *     \x7b mode: 'cors', credentials: true \x7d",
    line "   *",
    line "   * If a headers object is defined it will be merged with any defined in",
    line "   * a specific request, the latter taking precedence with name collisions.",
    line "   */"] ++
  statement "  fetchOptions?: any" ++
  [line "  /**",
    line "   * Function which should resolve rights for a request (e.g auth token) given",
    line "   * the OpenAPI defined security requirements of the operation to be executed.",
    line "   */"] ++
  statement ("  getAuthorization?: (security: OperationSecurity, securitySchemes: any, " ++
    "op: OperationInfo) => Promise<OperationRightsInfo>") ++
  [line "  /**",
    line "   * Given an error response, custom format and return a ServiceError",
    line "   */"] ++
  statement "  formatServiceError?: (response: FetchResponse, data: any) => ServiceError" ++
  [line "  /**",
    line ("   * Before each Fetch request is dispatched this function will be called " ++
      "if it's defined."),
    line "   *",
    line "   * You can use this to augment each request, for example add extra query parameters.",
    line "   */"] ++
  statement "  processRequest?: (op: OperationInfo, reqInfo: RequestInfo) => RequestInfo" ++
  [line "  /**",
    line "   * If you need some type of request retry behavior this function",
    line "   * is the place to do it. Resolve `\x7b res, retry: true \x7d` to flag a retry;",
    line "   * \"attempt\" counts the retries made so far.",
    line "   */"] ++
  statement ("  processResponse?: (req: ServiceRequest, res: Response<any>, attempt: " ++
    "number) => Promise<ResponseOutcome>") ++
  [line "  /**",
    line "   * If a fetch request fails this function gives you a chance to process",
    line "   * that error before it's returned up the promise chain to the original caller.",
    line "   */"] ++
  statement ("  processError?: (req: ServiceRequest, res: ResponseOutcome) => " ++
    "Promise<ResponseOutcome>") ++
  [line "  /**",
    line "   * By default the authorization header name is \"Authorization\".",
    line "   * This property allows you to override it.",
    line "   */"] ++
  statement "  authorizationHeader?: string" ++
  [line "\x7d", line ""]

/-- The declaration of `OperationRights`. -/
def operationRightsType : List Part :=
  statement "export type OperationRights = \x7b[key: string]: OperationRightsInfo\x7d" ++
  [line ""]

/-- The declaration of `OperationRightsInfo`. -/
def operationRightsInfoType : List Part :=
  [line "export interface OperationRightsInfo \x7b"] ++
  statement "  username?: string" ++
  statement "  password?: string" ++
  statement "  token?: string" ++
  statement "  apiKey?: string" ++
  [line "\x7d", line ""]

/-- The declaration of `Response`. -/
def responseType : List Part :=
  [line "export interface Response<T> \x7b"] ++
  statement "  raw: FetchResponse" ++
  [line "  /**",
    line "   * If 'error' is true then data will be of type ServiceError",
    line "   */"] ++
  statement "  data?: T" ++
  [line "  /**", line "   * True if there was a service error, false if not", line "   */"] ++
  statement "  error?: boolean" ++
  [line "\x7d", line ""]

/-- The declaration of `FetchResponse`. -/
def fetchResponseType : List Part :=
  [line "export interface FetchResponse extends FetchBody \x7b"] ++
  statement "  url: string" ++
  statement "  status: number" ++
  statement "  statusText: string" ++
  statement "  ok: boolean" ++
  statement "  headers: Headers" ++
  statement "  type: string" ++
  statement "  redirected: boolean" ++
  statement "  clone(): FetchResponse" ++
  [line "\x7d", line ""]

/-- The declaration of `FetchBody`. -/
def fetchBodyType : List Part :=
  [line "export interface FetchBody \x7b"] ++
  statement "  bodyUsed: boolean" ++
  statement "  arrayBuffer(): Promise<ArrayBuffer>" ++
  statement "  blob(): Promise<Blob>" ++
  statement "  formData(): Promise<FormData>" ++
  statement "  json(): Promise<any>" ++
  statement "  text(): Promise<string>" ++
  [line "\x7d", line ""]

/-- The declaration of `ServiceError`. -/
def serviceErrorType : List Part :=
  [line "export class ServiceError extends Error \x7b"] ++
  statement "  status: number" ++
  [line "\x7d", line ""]

/-- The declaration of `ServiceMeta`. -/
def serviceMetaType : List Part :=
  [line "/**",
    line " * Flux standard action meta for service action",
    line " */",
    line "export interface ServiceMeta \x7b"] ++
  statement "  res: FetchResponse" ++
  statement "  info: any" ++
  [line "\x7d"]

/-- All support types. -/
def supportTypes : List Part :=
  openApiSpecType ++ securityDefinitionType ++ collectionFormatType ++ operationInfoType ++
  operationSecurityType ++ operationParamGroupsType ++ serviceRequestType ++ requestInfoType
  ++ responseOutcomeType ++ serviceOptionsType ++ operationRightsType ++
  operationRightsInfoType ++ responseType ++ fetchResponseType ++ fetchBodyType ++
  serviceErrorType ++ serviceMetaType

end ClientScribe.Template
