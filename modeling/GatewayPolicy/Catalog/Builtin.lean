import GatewayPolicy.Catalog.Index
/-!
# The built-in catalog

The policies that every gateway knows, by category. Identifiers, names, parameters and descriptions
are what editors show and documents contain.
-/

namespace GatewayPolicy

namespace Catalog

/-! ## Where policies may stand -/

/-- All sections. -/
def everySection : List SectionKind := SectionKind.all

/-- The inbound section. -/
def inboundOnly : List SectionKind := [.inbound]

/-- The outbound section. -/
def outboundOnly : List SectionKind := [.outbound]

/-- The backend section. -/
def backendOnly : List SectionKind := [.backend]

/-- The sections before the response. -/
def inboundOrBackend : List SectionKind := [.inbound, .backend]

/-- The sections that can start a request. -/
def inboundOrOnError : List SectionKind := [.inbound, .onError]

/-- All sections but the backend's. -/
def allButBackend : List SectionKind := [.inbound, .outbound, .onError]

/-- All scopes. -/
def everyScope : List Scope := Scope.all

/-- The scopes of one API. -/
def apiScopes : List Scope := [.api, .operation]

/-- All scopes but the widest. -/
def productAndBelow : List Scope := [.product, .api, .operation]

/-! ## Words that parameters take -/

/-- Request methods. -/
def httpMethods : List String :=
  ["GET", "POST", "PUT", "PATCH", "DELETE", "HEAD", "OPTIONS", "TRACE"]

/-- What to do when something is already there. -/
def existsActions : List String := ["override", "skip", "append", "delete"]

/-- What to do with content that is not as declared. -/
def contentActions : List String := ["ignore", "prevent", "detect"]

/-- The caches. -/
def cachingTypes : List String := ["internal", "external", "prefer-external"]

/-! ## Parameters -/

/-- A parameter that has to be given. -/
def required (name : String) (kind : ParameterKind) (description : String) : Parameter :=
  { name, kind, required := true, description }

/-- A parameter that may be given. -/
def optional (name : String) (kind : ParameterKind) (description : String) : Parameter :=
  { name, kind, required := false, description }

/-- A parameter that may be given and has a value if it is not. -/
def optionalWithDefault (name : String) (kind : ParameterKind) (default description : String) :
    Parameter :=
  { name, kind, required := false, description, default := some default }

/-! ## Entries -/

/-- Who may call, and how often. -/
def accessControlEntries : List Entry :=
  [
    { id := "check-header"
      name := "Check HTTP header"
      category := .accessControl
      description :=
        "Enforces that a request has a specified HTTP header."
      sections := inboundOnly
      scopes := everyScope
      parameters :=
        [ required "name" .string "Header to check.",
          required "failed-check-httpcode" .integer "Status code returned when the check fails.",
          required "failed-check-error-message" .string
            "Error message returned when the check fails.",
          required "ignore-case" .boolean "Compare header values case-insensitively.",
          optional "values" .list "Allowed header values." ]
      template := some .checkHeader },
    { id := "rate-limit"
      name := "Limit call rate by subscription"
      category := .accessControl
      description :=
        "Prevents API usage spikes by limiting the call rate per subscription."
      sections := inboundOnly
      scopes := productAndBelow
      parameters :=
        [ required "calls" .integer "Maximum calls allowed during the renewal period.",
          required "renewal-period" .duration "Window length in seconds.",
          optional "retry-after-header-name" .string
            "Response header carrying the retry interval.",
          optional "retry-after-variable-name" .string "Variable storing the retry interval.",
          optional "remaining-calls-header-name" .string
            "Response header carrying the remaining calls.",
          optional "remaining-calls-variable-name" .string "Variable storing the remaining calls.",
          optional "total-calls-header-name" .string "Response header carrying the limit." ] },
    { id := "rate-limit-by-key"
      name := "Limit call rate by key"
      category := .accessControl
      description :=
        "Limits the call rate per arbitrary key, typically an expression."
      sections := inboundOnly
      scopes := everyScope
      parameters :=
        [ required "calls" .integer "Maximum calls allowed during the renewal period.",
          required "renewal-period" .duration "Window length in seconds.",
          required "counter-key" .expression "Key used for rate limiting.",
          optional "increment-condition" .expression
            "Whether the request counts toward the limit.",
          optionalWithDefault "increment-count" .integer "1"
            "Amount added to the counter per request.",
          optional "retry-after-header-name" .string
            "Response header carrying the retry interval.",
          optional "remaining-calls-header-name" .string
            "Response header carrying the remaining calls." ] },
    { id := "quota"
      name := "Set usage quota by subscription"
      category := .accessControl
      description :=
        "Enforces a renewable call volume or bandwidth quota per subscription."
      sections := inboundOnly
      scopes := productAndBelow
      parameters :=
        [ optional "calls" .integer "Maximum calls during the renewal period.",
          optional "bandwidth" .integer "Maximum kilobytes during the renewal period.",
          required "renewal-period" .duration "Quota period in seconds." ] }
  ]

/-- Changes of requests and responses. -/
def transformationEntries : List Entry :=
  [
    { id := "set-header"
      name := "Set HTTP header"
      category := .transformation
      description :=
        "Assigns a value to an existing header or adds a new one."
      sections := everySection
      scopes := everyScope
      parameters :=
        [ required "name" .string "Header name.",
          optionalWithDefault "exists-action" (.oneOf existsActions) "override"
            "Action when the header already exists.",
          optional "value" .string "Header value." ] },
    { id := "set-query-parameter"
      name := "Set query string parameter"
      category := .transformation
      description :=
        "Adds, replaces or deletes a request query string parameter."
      sections := inboundOrBackend
      scopes := everyScope
      parameters :=
        [ required "name" .string "Parameter name.",
          optional "exists-action" (.oneOf existsActions)
            "Action when the parameter already exists.",
          optional "value" .string "Parameter value." ] },
    { id := "set-variable"
      name := "Set variable"
      category := .transformation
      description :=
        "Persists a value in a named context variable for later access."
      sections := everySection
      scopes := everyScope
      parameters :=
        [ required "name" .string "Variable name.",
          required "value" .expression "Value or expression assigned to the variable." ] },
    { id := "set-body"
      name := "Set body"
      category := .transformation
      description :=
        "Sets the message body of a request or response."
      sections := everySection
      scopes := everyScope
      parameters :=
        [ required "value" .expression "Literal body or expression.",
          optional "template" (.oneOf ["liquid"]) "Templating mode.",
          optional "xsi-nil" (.oneOf ["blank", "null"]) "Handling of nil elements." ]
      textParameter := some "value"
      template := some .setBody },
    { id := "set-method"
      name := "Set request method"
      category := .transformation
      description :=
        "Changes the HTTP method of the request."
      sections := inboundOrOnError
      scopes := everyScope
      parameters :=
        [ required "method" (.oneOf httpMethods) "HTTP method." ]
      textParameter := some "method"
      template := some .setMethod },
    { id := "set-status"
      name := "Set status code"
      category := .transformation
      description :=
        "Sets the HTTP status code of the response."
      sections := everySection
      scopes := everyScope
      parameters :=
        [ required "code" .integer "Status code.",
          optional "reason" .string "Reason phrase." ] },
    { id := "rewrite-uri"
      name := "Rewrite URL"
      category := .transformation
      description :=
        "Converts a request URL from its public form to the form the backend expects."
      sections := inboundOnly
      scopes := apiScopes
      parameters :=
        [ required "template" .string "Backend URL template.",
          optionalWithDefault "copy-unmatched-params" .boolean "true"
            "Forward query parameters absent from the template." ] },
    { id := "find-and-replace"
      name := "Find and replace string in body"
      category := .transformation
      description :=
        "Finds a substring in the body and replaces it."
      sections := everySection
      scopes := everyScope
      parameters :=
        [ required "from" .string "Text to find.",
          required "to" .string "Replacement text." ] }
  ]

/-- Calls of backends. -/
def backendEntries : List Entry :=
  [
    { id := "forward-request"
      name := "Forward request"
      category := .backend
      description :=
        "Forwards the incoming request to the backend service."
      sections := backendOnly
      scopes := everyScope
      parameters :=
        [ optionalWithDefault "timeout" .duration "300"
            "Seconds to wait for the backend.",
          optional "follow-redirects" .boolean "Follow backend redirects.",
          optional "buffer-request-body" .boolean "Buffer the request body for retries.",
          optional "buffer-response" .boolean "Buffer the response.",
          optional "fail-on-error-status-code" .boolean "Treat 4xx/5xx as errors." ] },
    { id := "set-backend-service"
      name := "Set backend service"
      category := .backend
      description :=
        "Redirects the request to a different backend."
      sections := inboundOrBackend
      scopes := everyScope
      parameters :=
        [ optional "base-url" .string "New backend base URL.",
          optional "backend-id" .string "Identifier of a configured backend." ] },
    { id := "send-request"
      name := "Send request"
      category := .backend
      description :=
        "Sends a request to a URL and stores the response in a context variable."
      sections := everySection
      scopes := everyScope
      parameters :=
        [ optionalWithDefault "mode" (.oneOf ["new", "copy"]) "new"
            "Start from a new or a copied request.",
          optional "url" .string "Target URL or backend base URL.",
          optional "setUrl" .string "Explicit request URL, or true to send to 'url'.",
          optional "method" (.oneOf httpMethods) "HTTP method.",
          optional "headers" .object
            "Headers as \x7bname, value\x7d objects or a name-to-value map.",
          optional "body" .expression "Request body.",
          optional "timeout" .duration "Seconds to wait for the response.",
          optional "ignoreErrors" .boolean "Continue when the call fails.",
          required "responseVariableName" .string "Variable receiving the response." ] },
    { id := "authentication-managed-identity"
      name := "Authenticate with managed identity"
      category := .backend
      description :=
        "Acquires a token with the gateway's managed identity for the backend."
      sections := inboundOnly
      scopes := everyScope
      parameters :=
        [ required "resource" .string "Application id of the target resource.",
          optional "client-id" .string "User-assigned identity client id.",
          optional "output-token-variable-name" .string "Variable receiving the token.",
          optional "ignore-error" .boolean "Continue when token acquisition fails." ] }
  ]

/-- Traces and logs. -/
def observabilityEntries : List Entry :=
  [
    { id := "trace"
      name := "Trace"
      category := .observability
      description :=
        "Adds custom traces to request tracing output and Application Insights."
      sections := everySection
      scopes := everyScope
      parameters :=
        [ required "source" .string "Trace source shown in the output.",
          optionalWithDefault "severity" (.oneOf ["verbose", "information", "error"]) "verbose"
            "Trace severity.",
          required "message" .expression "Message to log." ]
      template := some .trace },
    { id := "log-to-eventhub"
      name := "Log to event hub"
      category := .observability
      description :=
        "Sends messages to an event hub through a logger entity."
      sections := everySection
      scopes := everyScope
      parameters :=
        [ required "logger-id" .string "Logger registered with the gateway.",
          optional "partition-id" .string "Partition index.",
          optional "partition-key" .string "Partition key.",
          required "message" .expression "Message to send." ]
      textParameter := some "message"
      template := some .logToEventhub }
  ]

/-- Caches. -/
def cachingEntries : List Entry :=
  [
    { id := "cache-lookup"
      name := "Get from cache"
      category := .caching
      description :=
        "Looks up a cached response and returns it when available."
      sections := inboundOnly
      scopes := everyScope
      parameters :=
        [ required "vary-by-developer" .boolean "Cache per developer.",
          required "vary-by-developer-groups" .boolean "Cache per developer group.",
          optional "caching-type" (.oneOf cachingTypes) "Cache to use.",
          optional "downstream-caching-type" (.oneOf ["none", "private", "public"])
            "Downstream caching.",
          optional "must-revalidate" .boolean "Add must-revalidate to Cache-Control.",
          optional "allow-private-response-caching" .boolean
            "Cache requests with Authorization headers." ] },
    { id := "cache-store"
      name := "Store to cache"
      category := .caching
      description :=
        "Caches responses according to the specified settings."
      sections := outboundOnly
      scopes := everyScope
      parameters :=
        [ required "duration" .duration "Time to live in seconds.",
          optional "cache-response" .boolean "Cache the current response." ] },
    { id := "cache-lookup-value"
      name := "Get value from cache"
      category := .caching
      description :=
        "Retrieves a cached item by key into a variable."
      sections := everySection
      scopes := everyScope
      parameters :=
        [ required "key" .string "Cache key.",
          required "variable-name" .string "Variable receiving the value.",
          optional "default-value" .string "Value used on a cache miss.",
          optional "caching-type" (.oneOf cachingTypes) "Cache to use." ] },
    { id := "cache-store-value"
      name := "Store value in cache"
      category := .caching
      description :=
        "Stores an item in the cache by key."
      sections := everySection
      scopes := everyScope
      parameters :=
        [ required "key" .string "Cache key.",
          required "value" .expression "Value to cache.",
          required "duration" .duration "Time to live in seconds.",
          optional "caching-type" (.oneOf cachingTypes) "Cache to use." ] }
  ]

/-- Checks of requests and responses. -/
def securityEntries : List Entry :=
  [
    { id := "validate-content"
      name := "Validate content"
      category := .security
      description :=
        "Validates the size or content of a request or response body."
      sections := allButBackend
      scopes := everyScope
      parameters :=
        [ required "unspecified-content-type-action" (.oneOf contentActions)
            "Action for undeclared content types.",
          required "max-size" .integer "Maximum body size in bytes.",
          required "size-exceeded-action" (.oneOf contentActions)
            "Action when the body is too large.",
          optional "errors-variable-name" .string "Variable receiving validation errors." ] },
    { id := "validate-parameters"
      name := "Validate parameters"
      category := .security
      description :=
        "Validates request parameters against the API schema."
      sections := inboundOnly
      scopes := apiScopes
      parameters :=
        [ required "specified-parameter-action" (.oneOf contentActions)
            "Action for declared parameters.",
          required "unspecified-parameter-action" (.oneOf contentActions)
            "Action for undeclared parameters.",
          optional "errors-variable-name" .string "Variable receiving validation errors." ] }
  ]

/-- Language models. -/
def aiGatewayEntries : List Entry :=
  [
    { id := "azure-openai-token-limit"
      name := "Limit Azure OpenAI token usage"
      category := .aiGateway
      description :=
        "Limits language model token consumption per key."
      sections := inboundOnly
      scopes := everyScope
      parameters :=
        [ required "counter-key" .expression "Key used for the limit.",
          required "tokens-per-minute" .integer "Maximum tokens per minute.",
          required "estimate-prompt-tokens" .boolean "Estimate prompt tokens before the call.",
          optional "remaining-tokens-header-name" .string
            "Response header with the remaining tokens.",
          optional "remaining-tokens-variable-name" .string "Variable with the remaining tokens.",
          optional "tokens-consumed-header-name" .string
            "Response header with the consumed tokens." ] },
    { id := "llm-token-limit"
      name := "Limit LLM token usage"
      category := .aiGateway
      description :=
        "Limits large language model token consumption per key."
      sections := inboundOnly
      scopes := everyScope
      parameters :=
        [ required "counter-key" .expression "Key used for the limit.",
          required "tokens-per-minute" .integer "Maximum tokens per minute.",
          required "estimate-prompt-tokens" .boolean "Estimate prompt tokens before the call.",
          optional "remaining-tokens-header-name" .string
            "Response header with the remaining tokens.",
          optional "remaining-tokens-variable-name" .string
            "Variable with the remaining tokens." ] },
    { id := "llm-semantic-cache-lookup"
      name := "LLM semantic cache lookup"
      category := .aiGateway
      description :=
        "Returns cached responses for semantically similar prompts."
      sections := inboundOnly
      scopes := everyScope
      parameters :=
        [ required "score-threshold" .number "Similarity threshold.",
          required "embeddings-backend-id" .string "Backend serving embeddings.",
          required "embeddings-backend-auth" (.oneOf ["system-assigned"])
            "Authentication for the embeddings backend." ] },
    { id := "llm-content-safety"
      name := "Enforce content safety"
      category := .aiGateway
      description :=
        "Screens prompts with a content safety service before forwarding them."
      sections := inboundOnly
      scopes := everyScope
      parameters :=
        [ required "backend-id" .string "Content safety backend.",
          optional "shield-prompt" .boolean "Enable prompt shields." ] }
  ]

/-- Control flow. -/
def advancedEntries : List Entry :=
  [
    { id := "choose"
      name := "Control flow"
      category := .advanced
      description :=
        "Applies policy statements conditionally."
      sections := everySection
      scopes := everyScope
      parameters :=
        [ required "when" .object "Branches as \x7bcondition, policies\x7d objects.",
          optional "otherwise" .string "Policies applied when no branch matches." ]
      template := some .choose },
    { id := "include-fragment"
      name := "Include fragment"
      category := .advanced
      description :=
        "Inserts a policy fragment stored in the gateway."
      sections := everySection
      scopes := everyScope
      parameters :=
        [ required "fragment-id" .string "Fragment identifier." ] },
    { id := "limit-concurrency"
      name := "Limit concurrency"
      category := .advanced
      description :=
        "Limits the number of enclosed policies executing concurrently."
      sections := everySection
      scopes := everyScope
      parameters :=
        [ required "key" .expression "Concurrency key.",
          required "max-count" .integer "Maximum concurrent executions." ] }
  ]

/-- All built-in entries, by category. -/
def builtinEntries : List Entry :=
  accessControlEntries ++ transformationEntries ++ backendEntries ++ observabilityEntries ++
    cachingEntries ++ securityEntries ++ aiGatewayEntries ++ advancedEntries

/-- The built-in catalog. -/
def builtin : Catalog := .ofEntries builtinEntries

end Catalog

end GatewayPolicy
