import HttpCall.Failure
import HttpCall.Message.Charset
import HttpCall.Text.Quoted
import HttpCall.Url.Printer

/-!
# Errors of construction and execution

What a setting, the building of a request or the start of a call can refuse, and
the message of each refusal.
-/

namespace HttpCall

inductive ConfigurationError where
  | invalidHeaderName
  | invalidHeaderValue
  | unsupportedScheme (scheme : String)
  | missingHost (url : Url)
  | zeroTimeout
  | unsupportedVersion (spelling : String)
  | unknownVersion (spelling : String)
  | missingUrl
  | missingTarget (url : Url)
  | noConnections
deriving DecidableEq, Repr

def ConfigurationError.text : ConfigurationError -> String
  | invalidHeaderName => "Invalid header name: invalid HTTP header name"
  | invalidHeaderValue => "Invalid header value: failed to parse header value"
  | unsupportedScheme scheme => "Unsupported URL scheme: " ++ scheme
  | missingHost url => "URL has no host: " ++ url.text
  | zeroTimeout => "timeout must be greater than zero"
  | unsupportedVersion spelling => "Unsupported HTTP version: " ++ spelling
  | unknownVersion spelling => "Unknown HTTP version: " ++ spelling
  | missingUrl => "Request URL is required"
  | missingTarget url => "Cannot derive connection target from " ++ url.text
  | noConnections => "max_connections must be at least 1"

def Charset.Refusal.text : Charset.Refusal -> String
  | unknownLabel => "unsupported charset"
  | missing c => "character " ++ Text.quoteChar c ++ " cannot be represented"

inductive Error where
  | invalidMethod
  | invalidUrl (cause : Url.ParseError)
  | configuration (cause : ConfigurationError)
  /-- A text body that its character set, named as it was given, cannot hold. -/
  | encoding (label : String) (cause : Charset.Refusal)
  | serialization (message : String)
  /-- The pool handed out no connection for the first hop. -/
  | acquire (cause : TransportError)
  | failed (failure : Failure)
deriving DecidableEq, Repr

def Error.message : Error -> String
  | invalidMethod => "invalid HTTP method"
  | invalidUrl cause => "Invalid URL: " ++ cause.text
  | configuration cause => "Configuration error: " ++ cause.text
  | encoding label cause => "Cannot encode body as " ++ label ++ ": " ++ cause.text
  | serialization message => "Failed to serialize request: " ++ message
  | acquire cause => "Failed to acquire connection: " ++ cause.message
  | failed failure => "Request failed: " ++ failure.reason

end HttpCall
