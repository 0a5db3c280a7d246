import HttpCall.Error
import HttpCall.Json.Printer
import HttpCall.Message.ContentType
import HttpCall.Request.Basic
import HttpCall.Url.Parser

/-!
# Drafts of requests

A draft is changed by settings, each of which is checked when it is made: a
setting that is refused leaves no draft behind, so the caller keeps the one from
before.  A draft with a URL can be built into a request.
-/

namespace HttpCall

structure Draft where
  method : Method
  url : Option Url
  version : ProtocolVersion
  headers : Headers
  body : Body
  followRedirects : Bool
  maxRedirects : Nat
  timeout : Option Duration
deriving DecidableEq, Repr

namespace Draft

inductive Setting where
  | method (name : String)
  | timeout (limit : Duration)
  | version (spelling : String)
  | url (text : String)
  | header (name value : String)
  | addHeader (name value : String)
  | removeHeader (name : String)
  | contentType (value : String)
  | acceptGzip (wanted : Bool)
  | followRedirects (follow : Bool)
  | maxRedirects (limit : Nat)
  | userAgent (value : String)
  | bodyText (content contentType : String)
  | text (content : String)
  | json (content : String)
  | jsonValue (value : Except String Json)
  | xml (content : String)
  | bodyBytes (bytes : List UInt8) (contentType : String)

def setMethod (name : String) (d : Draft) : Except Error Draft :=
  match Method.parse? name with
  | some method => .ok { d with method := method }
  | none => .error .invalidMethod

def setTimeout (limit : Duration) (d : Draft) : Except Error Draft :=
  if limit.isZero then .error (.configuration .zeroTimeout)
  else .ok { d with timeout := some limit }

def setVersion (spelling : String) (d : Draft) : Except Error Draft :=
  let shown := String.ofList (spelling.toList.map Char.toUpper)
  match ProtocolVersion.ofText? spelling with
  | some version =>
      if version.isSendable then .ok { d with version := version }
      else .error (.configuration (.unsupportedVersion shown))
  | none => .error (.configuration (.unknownVersion shown))

/-- Only absolute URLs of HTTP with a host are accepted. -/
def setUrl (text : String) (d : Draft) : Except Error Draft :=
  match Url.parse text with
  | .error cause => .error (.invalidUrl cause)
  | .ok url =>
      if !url.isHttp then .error (.configuration (.unsupportedScheme url.scheme))
      else if url.hostText?.isNone then .error (.configuration (.missingHost url))
      else .ok { d with url := some url }

/-- Check the name and the value of a header, the name first. -/
def headerField (name value : String) : Except Error (HeaderName × HeaderValue) :=
  match HeaderName.parse? name, HeaderValue.parse? value with
  | none, _ => .error (.configuration .invalidHeaderName)
  | some _, none => .error (.configuration .invalidHeaderValue)
  | some n, some v => .ok (n, v)

def setHeader (name value : String) (d : Draft) : Except Error Draft :=
  match headerField name value with
  | .ok (n, v) => .ok { d with headers := d.headers.insert n v }
  | .error e => .error e

def addHeader (name value : String) (d : Draft) : Except Error Draft :=
  match headerField name value with
  | .ok (n, v) => .ok { d with headers := d.headers.append n v }
  | .error e => .error e

/-- A text that is no header name removes nothing. -/
def removeHeader (name : String) (d : Draft) : Draft :=
  match HeaderName.parse? name with
  | some n => { d with headers := d.headers.erase n }
  | none => d

def setContentType (value : String) (d : Draft) : Except Error Draft :=
  setHeader HeaderName.contentType.text value d

def setAcceptGzip (wanted : Bool) (d : Draft) : Draft :=
  if wanted then
    { d with headers := d.headers.insert .acceptEncoding (.ofPlain "gzip") }
  else { d with headers := d.headers.erase .acceptEncoding }

/-- A text body is encoded with the character set of its content type before the
content type itself is checked. -/
def setBodyText (content contentType : String) (d : Draft) : Except Error Draft :=
  let label := ContentType.bodyCharset contentType
  match Charset.encodeAs label content with
  | .error cause => .error (.encoding label cause)
  | .ok encoded =>
      match d.setContentType contentType with
      | .ok d => .ok { d with body := .text content contentType encoded }
      | .error e => .error e

def setUtf8Body (content contentType : String) (d : Draft) : Draft :=
  { d with
    headers := d.headers.insert .contentType (.ofPlain contentType)
    body := .text content contentType (Text.Utf8.encode content.toList) }

def plainTextType : String := "text/plain; charset=utf-8"
def jsonType : String := "application/json; charset=utf-8"
def xmlType : String := "application/xml; charset=utf-8"

def setBodyBytes (bytes : List UInt8) (contentType : String) (d : Draft) :
    Except Error Draft :=
  match d.setContentType contentType with
  | .ok d => .ok { d with body := .binary bytes contentType }
  | .error e => .error e

def apply (d : Draft) : Setting -> Except Error Draft
  | .method name => d.setMethod name
  | .timeout limit => d.setTimeout limit
  | .version spelling => d.setVersion spelling
  | .url text => d.setUrl text
  | .header name value => d.setHeader name value
  | .addHeader name value => d.addHeader name value
  | .removeHeader name => .ok (d.removeHeader name)
  | .contentType value => d.setContentType value
  | .acceptGzip wanted => .ok (d.setAcceptGzip wanted)
  | .followRedirects follow => .ok { d with followRedirects := follow }
  | .maxRedirects limit => .ok { d with maxRedirects := limit }
  | .userAgent value => d.setHeader HeaderName.userAgent.text value
  | .bodyText content contentType => d.setBodyText content contentType
  | .text content => .ok (d.setUtf8Body content plainTextType)
  | .json content => .ok (d.setUtf8Body content jsonType)
  | .jsonValue (.ok value) => .ok (d.setUtf8Body value.compact jsonType)
  | .jsonValue (.error message) => .error (.serialization message)
  | .xml content => .ok (d.setUtf8Body content xmlType)
  | .bodyBytes bytes contentType => d.setBodyBytes bytes contentType

def applyOrKeep (d : Draft) (s : Setting) : Draft :=
  match d.apply s with
  | .ok next => next
  | .error _ => d

def build (d : Draft) : Except Error Request :=
  match d.url with
  | none => .error (.configuration .missingUrl)
  | some url =>
      match Target.ofUrl? url with
      | none => .error (.configuration (.missingTarget url))
      | some target =>
          .ok {
            method := d.method
            url := url
            target := target
            version := d.version
            headers := d.headers
            body := d.body
            followRedirects := d.followRedirects
            maxRedirects := d.maxRedirects
            timeout := d.timeout }

end Draft
end HttpCall
