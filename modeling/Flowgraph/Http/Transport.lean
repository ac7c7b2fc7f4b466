import Flowgraph.Effect.Capability
import Flowgraph.Http.Url
import Flowgraph.Json.Reader
import Flowgraph.Json.Text
import Flowgraph.Text.Case

/-! HTTP exchanges as messages: what goes out for a request, and what a reply means. Methods are
written in capitals; a body goes out as JSON; a reply's body is JSON if it can be read as such. -/

namespace Flowgraph

structure Outgoing where
  method : String
  url : Url
  headers : List (String × String)
  body : String
  deriving Repr, Inhabited

/-- A reply as it comes back: `declared` is the length that it claims for its body. -/
structure Incoming where
  status : Nat
  headers : List (String × String)
  body : ByteArray
  declared : Nat

namespace Transport

private def isToken (c : Char) : Bool := c.isAlphanum || "!#$%&'*+-.^_`|~".contains c

/-- The method in capitals, if it is one. -/
def method? (method : String) : Option String :=
  let m := Text.upper (Text.trim method)
  if m != "" && m.toList.all isToken then some m else none

def isHeader (name value : String) : Bool :=
  name != "" && name.toList.all isToken && value.toList.all fun c => c == '\t' || (0x20 ≤ c.toNat && c.toNat != 0x7f)

private def lowerName (name : String) : String := .ofList (name.toList.map Char.toLower)

/-- The headers to send; a body brings its content type along unless that is given. -/
def headersOf (r : HttpRequest) : List (String × String) :=
  let given := r.headers.map fun (name, value) => (lowerName name, value)
  if r.body.isSome && (given.lookup "content-type").isNone then given ++ [("content-type", "application/json")] else given

def failed (url reason : String) : NodeFault := .effect s!"HTTP request to {url} failed: {reason}"

/-- Whether a request can be sent to an address: it is one of the web, not too long, and its host has
no brace, quote or backquote. -/
def isRequestable (u : Url) : Bool :=
  (u.scheme = "http" || u.scheme = "https") && u.text.utf8ByteSize ≤ 65534 &&
    u.host.all fun host => host.text.toList.all fun c => !"\"`\x7b\x7d".contains c

/-- The message for a request. A user named in the address is no part of it. -/
def outgoing (r : HttpRequest) : Except NodeFault Outgoing := do
  let some method := method? r.method | throw (.invalidConfig s!"invalid HTTP method '{r.method}'")
  let .ok url := Url.read r.url | throw (failed r.url "builder error")
  if !url.hasHost then throw (failed r.url s!"builder error for url ({url.text})")
  if !r.headers.all fun (name, value) => isHeader name value then throw (failed r.url "builder error")
  let url := url.withoutUser
  if !isRequestable url then throw (failed r.url s!"builder error for url ({url.text})")
  return ⟨method, url, headersOf r, match r.body with
    | some body => body.compact
    | none => ""⟩

def unreachable (r : HttpRequest) (url : Url) : NodeFault := failed r.url s!"error sending request for url ({url.text})"

def isBodiless (method : String) (status : Nat) : Bool :=
  method = "HEAD" || status = 101 || status = 204 || status = 304

/-- The value of a header without the blanks and tabs around it. -/
def headerValue (value : String) : String :=
  let isBlank (c : Char) : Bool := c == ' ' || c == '\t'
  .ofList ((value.toList.dropWhile isBlank).reverse.dropWhile isBlank).reverse

/-- Whether a reply is the answer to a request: its status has three digits and announces no further
reply, and its headers are well formed. -/
def isAnswer (reply : Incoming) : Bool :=
  100 < reply.status && reply.status ≤ 999 && !(102 ≤ reply.status && reply.status ≤ 199) &&
    reply.headers.all fun (name, value) => isHeader name value

def redirect? (sent : Outgoing) (reply : Incoming) : Option Url :=
  if [301, 302, 303, 307, 308].contains reply.status then
    (reply.headers.find? fun (name, _) => lowerName name = "location").bind fun (_, place) => sent.url.join? place
  else none

/-- The value of a body: nothing, a JSON document, or text. -/
def bodyValue (text : String) : Json := if text = "" then .null else (Json.read? text).getD (.string text)

/-- The response that a reply is; of headers with one name the last counts. -/
def response (r : HttpRequest) (sent : Outgoing) (reply : Incoming) : Except NodeFault HttpResponse :=
  match redirect? sent reply with
  | some url => .error (unreachable r url)
  | none =>
    let headers := Fields.ofList (reply.headers.map fun (name, value) => (lowerName name, Json.string (headerValue value)))
    if !isAnswer reply then .error (unreachable r sent.url)
    else if isBodiless sent.method reply.status then .ok ⟨reply.status, headers, .null⟩
    else if reply.body.size < reply.declared then
      .error (.effect "failed to read response body: error decoding response body")
    else .ok ⟨reply.status, headers, bodyValue (Text.lossyText ((reply.body.toList.take reply.declared).map UInt8.toNat))⟩

def offline (r : HttpRequest) : Except NodeFault HttpResponse :=
  match outgoing r with
  | .error e => .error e
  | .ok sent => .error (unreachable r sent.url)

end Transport
end Flowgraph
