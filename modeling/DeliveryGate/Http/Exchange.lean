import DeliveryGate.Http.Status
import DeliveryGate.Http.Url
import DeliveryGate.Json.Printer
import DeliveryGate.Json.Raw

/-!
# One call of a webhook

What is sent for a call, and what the call gives after the other side has or has not answered.
`Message.ofCall` refuses an address or a header that cannot be sent before anything is; `valueOf`
takes the value out of an answer. An answer that is blank has the value null.
-/

namespace DeliveryGate

namespace Http

/-- Why a call gives no value. -/
inductive CallFault where
  | badUrl (fault : UrlFault)
  /-- The scheme of the address is not that of web pages. -/
  | badScheme
  | badHeaderName
  | badHeaderValue
  /-- No whole answer came. -/
  | noAnswer
  | timedOut
  | status (code : Nat)
  | notJson
  deriving DecidableEq

namespace CallFault

/-- The reason that is reported; `none` where the connection has its own words for it. -/
def reason? : CallFault → Option String
  | .badUrl fault => some ("invalid url: " ++ fault.message)
  | .badScheme => none
  | .badHeaderName => none
  | .badHeaderValue => none
  | .noAnswer => none
  | .timedOut => some "request timed out"
  | .status code =>
    some ("status " ++ String.ofList (Json.renderInt code) ++ " " ++ phrase code)
  | .notJson => some "invalid JSON response"

end CallFault

/-! ### What is sent -/

/-- A request as it is sent; the names of headers are in lower case. -/
structure Message where
  target : String
  headers : List (String × String)
  body : Json

/-- A character of the names of headers. -/
def isNameChar (c : Char) : Bool := c.isAlphanum || "!#$%&'*+-.^_\x60|~".toList.contains c

/-- A character of the values of headers. -/
def isValueChar (c : Char) : Bool := (0x20 ≤ c.toNat && c.toNat ≠ 0x7F) || c == '\t'

/-- A header with its name in lower case. -/
def header (name value : String) : Except CallFault (String × String) :=
  let cs := name.toList
  if cs.isEmpty || !cs.all isNameChar then .error .badHeaderName
  else if !value.toList.all isValueChar then .error .badHeaderValue
  else .ok (String.ofList (cs.map Char.toLower), value)

/-- The headers of every request. -/
def commonHeaders : List (String × String) :=
  [("accept", "application/json"), ("content-type", "application/json")]

namespace Message

/-- The request that posts a value to an address. -/
def ofCall (url : String) (body : Json) (headers : List (String × String)) :
    Except CallFault Message := do
  let url ← (Url.parse url).mapError .badUrl
  let headers ← headers.mapM fun (name, value) => header name value
  if url.scheme ≠ "http" && url.scheme ≠ "https" then .error .badScheme
  return ⟨url.target, commonHeaders ++ headers, body⟩

/-- The first line of the request. -/
def line (message : Message) : String := "POST " ++ message.target ++ " HTTP/1.1"

end Message

/-! ### What comes back -/

/-- What the other side does with a request. -/
inductive Delivery where
  /-- It answers; the body may break off. -/
  | answered (status : Nat) (body : List UInt8) (whole : Bool)
  | closed
  | timedOut
  deriving DecidableEq

/-- The value in the body of an answer. -/
def valueOfBody (body : List UInt8) : Except CallFault Json :=
  let text := Text.ofBytes body
  if (Text.trim text).isEmpty then .ok .null
  else
    match Json.parse? (String.ofList text) with
    | some value => .ok value
    | none => .error .notJson

/-- The value that a call gives. -/
def valueOf : Delivery → Except CallFault Json
  | .closed => .error .noAnswer
  | .timedOut => .error .timedOut
  | .answered status body whole =>
    if status < 100 || 999 < status || isInterim status then .error .noAnswer
    else if !isSuccess status then .error (.status status)
    else if isBodiless status then .ok .null
    else if !whole then .error .noAnswer
    else valueOfBody body

end Http

end DeliveryGate
