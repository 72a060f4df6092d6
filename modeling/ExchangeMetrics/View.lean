import ExchangeMetrics.Error
import ExchangeMetrics.Message

/-!
# What is seen of an exchange

Tags are derived from two views. `RequestView` is a copy of the request taken when the
exchange begins; headers may still be set in it, and those that were are remembered so that
they can be put into the request itself. `Reply` is what came of the request: a response, of
which status and headers are seen, nothing, or a fault.

## Main results

* `RequestView.setHeader_ok`, `RequestView.setHeader_error`: when a header can be set, and what
  setting it does.
-/

namespace ExchangeMetrics

/-! ### Requests -/

/-- What is seen of a request. -/
structure RequestView where
  /-- The method. -/
  method : Method
  /-- The URI. -/
  uri : Uri
  /-- The headers, those set in the view included. -/
  headers : Headers
  /-- The template of the request, if one is known. -/
  route : Option String := none
  /-- The headers set in the view. -/
  injected : Headers := {}
deriving DecidableEq

namespace RequestView

/-- The view of a request, without a route. -/
def ofRequest (r : Request) : RequestView :=
  { method := r.method, uri := r.uri, headers := r.headers }

/-- The view with another route, or without one. -/
def withRoute (v : RequestView) (route : Option String) : RequestView :=
  { v with route := route }

/-- The path of the URI, a slash if it is empty. -/
def path (v : RequestView) : String :=
  if v.uri.path = "" then "/" else v.uri.path

/-- The whole URI, if it is absolute. -/
def url? (v : RequestView) : Option String :=
  if v.uri.isAbsolute then some v.uri.text else none

/-- The first value of a header as text. -/
def header? (v : RequestView) (name : String) : Option String :=
  v.headers.text? name

/-- Set a header, discarding the values it had. The name is looked at before the value. -/
def setHeader (v : RequestView) (name value : String) : Except MetricsError RequestView :=
  match HeaderName.ofText? name with
  | none => .error .invalidHeaderName
  | some n =>
      match HeaderValue.ofText? value with
      | none => .error .invalidHeaderValue
      | some x => .ok { v with headers := v.headers.set n x, injected := v.injected.set n x }

/-- Forget which headers were set. -/
def withoutInjected (v : RequestView) : RequestView :=
  { v with injected := {} }

/-- A header that is well formed is set in the view, and also among the headers that are to be put
into the request. -/
theorem setHeader_ok {v : RequestView} {name value : String} {n : HeaderName} {x : HeaderValue}
    (hn : HeaderName.ofText? name = some n) (hx : HeaderValue.ofText? value = some x) :
    v.setHeader name value =
      .ok { v with headers := v.headers.set n x, injected := v.injected.set n x } := by
  simp [setHeader, hn, hx]

/-- A header is not set exactly if its name or its value is not well formed, and the name is looked
at first. -/
theorem setHeader_error {v : RequestView} {name value : String} {e : MetricsError} :
    v.setHeader name value = .error e ↔
      (HeaderName.ofText? name = none ∧ e = .invalidHeaderName) ∨
        ((HeaderName.ofText? name).isSome ∧ HeaderValue.ofText? value = none ∧
          e = .invalidHeaderValue) := by
  unfold setHeader
  cases hn : HeaderName.ofText? name with
  | none => simp [eq_comm]
  | some n =>
      cases hx : HeaderValue.ofText? value with
      | none => simp [eq_comm]
      | some x => simp

end RequestView

/-! ### Faults -/

/-- How an exchange failed: the kind of its error in one word, and what the error says. -/
structure Fault where
  /-- The kind of the error. -/
  kind : String
  /-- What the error says. -/
  message : String
deriving DecidableEq

namespace Fault

/-- A fault as a text. -/
def text (f : Fault) : String :=
  f.kind ++ ": " ++ f.message

/-- The characters before the first double colon. -/
def beforeDoubleColon : List Char → List Char
  | ':' :: ':' :: _ => []
  | c :: cs => c :: beforeDoubleColon cs
  | [] => []

/-- The bare name of a type, given its full name: without its arguments, which begin at the
first angle bracket, and without the path in front of it, whose parts are divided by double
colons. -/
def bareTypeName (full : String) : String :=
  let path := full.toList.takeWhile (· ≠ '<')
  String.ofList (beforeDoubleColon path.reverse).reverse

end Fault

/-! ### Replies -/

/-- What came of a request. -/
inductive Reply where
  /-- A response, with its status and headers. -/
  | received (status : Status) (headers : Headers)
  /-- Nothing. -/
  | absent
  /-- An error in place of a response. -/
  | failed (fault : Fault)
deriving DecidableEq

namespace Reply

/-- The view of a response. -/
def ofResponse (r : Response) : Reply :=
  .received r.status r.headers

/-- The status code, zero if there is no response. -/
def statusCode : Reply → Nat
  | received status _ => status.code
  | _ => 0

/-- Whether there is a response. -/
def isPresent : Reply → Bool
  | received .. => true
  | _ => false

/-- The headers of the response, none if there is no response. -/
def headers : Reply → Headers
  | received _ headers => headers
  | _ => {}

/-- The first value of a header of the response as text. -/
def header? (r : Reply) (name : String) : Option String :=
  r.headers.text? name

/-- The fault, if there is one. -/
def fault? : Reply → Option Fault
  | failed fault => some fault
  | _ => none

end Reply

end ExchangeMetrics
