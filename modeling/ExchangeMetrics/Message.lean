import ExchangeMetrics.Headers
import ExchangeMetrics.Uri.Basic

/-!
# Requests and results

What goes out and what comes back in one exchange. A request may carry the template its URI
was expanded from; nothing of it is sent, it only travels with the request to whoever measures
the exchange. What comes back is a response, or an error in its place.
-/

namespace ExchangeMetrics

/-- The method of a request, in the letter case in which it was written. -/
structure Method where
  /-- The name of the method. -/
  text : String
  /-- The name is a token. -/
  isToken : Text.isToken text = true
deriving DecidableEq

/-- Read the name of a method. -/
def Method.ofText? (s : String) : Option Method :=
  if h : Text.isToken s = true then some ⟨s, h⟩ else none

/-- The status of a response. -/
structure Status where
  /-- The three digits of the status, as a number. -/
  code : Nat
  /-- There are three digits. -/
  inRange : 100 ≤ code ∧ code ≤ 999
deriving DecidableEq

/-- Read a status code. -/
def Status.ofNat? (n : Nat) : Option Status :=
  if h : 100 ≤ n ∧ n ≤ 999 then some ⟨n, h⟩ else none

/-- An outgoing request. -/
structure Request where
  /-- The method. -/
  method : Method
  /-- The URI to which the request is sent. -/
  uri : Uri
  /-- The headers. -/
  headers : Headers := {}
  /-- The template attached to the request, if there is one. -/
  route : Option String := none
  /-- The body. -/
  body : String := ""
deriving DecidableEq

/-- An incoming response. -/
structure Response where
  /-- The status. -/
  status : Status
  /-- The headers. -/
  headers : Headers := {}
  /-- The body. -/
  body : String := ""
deriving DecidableEq

/-! ### Results of an exchange -/

/-- What becomes of an error when it is asked for its text. -/
inductive Rendering where
  /-- It gives the text. -/
  | text (s : String)
  /-- It reports that it cannot give one. -/
  | fails
  /-- It panics. -/
  | panics (message : String)
deriving DecidableEq

/-- An error with which an exchange ends. -/
structure Failure where
  /-- The full name of its type. -/
  typeName : String
  /-- Its text. -/
  display : Rendering
deriving DecidableEq

/-- Whether an error gives no text when it is asked for one. -/
def Failure.IsMute (f : Failure) : Prop :=
  ∀ s, f.display ≠ .text s

/-- What the caller of an exchange gets. -/
abbrev Result : Type := Except Failure Response

end ExchangeMetrics
