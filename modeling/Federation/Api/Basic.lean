/-
# Requests and answers

What the service is asked over HTTP and what it answers. An answer has a body of some kind or
none. A failure is answered with its status, its code and its public message.
-/

import Federation.Failure
import Federation.Json.Writer

namespace Federation.Api

/-- A request without a body. -/
structure Request where
  method : String
  /-- The path and the query, as they were sent. -/
  target : String
deriving DecidableEq, Repr

/-- The body of an answer. -/
inductive Body where
  | none
  | json (v : Json.Value)
  | text (kind content : String)

/-- An answer. -/
structure Response where
  status : Nat
  body : Body

namespace Response

/-- The kind of content of an answer. -/
def contentType (r : Response) : Option String :=
  match r.body with
  | .none => Option.none
  | .json _ => some "application/json"
  | .text kind _ => some kind

/-- An answer with a status only. -/
def bare (status : Nat) : Response := ⟨status, .none⟩

/-- An answer with members of an object. -/
def object (status : Nat) (members : List (String × Json.Value)) : Response :=
  ⟨status, .json (.object members)⟩

/-- The answer to a request that cannot be understood. -/
def unintelligible (reason : String) : Response :=
  ⟨400, .text "text/plain; charset=utf-8" reason⟩

/-- The answer to a request that failed. -/
def ofFailure (failure : Failure) : Response :=
  object failure.status
    [("error", .string failure.code), ("message", .string failure.publicMessage)]

/-- The answer where there is nothing. -/
def noEndpoint : Response :=
  object 404 [("error", .string "NotFound"), ("message", .string "Endpoint not found")]

/-- An answer without its body, which keeps its kind. -/
def headOnly (r : Response) : Response :=
  match r.contentType with
  | Option.none => r
  | some kind => { r with body := .text kind "" }

end Response

end Federation.Api
