import TeamChat.Json.Mismatch

/-!
# Failures of remote calls

Each failure has a chain of messages: what it says itself, and below it the causes that it was given.

## Contents
- `Remote.HttpFailure`: a request that got no usable response.
- `Remote.ApiError`: a call that failed.
- `ApiError.isAuth`: the failures that end a session.
-/

namespace TeamChat.Remote

open Json

/-! ## Requests -/

/-- Why a request got no usable response. -/
inductive HttpFailure
  /-- A header cannot be written. -/
  | builder
  /-- The request was not answered, with the causes, outermost first. -/
  | transport (url : String) (causes : List String)
  /-- The answer reports a failure by its status. -/
  | status (url : String) (code : Nat)
  /-- The answer is no JSON. -/
  | body (url : String)
deriving DecidableEq, Repr

/-- A failure in words, followed by its causes. -/
def HttpFailure.chain : HttpFailure → List String
  | .builder => ["builder error", "failed to parse header value"]
  | .transport url causes => ("error sending request for url (" ++ url ++ ")") :: causes
  | .status url code =>
    ["HTTP status error (" ++ countText code ++ ") for url (" ++ url ++ ")"]
  | .body url => ["error decoding response body for url (" ++ url ++ ")"]

/-! ## Calls -/

/-- Why a call failed. -/
inductive ApiError
  | http (f : HttpFailure)
  /-- The service refuses the call. -/
  | remote (method code : String)
  /-- The answer does not have the expected shape. -/
  | decode (m : Mismatch)
  /-- Live events cannot be opened, with the reason. -/
  | webSocket (reason : String)
  /-- The token is not accepted. -/
  | unauthorized (code : String)
deriving DecidableEq, Repr

namespace ApiError

/-- A failure in words, followed by its causes. -/
def chain : ApiError → List String
  | .http f =>
    match f.chain with
    | [] => []
    | m :: causes => ("HTTP error: " ++ m) :: m :: causes
  | .remote method code => ["Remote error in " ++ method ++ ": " ++ code]
  | .decode m => ["Malformed response: " ++ m.message, m.message]
  | .webSocket reason => ["Event stream error: " ++ reason, reason]
  | .unauthorized code => ["Not authorized: " ++ code]

/-- A failure in words. -/
def message (e : ApiError) : String :=
  e.chain.headD ""

/-- The codes by which the service refuses a token. -/
def authCodes : List String :=
  ["not_authed", "invalid_auth", "account_inactive", "token_revoked"]

/-- Whether the failure is one of authorization. -/
def isAuth : ApiError → Bool
  | .unauthorized _ => true
  | .remote _ code => authCodes.contains code
  | _ => false

end ApiError

end TeamChat.Remote
