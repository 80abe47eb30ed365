import ControlPlane.Policy.Update

/-!
# Error responses

An error is answered with a status, a code and a message, and maybe with the request and the word
that trying again may help. A lock that is held is the only error that a client can wait out.
-/
namespace ControlPlane

/-- The answer to a request that failed. -/
structure ErrorResponse where
  /-- The status of the answer. -/
  status : Nat
  /-- The name of the error. -/
  code : String
  /-- The wording of the error. -/
  message : String
  /-- The request that failed, if it is known. -/
  requestId : Option String
  /-- Whether trying again may help, if that is known. -/
  retryable : Option Bool
deriving DecidableEq, Repr

namespace ErrorResponse

/-- A response without a request id. -/
def of (status : Nat) (code message : String) : ErrorResponse := ⟨status, code, message, none, none⟩

/-- The response to an error that is nobody's business. -/
def internal (message : String) : ErrorResponse := of 500 "InternalError" message

/-- Say that trying again may help. -/
def asRetryable (response : ErrorResponse) : ErrorResponse := { response with retryable := some true }

/-- Say which request failed. -/
def withRequestId (response : ErrorResponse) (requestId : String) : ErrorResponse :=
  { response with requestId := some requestId }

/-- Whether the fault is the server's. -/
def isServerError (response : ErrorResponse) : Bool := 500 ≤ response.status

/-- The body of a response; what is not known is left out. -/
def toJson (response : ErrorResponse) : Json :=
  .object ([("Code", .string response.code), ("Message", .string response.message)] ++
    (response.requestId.map fun requestId => ("RequestId", Json.string requestId)).toList ++
    (response.retryable.map fun retryable => ("Retryable", Json.bool retryable)).toList)

/-- The text of a response. -/
def text (response : ErrorResponse) : String :=
  toString response.status ++ " " ++ response.code ++ ": " ++ response.message

end ErrorResponse

/-- The response to a lock error. -/
def LockError.response : LockError → ErrorResponse
  | .locked conflict => (ErrorResponse.of 423 "ResourceIsLocked" conflict.message).asRetryable
  | error => .internal error.message

/-- The response to a failed update of a protection. -/
def Protection.UpdateError.response : Protection.UpdateError → ErrorResponse
  | .lock error => error.response
  | error => .internal error.message

end ControlPlane
