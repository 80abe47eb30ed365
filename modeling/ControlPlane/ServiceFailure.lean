/-!
# Failures of remote services

A remote service answers a request, answers with an error code, or does not answer. Failures are
sorted once, by the code of the answer, and later decisions, such as whether to try again, are
made on the kind.
-/
namespace ControlPlane

/-- How a request failed before there was an answer to read. -/
inductive TransportFault where
  /-- Connecting, reading or the whole operation took too long. -/
  | timeout
  /-- The request could not be sent. -/
  | dispatch
  /-- An answer arrived but could not be read. -/
  | response
deriving DecidableEq, Repr

namespace TransportFault

/-- The name of the fault. -/
def name : TransportFault → String
  | timeout => "timeout"
  | dispatch => "dispatch"
  | response => "response"

/-- The name of the fault as a title, for logs. -/
def title : TransportFault → String
  | timeout => "Timeout"
  | dispatch => "Dispatch"
  | response => "Response"

end TransportFault

/-- A failed request to a remote service. -/
inductive ServiceFailure where
  | notFound (code message : String)
  | alreadyExists (code message : String)
  /-- A conditional write was refused. -/
  | conditionFailed (message : String)
  /-- Too many requests. -/
  | throttled (code : String)
  /-- There was no answer. -/
  | transport (fault : TransportFault) (message : String)
  /-- Any other error, with a code if the service gave one. -/
  | other (code : Option String) (message : String)
deriving DecidableEq, Repr

namespace ServiceFailure

/-- The code of a refused conditional write. -/
def conditionFailedCode : String := "ConditionalCheckFailedException"

/-- The codes for something that does not exist. -/
def notFoundCodes : List String :=
  ["ResourceNotFoundException", "NoSuchEntity", "EntityNotFoundException", "NotFoundException"]

/-- The codes for something that exists already. -/
def alreadyExistsCodes : List String :=
  ["EntityAlreadyExists", "AlreadyExistsException", "ResourceInUseException"]

/-- The codes for too many requests. -/
def throttlingCodes : List String :=
  ["Throttling", "ThrottlingException", "ThrottledException", "RequestLimitExceeded",
    "TooManyRequestsException", "ProvisionedThroughputExceededException", "RequestThrottled"]

/-- Stands for the words of the client library in a failure that has no others. -/
def clientText : String := "<sdk>"

/-- Sort a failure by its code. -/
def classify (code message : Option String) : ServiceFailure :=
  let words := message.getD "Unknown error"
  match code with
  | none => other none words
  | some code =>
    if code = conditionFailedCode then conditionFailed words
    else if code ∈ notFoundCodes then notFound code words
    else if code ∈ alreadyExistsCodes then alreadyExists code words
    else if code ∈ throttlingCodes then throttled code
    else other (some code) words

/-- The failure of an answer with an error: one without a code is not looked at any further. -/
def ofAnswer (code message : Option String) : ServiceFailure :=
  match code with
  | some code => classify (some code) message
  | none => other none clientText

/-- The failure of a request without an answer. -/
def unanswered (fault : TransportFault) : ServiceFailure := transport fault clientText

/-- The failure of a request to a service that cannot be reached. -/
def unreachable : ServiceFailure := unanswered .dispatch

/-- The failure of an answer that makes no sense. -/
def garbled : ServiceFailure := other none clientText

/-- The code of the answer, if there was one. -/
def code? : ServiceFailure → Option String
  | notFound code _ | alreadyExists code _ | throttled code => some code
  | conditionFailed _ => some conditionFailedCode
  | transport .. => none
  | other code _ => code

/-- Whether something does not exist. -/
def isNotFound : ServiceFailure → Bool
  | notFound .. => true
  | _ => false

/-- Whether something exists already. -/
def isAlreadyExists : ServiceFailure → Bool
  | alreadyExists .. => true
  | _ => false

/-- Whether a conditional write was refused. -/
def isConditionFailed : ServiceFailure → Bool
  | conditionFailed _ => true
  | _ => false

/-- Whether the failure may pass by itself. -/
def isTransient : ServiceFailure → Bool
  | throttled _ | transport .. => true
  | _ => false

/-- The wording of a failure. -/
def message : ServiceFailure → String
  | notFound _ words => "Resource not found: " ++ words
  | alreadyExists _ words => "Resource already exists: " ++ words
  | conditionFailed words => "Condition check failed: " ++ words
  | throttled code => "Rate limit exceeded (" ++ code ++ ")"
  | transport fault words => fault.name ++ " failure: " ++ words
  | other _ words => "AWS error: " ++ words

end ServiceFailure

end ControlPlane
