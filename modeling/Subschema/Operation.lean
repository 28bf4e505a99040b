namespace Subschema

/-- A message of the directory protocol (RFC 4511), by its operation. -/
inductive Operation where
  | bindRequest
  | bindResponse
  | unbindRequest
  | searchRequest
  | searchResultEntry
  | searchResultDone
  | modifyRequest
  | modifyResponse
  | addRequest
  | addResponse
  | delRequest
  | delResponse
  | modifyDnRequest
  | modifyDnResponse
  | compareRequest
  | compareResponse
  | abandonRequest
  | searchResultReference
  | extendedRequest
  | extendedResponse
  | intermediateResponse
  deriving DecidableEq, Repr

/-- The application tag. -/
def Operation.tag : Operation → Nat
  | .bindRequest => 0
  | .bindResponse => 1
  | .unbindRequest => 2
  | .searchRequest => 3
  | .searchResultEntry => 4
  | .searchResultDone => 5
  | .modifyRequest => 6
  | .modifyResponse => 7
  | .addRequest => 8
  | .addResponse => 9
  | .delRequest => 10
  | .delResponse => 11
  | .modifyDnRequest => 12
  | .modifyDnResponse => 13
  | .compareRequest => 14
  | .compareResponse => 15
  | .abandonRequest => 16
  | .searchResultReference => 19
  | .extendedRequest => 23
  | .extendedResponse => 24
  | .intermediateResponse => 25

/-- The name of the operation. -/
def Operation.name : Operation → String
  | .bindRequest => "BindRequest"
  | .bindResponse => "BindResponse"
  | .unbindRequest => "UnbindRequest"
  | .searchRequest => "SearchRequest"
  | .searchResultEntry => "SearchResultEntry"
  | .searchResultDone => "SearchResultDone"
  | .modifyRequest => "ModifyRequest"
  | .modifyResponse => "ModifyResponse"
  | .addRequest => "AddRequest"
  | .addResponse => "AddResponse"
  | .delRequest => "DelRequest"
  | .delResponse => "DelResponse"
  | .modifyDnRequest => "ModifyDnRequest"
  | .modifyDnResponse => "ModifyDnResponse"
  | .compareRequest => "CompareRequest"
  | .compareResponse => "CompareResponse"
  | .abandonRequest => "AbandonRequest"
  | .searchResultReference => "SearchResultReference"
  | .extendedRequest => "ExtendedRequest"
  | .extendedResponse => "ExtendedResponse"
  | .intermediateResponse => "IntermediateResponse"

/-- Every operation, in the order of the tags. -/
def Operation.all : List Operation :=
  [.bindRequest, .bindResponse, .unbindRequest, .searchRequest, .searchResultEntry,
    .searchResultDone, .modifyRequest, .modifyResponse, .addRequest, .addResponse, .delRequest,
    .delResponse, .modifyDnRequest, .modifyDnResponse, .compareRequest, .compareResponse,
    .abandonRequest, .searchResultReference, .extendedRequest, .extendedResponse,
    .intermediateResponse]

end Subschema
