namespace Subschema

/-- The outcome a directory server reports for an operation (RFC 4511, section 4.1.9). -/
inductive ResultCode where
  | success
  | operationsError
  | protocolError
  | timeLimitExceeded
  | sizeLimitExceeded
  | compareFalse
  | compareTrue
  | authMethodNotSupported
  | strongerAuthRequired
  | referral
  | adminLimitExceeded
  | unavailableCriticalExtension
  | confidentialityRequired
  | saslBindInProgress
  | noSuchAttribute
  | undefinedAttributeType
  | inappropriateMatching
  | constraintViolation
  | attributeOrValueExists
  | invalidAttributeSyntax
  | noSuchObject
  | aliasProblem
  | invalidDnSyntax
  | aliasDereferencingProblem
  | inappropriateAuthentication
  | invalidCredentials
  | insufficientAccessRights
  | busy
  | unavailable
  | unwillingToPerform
  | loopDetect
  | namingViolation
  | objectClassViolation
  | notAllowedOnNonLeaf
  | notAllowedOnRdn
  | entryAlreadyExists
  | objectClassModsProhibited
  | affectsMultipleDsas
  | other
  deriving DecidableEq, Repr

/-- The number sent on the wire. -/
def ResultCode.code : ResultCode → Nat
  | .success => 0
  | .operationsError => 1
  | .protocolError => 2
  | .timeLimitExceeded => 3
  | .sizeLimitExceeded => 4
  | .compareFalse => 5
  | .compareTrue => 6
  | .authMethodNotSupported => 7
  | .strongerAuthRequired => 8
  | .referral => 10
  | .adminLimitExceeded => 11
  | .unavailableCriticalExtension => 12
  | .confidentialityRequired => 13
  | .saslBindInProgress => 14
  | .noSuchAttribute => 16
  | .undefinedAttributeType => 17
  | .inappropriateMatching => 18
  | .constraintViolation => 19
  | .attributeOrValueExists => 20
  | .invalidAttributeSyntax => 21
  | .noSuchObject => 32
  | .aliasProblem => 33
  | .invalidDnSyntax => 34
  | .aliasDereferencingProblem => 36
  | .inappropriateAuthentication => 48
  | .invalidCredentials => 49
  | .insufficientAccessRights => 50
  | .busy => 51
  | .unavailable => 52
  | .unwillingToPerform => 53
  | .loopDetect => 54
  | .namingViolation => 64
  | .objectClassViolation => 65
  | .notAllowedOnNonLeaf => 66
  | .notAllowedOnRdn => 67
  | .entryAlreadyExists => 68
  | .objectClassModsProhibited => 69
  | .affectsMultipleDsas => 71
  | .other => 80

/-- Every result code, in the order of the numbers. -/
def ResultCode.all : List ResultCode :=
  [.success, .operationsError, .protocolError, .timeLimitExceeded, .sizeLimitExceeded,
   .compareFalse, .compareTrue, .authMethodNotSupported, .strongerAuthRequired, .referral,
   .adminLimitExceeded, .unavailableCriticalExtension, .confidentialityRequired,
   .saslBindInProgress, .noSuchAttribute, .undefinedAttributeType, .inappropriateMatching,
   .constraintViolation, .attributeOrValueExists, .invalidAttributeSyntax, .noSuchObject,
   .aliasProblem, .invalidDnSyntax, .aliasDereferencingProblem, .inappropriateAuthentication,
   .invalidCredentials, .insufficientAccessRights, .busy, .unavailable, .unwillingToPerform,
   .loopDetect, .namingViolation, .objectClassViolation, .notAllowedOnNonLeaf, .notAllowedOnRdn,
   .entryAlreadyExists, .objectClassModsProhibited, .affectsMultipleDsas, .other]

/-- The result code with a given number. -/
def ResultCode.ofCode? (n : Nat) : Option ResultCode :=
  ResultCode.all.find? fun rc => rc.code == n

/-- The name used in JSON, every word after the first with one capital. -/
def ResultCode.tag : ResultCode → String
  | .success => "success"
  | .operationsError => "operationsError"
  | .protocolError => "protocolError"
  | .timeLimitExceeded => "timeLimitExceeded"
  | .sizeLimitExceeded => "sizeLimitExceeded"
  | .compareFalse => "compareFalse"
  | .compareTrue => "compareTrue"
  | .authMethodNotSupported => "authMethodNotSupported"
  | .strongerAuthRequired => "strongerAuthRequired"
  | .referral => "referral"
  | .adminLimitExceeded => "adminLimitExceeded"
  | .unavailableCriticalExtension => "unavailableCriticalExtension"
  | .confidentialityRequired => "confidentialityRequired"
  | .saslBindInProgress => "saslBindInProgress"
  | .noSuchAttribute => "noSuchAttribute"
  | .undefinedAttributeType => "undefinedAttributeType"
  | .inappropriateMatching => "inappropriateMatching"
  | .constraintViolation => "constraintViolation"
  | .attributeOrValueExists => "attributeOrValueExists"
  | .invalidAttributeSyntax => "invalidAttributeSyntax"
  | .noSuchObject => "noSuchObject"
  | .aliasProblem => "aliasProblem"
  | .invalidDnSyntax => "invalidDnSyntax"
  | .aliasDereferencingProblem => "aliasDereferencingProblem"
  | .inappropriateAuthentication => "inappropriateAuthentication"
  | .invalidCredentials => "invalidCredentials"
  | .insufficientAccessRights => "insufficientAccessRights"
  | .busy => "busy"
  | .unavailable => "unavailable"
  | .unwillingToPerform => "unwillingToPerform"
  | .loopDetect => "loopDetect"
  | .namingViolation => "namingViolation"
  | .objectClassViolation => "objectClassViolation"
  | .notAllowedOnNonLeaf => "notAllowedOnNonLeaf"
  | .notAllowedOnRdn => "notAllowedOnRdn"
  | .entryAlreadyExists => "entryAlreadyExists"
  | .objectClassModsProhibited => "objectClassModsProhibited"
  | .affectsMultipleDsas => "affectsMultipleDsas"
  | .other => "other"

/-- The protocol name. It differs from the JSON name only where the protocol writes an
abbreviation in capitals. -/
def ResultCode.name : ResultCode → String
  | .invalidDnSyntax => "invalidDNSyntax"
  | .notAllowedOnRdn => "notAllowedOnRDN"
  | .affectsMultipleDsas => "affectsMultipleDSAs"
  | rc => rc.tag

/-- Name and number, as shown in messages. -/
def ResultCode.display (rc : ResultCode) : String :=
  rc.name ++ " (" ++ toString rc.code ++ ")"

end Subschema
