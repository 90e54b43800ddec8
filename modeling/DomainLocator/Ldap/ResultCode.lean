namespace DomainLocator.Ldap

inductive ResultCode where
  | success | operationsError | protocolError | timeLimitExceeded | sizeLimitExceeded | compareFalse
  | compareTrue | authMethodNotSupported | strongerAuthRequired | referral | adminLimitExceeded
  | unavailableCriticalExtension | confidentialityRequired | saslBindInProgress | noSuchAttribute
  | undefinedAttributeType | inappropriateMatching | constraintViolation | attributeOrValueExists
  | invalidAttributeSyntax | noSuchObject | aliasProblem | invalidDnSyntax | isLeaf
  | aliasDereferencingProblem | inappropriateAuthentication | invalidCredentials
  | insufficientAccessRights | busy | unavailable | unwillingToPerform | loopDetect
  | namingViolation | objectClassViolation | notAllowedOnNonLeaf | notAllowedOnRdn
  | entryAlreadyExists | objectClassModsProhibited | affectsMultipleDsas | other
  | unregistered (code : Int32)
  deriving DecidableEq, Repr

namespace ResultCode

def code : ResultCode → Int32
  | .success => 0
  | .operationsError => 1
  | .protocolError => 2
  | .timeLimitExceeded => 3
  | .sizeLimitExceeded => 4
  | .compareFalse => 5
  | .compareTrue => 6
  | .authMethodNotSupported => 7
  | .strongerAuthRequired => 8
  | .referral => 10
  | .adminLimitExceeded => 11
  | .unavailableCriticalExtension => 12
  | .confidentialityRequired => 13
  | .saslBindInProgress => 14
  | .noSuchAttribute => 16
  | .undefinedAttributeType => 17
  | .inappropriateMatching => 18
  | .constraintViolation => 19
  | .attributeOrValueExists => 20
  | .invalidAttributeSyntax => 21
  | .noSuchObject => 32
  | .aliasProblem => 33
  | .invalidDnSyntax => 34
  | .isLeaf => 35
  | .aliasDereferencingProblem => 36
  | .inappropriateAuthentication => 48
  | .invalidCredentials => 49
  | .insufficientAccessRights => 50
  | .busy => 51
  | .unavailable => 52
  | .unwillingToPerform => 53
  | .loopDetect => 54
  | .namingViolation => 64
  | .objectClassViolation => 65
  | .notAllowedOnNonLeaf => 66
  | .notAllowedOnRdn => 67
  | .entryAlreadyExists => 68
  | .objectClassModsProhibited => 69
  | .affectsMultipleDsas => 71
  | .other => 80
  | .unregistered code => code

def registered : List (ResultCode × String) := [
  (.success, "Success"), (.operationsError, "OperationsError"), (.protocolError, "ProtocolError"),
  (.timeLimitExceeded, "TimeLimitExceeded"), (.sizeLimitExceeded, "SizeLimitExceeded"),
  (.compareFalse, "CompareFalse"), (.compareTrue, "CompareTrue"),
  (.authMethodNotSupported, "AuthMethodNotSupported"),
  (.strongerAuthRequired, "StrongerAuthRequired"), (.referral, "Referral"),
  (.adminLimitExceeded, "AdminLimitExceeded"),
  (.unavailableCriticalExtension, "UnavailableCriticalExtension"),
  (.confidentialityRequired, "ConfidentialityRequired"),
  (.saslBindInProgress, "SaslBindInProgress"), (.noSuchAttribute, "NoSuchAttribute"),
  (.undefinedAttributeType, "UndefinedAttributeType"),
  (.inappropriateMatching, "InappropriateMatching"), (.constraintViolation, "ConstraintViolation"),
  (.attributeOrValueExists, "AttributeOrValueExists"),
  (.invalidAttributeSyntax, "InvalidAttributeSyntax"), (.noSuchObject, "NoSuchObject"),
  (.aliasProblem, "AliasProblem"), (.invalidDnSyntax, "InvalidDnSyntax"), (.isLeaf, "IsLeaf"),
  (.aliasDereferencingProblem, "AliasDereferencingProblem"),
  (.inappropriateAuthentication, "InappropriateAuthentication"),
  (.invalidCredentials, "InvalidCredentials"),
  (.insufficientAccessRights, "InsufficientAccessRights"), (.busy, "Busy"),
  (.unavailable, "Unavailable"), (.unwillingToPerform, "UnwillingToPerform"),
  (.loopDetect, "LoopDetect"), (.namingViolation, "NamingViolation"),
  (.objectClassViolation, "ObjectClassViolation"), (.notAllowedOnNonLeaf, "NotAllowedOnNonLeaf"),
  (.notAllowedOnRdn, "NotAllowedOnRdn"), (.entryAlreadyExists, "EntryAlreadyExists"),
  (.objectClassModsProhibited, "ObjectClassModsProhibited"),
  (.affectsMultipleDsas, "AffectsMultipleDsas"), (.other, "Other")]

def ofCode (code : Int32) : ResultCode :=
  match registered.find? fun row => row.1.code == code with
  | some row => row.1
  | none => .unregistered code

def name (r : ResultCode) : String :=
  match registered.find? fun row => row.1 == r with
  | some row => row.2
  | none => "Unknown(" ++ toString r.code.toInt ++ ")"

@[simp]
theorem code_ofCode (code : Int32) : (ofCode code).code = code := by
  unfold ofCode
  split
  · rename_i row h
    simpa using List.find?_some h
  · rfl

theorem ofCode_code {r : ResultCode} (h : ∀ code, r ≠ .unregistered code) : ofCode r.code = r := by
  cases r with
  | unregistered code => exact absurd rfl (h code)
  | _ => rfl

end ResultCode

end DomainLocator.Ldap
