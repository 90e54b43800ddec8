namespace DomainLocator.Netlogon

inductive Opcode where
  | primaryQuery
  | primaryResponse
  | samLogonRequest
  | samLogonResponse
  | samPauseResponse
  | samUserUnknown
  | samLogonResponseEx
  | samPauseResponseEx
  | samUserUnknownEx
  | other (code : UInt16)
  deriving DecidableEq, Repr, Inhabited

namespace Opcode

def code : Opcode → UInt16
  | .primaryQuery => 7
  | .primaryResponse => 12
  | .samLogonRequest => 18
  | .samLogonResponse => 19
  | .samPauseResponse => 20
  | .samUserUnknown => 21
  | .samLogonResponseEx => 23
  | .samPauseResponseEx => 24
  | .samUserUnknownEx => 25
  | .other code => code

def ofCode (code : UInt16) : Opcode :=
  if code = 7 then .primaryQuery
  else if code = 12 then .primaryResponse
  else if code = 18 then .samLogonRequest
  else if code = 19 then .samLogonResponse
  else if code = 20 then .samPauseResponse
  else if code = 21 then .samUserUnknown
  else if code = 23 then .samLogonResponseEx
  else if code = 24 then .samPauseResponseEx
  else if code = 25 then .samUserUnknownEx
  else .other code

def name : Opcode → String
  | .primaryQuery => "PrimaryQuery"
  | .primaryResponse => "PrimaryResponse"
  | .samLogonRequest => "SamLogonRequest"
  | .samLogonResponse => "SamLogonResponse"
  | .samPauseResponse => "SamPauseResponse"
  | .samUserUnknown => "SamUserUnknown"
  | .samLogonResponseEx => "SamLogonResponseEx"
  | .samPauseResponseEx => "SamPauseResponseEx"
  | .samUserUnknownEx => "SamUserUnknownEx"
  | .other code => s!"Unknown({code.toNat})"

@[simp]
theorem code_ofCode (code : UInt16) : (ofCode code).code = code := by
  unfold ofCode
  repeat' split
  all_goals simp_all [Opcode.code]

theorem ofCode_code {o : Opcode} (h : ∀ code, o ≠ .other code) : ofCode o.code = o := by
  cases o with
  | other code => exact absurd rfl (h code)
  | _ => rfl

end Opcode

end DomainLocator.Netlogon
