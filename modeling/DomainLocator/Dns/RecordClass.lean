namespace DomainLocator.Dns

inductive RecordClass where
  | internet
  | csnet
  | chaos
  | hesiod
  | any
  | other (code : UInt16)
  deriving DecidableEq, Repr, Inhabited

namespace RecordClass

def code : RecordClass → UInt16
  | .internet => 1
  | .csnet => 2
  | .chaos => 3
  | .hesiod => 4
  | .any => 255
  | .other code => code

def ofCode (code : UInt16) : RecordClass :=
  if code = 1 then .internet
  else if code = 2 then .csnet
  else if code = 3 then .chaos
  else if code = 4 then .hesiod
  else if code = 255 then .any
  else .other code

def name : RecordClass → String
  | .internet => "IN"
  | .csnet => "CS"
  | .chaos => "CH"
  | .hesiod => "HS"
  | .any => "ANY"
  | .other code => s!"Unknown({code.toNat})"

@[simp]
theorem code_ofCode (code : UInt16) : (ofCode code).code = code := by
  unfold ofCode
  repeat' split
  all_goals simp_all [RecordClass.code]

theorem ofCode_code {c : RecordClass} (h : ∀ code, c ≠ .other code) : ofCode c.code = c := by
  cases c with
  | other code => exact absurd rfl (h code)
  | _ => rfl

end RecordClass

end DomainLocator.Dns
