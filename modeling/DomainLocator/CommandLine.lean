import DomainLocator.Config

/-! A value follows its option, or is attached to it. It is looked at only when the next option is complete or the
line ends, so an argument that is not known is reported rather than a bad value right before it. -/

namespace DomainLocator

inductive UsageError where
  | unknownArgument
  | missingValue
  | badValue
  | unneededValue
  | repeated
  | help
  deriving DecidableEq, Repr

structure CommandLine where
  listen : Option Address.Ip := none
  realm : Option String := none
  dnsPort : Option UInt16 := none
  ldapPort : Option UInt16 := none
  continueOnError : Bool := false
  deriving DecidableEq, Repr

namespace CommandLine

inductive Slot where
  | listen
  | realm
  | dnsPort
  | ldapPort
  deriving DecidableEq, Repr

inductive Switch where
  | valued (slot : Slot)
  | continueOnError
  | help
  deriving DecidableEq, Repr

def switch? (name : List Char) : Option Switch :=
  [("realm", .valued .realm), ("dns-port", .valued .dnsPort), ("ldap-port", .valued .ldapPort),
    ("continue-on-error", .continueOnError), ("help", .help)].lookup (String.ofList name)

def integer? : List Char → Option Int
  | '+' :: digits => (Text.number? 10 digits).map Int.ofNat
  | '-' :: digits => (Text.number? 10 digits).map fun n => -Int.ofNat n
  | digits => (Text.number? 10 digits).map Int.ofNat

def port? (s : String) : Option UInt16 := do
  let n ← integer? s.toList
  if 0 ≤ n ∧ n ≤ 0xffff then some (UInt16.ofNat n.toNat) else none

def fill {α : Type} (place : Option α) (value : Option α) : Except UsageError (Option α) :=
  match place, value with
  | some _, _ => .error .repeated
  | none, none => .error .badValue
  | none, some value => .ok (some value)

def set (line : CommandLine) (slot : Slot) (value : String) : Except UsageError CommandLine := do
  match slot with
  | .listen => return { line with listen := ← fill line.listen (Address.Ip.ofText? value) }
  | .realm => return { line with realm := ← fill line.realm (some value) }
  | .dnsPort => return { line with dnsPort := ← fill line.dnsPort (port? value) }
  | .ldapPort => return { line with ldapPort := ← fill line.ldapPort (port? value) }

structure Scan where
  line : CommandLine := {}
  pending : Option (Slot × Option String) := none
  addressed : Bool := false
  trailing : Bool := false

namespace Scan

def settle (s : Scan) : Except UsageError Scan :=
  match s.pending with
  | none => .ok s
  | some (_, none) => .error .missingValue
  | some (slot, some value) => do
    return { s with line := ← s.line.set slot value, pending := none }

def option (s : Scan) (switch : Switch) (attached : Option String) : Except UsageError Scan :=
  match switch, attached with
  | .valued slot, some value => do
    let s ← s.settle
    return { s with line := ← s.line.set slot value }
  | .valued slot, none => do
    return { ← s.settle with pending := some (slot, none) }
  | _, some _ => .error .unneededValue
  | .help, none => do
    let _ ← s.settle
    throw .help
  | .continueOnError, none => do
    let s ← s.settle
    if s.line.continueOnError then
      throw .repeated
    return { s with line := { s.line with continueOnError := true } }

def long (s : Scan) (body : List Char) : Except UsageError Scan :=
  let attached :=
    match body.dropWhile (· ≠ '=') with
    | [] => none
    | _ :: value => some (String.ofList value)
  match switch? (body.takeWhile (· ≠ '=')) with
  | none => .error .unknownArgument
  | some switch => s.option switch attached

def short (s : Scan) (letter : Char) (body : List Char) : Except UsageError Scan :=
  if letter = 'r' then
    match body with
    | [] => s.option (.valued .realm) none
    | '=' :: value => s.option (.valued .realm) (some (String.ofList value))
    | value => s.option (.valued .realm) (some (String.ofList value))
  else if letter = 'h' then s.option .help none
  else .error .unknownArgument

def plain (s : Scan) (arg : String) : Except UsageError Scan :=
  if s.addressed then .error .unknownArgument
  else do
    return { ← s.settle with pending := some (.listen, some arg), addressed := true }

def step (s : Scan) (arg : String) : Except UsageError Scan :=
  if s.trailing then s.plain arg
  else
    match arg.toList, s.pending with
    | ['-', '-'], _ => .ok { s with trailing := true }
    | '-' :: '-' :: body, _ => s.long body
    | '-' :: letter :: body, _ => s.short letter body
    | _, some (slot, none) => .ok { s with pending := some (slot, some arg) }
    | _, _ => s.plain arg

end Scan

def ofArgs (args : List String) : Except UsageError CommandLine := do
  let s ← args.foldlM Scan.step {}
  return (← s.settle).line

def config (line : CommandLine) : Config :=
  let usual : Config := {}
  { usual with
    listen := line.listen.getD usual.listen
    dnsPort := line.dnsPort.getD usual.dnsPort
    ldapPort := line.ldapPort.getD usual.ldapPort
    realm := line.realm.getD usual.realm
    policy := if line.continueOnError then .proceed else .abort }

end CommandLine

end DomainLocator
