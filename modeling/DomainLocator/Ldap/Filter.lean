import DomainLocator.Ber.Value
import DomainLocator.Text.AsciiCase
import DomainLocator.Text.Hex

namespace DomainLocator.Ldap

inductive Filter where
  | and (filters : List Filter)
  | equality (name : String) (value : Octets)
  deriving Repr

namespace Filter

mutual

def decEq : (a b : Filter) → Decidable (a = b)
  | .and fs, .and gs =>
    match decEqAll fs gs with
    | .isTrue h => .isTrue (by rw [h])
    | .isFalse h => .isFalse fun e => h (Filter.and.inj e)
  | .equality name value, .equality name₂ value₂ =>
    decidable_of_iff (name = name₂ ∧ value = value₂) (by simp)
  | .and _, .equality .. => .isFalse (by simp)
  | .equality .., .and _ => .isFalse (by simp)

def decEqAll : (as bs : List Filter) → Decidable (as = bs)
  | [], [] => .isTrue rfl
  | a :: as, b :: bs =>
    match decEq a b, decEqAll as bs with
    | .isTrue h, .isTrue hs => .isTrue (by rw [h, hs])
    | .isFalse h, _ => .isFalse fun e => h (List.cons.inj e).1
    | _, .isFalse hs => .isFalse fun e => hs (List.cons.inj e).2
  | [], _ :: _ => .isFalse (by simp)
  | _ :: _, [] => .isFalse (by simp)

end

instance : DecidableEq Filter := decEq

def andTag : UInt8 := Ber.context 0

def equalityTag : UInt8 := Ber.context 3

def maxDepth : Nat := 32

mutual

def write : Filter → Octets
  | .and filters => Ber.element andTag (writeAll filters)
  | .equality name value =>
    Ber.element equalityTag (Ber.writeText name ++ Ber.writeOctets value)

def writeAll : List Filter → Octets
  | [] => []
  | filter :: filters => write filter ++ writeAll filters

end

def readEquality (contents : Octets) : Except WireError Filter :=
  Ber.Reading.within (do
    let name ← Ber.text.next
    let value ← Ber.octetString.next
    return .equality name value) contents

def read : (depth : Nat) → Ber.Item Filter
  | 0, _ => .error (.invalidBer .deepFilter)
  | _ + 1, [] => .error (.invalidBer .missingTag)
  | depth + 1, tag :: rest =>
    if tag = andTag then
      (Ber.Item.andThen Ber.read fun e => (Ber.untilEnd (read depth) e.contents).map .and) (tag :: rest)
    else if tag = equalityTag then
      (Ber.Item.andThen Ber.read fun e => readEquality e.contents) (tag :: rest)
    else .error (.unsupportedChoice (Ber.classOf tag) (Ber.numberOf tag))

def clauseValue? (wanted : String) : Filter → Option Octets
  | .equality name value => if Text.eqIgnoreCase name wanted then some value else none
  | .and _ => none

/-- The value of the first clause on the attribute: of the filter itself, or right inside it if it is an
AND. Clauses further inside do not count. -/
def value? (wanted : String) : Filter → Option Octets
  | .and filters => filters.findSome? (clauseValue? wanted)
  | clause => clauseValue? wanted clause

def isControl (c : Char) : Bool :=
  c.toNat < 0x20 || (0x7f ≤ c.toNat && c.toNat < 0xa0)

def valueText (value : Octets) : String :=
  match Text.Utf8.decode? value with
  | some text =>
    if text.toList.any isControl then octetsText value else text
  | none => octetsText value
where
  octetsText (value : Octets) : String :=
    String.join (value.map fun b => "\\" ++ Text.Hex.padded 2 b.toNat)

mutual

def toText : Filter → String
  | .and filters => "(&" ++ allText filters ++ ")"
  | .equality name value => "(" ++ name ++ "=" ++ valueText value ++ ")"

def allText : List Filter → String
  | [] => ""
  | filter :: filters => toText filter ++ allText filters

end

end Filter

end DomainLocator.Ldap
