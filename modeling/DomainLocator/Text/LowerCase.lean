import DomainLocator.Text.LowerCase.Runs
import DomainLocator.Text.LowerCase.Context

namespace DomainLocator.Text.LowerCase

def ofChar (c : Char) : List Char :=
  if c.toNat < 0x80 then [c.toLower]
  else if c = '\u0130' then ['i', '\u0307']
  else
    match runs.find? fun r => r.first ≤ c.toNat && c.toNat ≤ r.last && (c.toNat - r.first) % r.stride == 0 with
    | some r => [Char.ofNat (c.toNat + r.shift).toNat]
    | none => [c]

def beginsCased (cs : List Char) : Bool :=
  (cs.find? fun c => !isIgnorable c).any isCased

def endsWord (before after : List Char) : Bool :=
  beginsCased before.reverse && !beginsCased after

def atPlace (cs : List Char) (c : Char) (i : Nat) : List Char :=
  if c = '\u03a3' then
    [if endsWord (cs.take i) (cs.drop (i + 1)) then '\u03c2' else '\u03c3']
  else ofChar c

def ofList (cs : List Char) : List Char :=
  cs.zipIdx.flatMap fun (c, i) => atPlace cs c i

end DomainLocator.Text.LowerCase

namespace DomainLocator.Text

def lowerCase (s : String) : String :=
  String.ofList (LowerCase.ofList s.toList)

end DomainLocator.Text
