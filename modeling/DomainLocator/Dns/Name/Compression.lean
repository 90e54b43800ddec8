import DomainLocator.Dns.Name
import DomainLocator.Dns.Writer
import DomainLocator.Text.Utf8

/-! Writing a name into a message. The labels are written out one by one until what is left of the name stands in the
message already: a pointer to that place then ends the name. -/

namespace DomainLocator.Dns.Name

def maxLabel : Nat := 63

/-- Writes what is left of the name `n`. A name may end in one empty label, which stands for the root
as the end of the name does. Without `compress` no pointer is written, and the table grows all the same. -/
def writeLabels (n : Name) (compress : Bool) : List String → Writer → Except Interrupted Writer
  | [], w => .ok (w.append [0])
  | label :: rest, w =>
    let octets := Text.Utf8.encode label
    let literal := UInt8.ofNat octets.length :: octets
    if label = "" then
      if rest = [] then .ok (w.append [0]) else .error ⟨.emptyLabel n.dotted, w⟩
    else if maxLabel < octets.length then .error ⟨.labelTooLong octets.length label, w⟩
    else
      match w.suffixes[label :: rest]? with
      | some target =>
        if compress then .ok (w.append (Octets.bigEndian 2 (0xc000 + target)))
        else writeLabels n compress rest (w.append literal)
      | none => writeLabels n compress rest ((w.note (label :: rest)).append literal)

def write (compress : Bool) (n : Name) (w : Writer) : Except Interrupted Writer :=
  writeLabels n compress n.labels w

end DomainLocator.Dns.Name
