import DomainLocator.Text.Number
import DomainLocator.Octets
import DomainLocator.Text.Hex
import DomainLocator.Text.Separated

namespace DomainLocator.Netlogon

structure Guid where
  timeLow : UInt32
  timeMid : UInt16
  timeHigh : UInt16
  node : UInt64
  deriving DecidableEq, Repr, Inhabited

namespace Guid

def octets (g : Guid) : Octets :=
  Octets.littleEndian 4 g.timeLow.toNat ++ Octets.littleEndian 2 g.timeMid.toNat ++
    Octets.littleEndian 2 g.timeHigh.toNat ++ Octets.bigEndian 8 g.node.toNat

def ofOctets (bs : Octets) : Guid where
  timeLow := UInt32.ofNat (Octets.ofLittleEndian (bs.take 4))
  timeMid := UInt16.ofNat (Octets.ofLittleEndian ((bs.drop 4).take 2))
  timeHigh := UInt16.ofNat (Octets.ofLittleEndian ((bs.drop 6).take 2))
  node := UInt64.ofNat (Octets.ofBigEndian (bs.drop 8))

def ofRandom (bs : Octets) : Guid :=
  let g := ofOctets bs
  { g with
    timeHigh := UInt16.ofNat (0x4000 + g.timeHigh.toNat % 0x1000)
    node := UInt64.ofNat (0x8000000000000000 + g.node.toNat % 0x4000000000000000) }

def toText (g : Guid) : String :=
  let node := g.node.toNat
  Text.Separated.join '-' [Text.Hex.padded 8 g.timeLow.toNat, Text.Hex.padded 4 g.timeMid.toNat,
    Text.Hex.padded 4 g.timeHigh.toNat, Text.Hex.padded 4 (node >>> 48),
    Text.Hex.padded 12 (node % 0x1000000000000)]

def ofText? (s : String) : Option Guid := do
  let groups := Text.Separated.pieces '-' s.toList
  if groups.map List.length ≠ [8, 4, 4, 4, 12] then
    none
  let [a, b, c, d, e] ← groups.mapM (Text.number? 16) | none
  return ⟨UInt32.ofNat a, UInt16.ofNat b, UInt16.ofNat c, UInt64.ofNat (d <<< 48 + e)⟩

theorem length_octets (g : Guid) : g.octets.length = 16 := by
  simp [octets]

theorem ofOctets_octets (g : Guid) : ofOctets g.octets = g := by
  obtain ⟨a, b, c, d⟩ := g
  have ha : a.toNat % Octets.capacity 4 = a.toNat := Nat.mod_eq_of_lt a.toNat_lt
  have hb : b.toNat % Octets.capacity 2 = b.toNat := Nat.mod_eq_of_lt b.toNat_lt
  have hc : c.toNat % Octets.capacity 2 = c.toNat := Nat.mod_eq_of_lt c.toNat_lt
  have hd : d.toNat % Octets.capacity 8 = d.toNat := Nat.mod_eq_of_lt d.toNat_lt
  simp only [ofOctets, octets, List.append_assoc]
  rw [List.take_left' (by simp), List.drop_left' (by simp), List.take_left' (by simp),
    ← List.append_assoc, List.drop_left' (by simp), List.take_left' (by simp),
    ← List.append_assoc, List.drop_left' (by simp)]
  simp only [Octets.ofLittleEndian_littleEndian, Octets.ofBigEndian_bigEndian, ha, hb, hc, hd,
    UInt32.ofNat_toNat, UInt16.ofNat_toNat, UInt64.ofNat_toNat]

end Guid

end DomainLocator.Netlogon
