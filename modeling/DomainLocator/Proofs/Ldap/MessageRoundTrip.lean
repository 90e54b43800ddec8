import DomainLocator.Proofs.Ldap.MessageEncodings

namespace DomainLocator.Ldap

open Ber (Fits Leeway)

namespace Message

lemma reads {m : Message} (hd : ∀ s, m.operation = .request s → s.filter.depth < Filter.maxDepth)
    (hfits : Fits m.toOctets) : read.Reads m.toOctets m.canonical := by
  apply decode_of_mem_any
  · intro s hs
    exact Nat.le_of_lt_succ (hd s hs)
  · exact encodings_mono Leeway.none_within_any m (toOctets_mem hfits)

lemma ofOctets_written {m : Message} (hd : ∀ s, m.operation = .request s → s.filter.depth < Filter.maxDepth)
    (hfits : Fits m.toOctets) : ofOctets m.toOctets = .ok m.canonical := by
  have hdecode := reads hd hfits []
  rw [List.append_nil] at hdecode
  rw [ofOctets, decode, hdecode]
  rfl

/-- A buffer never has more octets than a word of 64 bits can count, but a list may. -/
theorem decode_toOctets_append (m : Message) (rest : Octets)
    (hdepth : ∀ s, m.operation = .request s → s.filter.depth ≤ 31) (hlength : m.toOctets.length < UInt64.size) :
    decode (m.toOctets ++ rest) = .ok (m.canonical, rest) := by
  have hfits : Fits m.toOctets := hlength
  apply reads _ hfits
  intro s hs
  exact Nat.lt_succ_of_le (hdepth s hs)

def ping : Message where
  id := -129
  operation := .request {
    scope := .wholeSubtree
    timeLimit := 300
    filter := .and [.equality "DnsDomain" [98, 46], .and [.equality "NtVer" [22, 0, 0, 32], .and []]]
    attributes := ["Netlogon"] }

theorem decode_ping : (∀ s, ping.operation = .request s → s.filter.depth ≤ 31) ∧ ping.toOctets.length < UInt64.size ∧
    decode (ping.toOctets ++ [48, 2]) = .ok (ping.canonical, [48, 2]) := by
  have hdepth : ∀ s, ping.operation = .request s → s.filter.depth ≤ 31 := by
    intro s hs
    cases hs
    decide
  have hlength : ping.toOctets.length < UInt64.size := by decide
  exact ⟨hdepth, hlength, decode_toOctets_append ping [48, 2] hdepth hlength⟩

end Message

end DomainLocator.Ldap
