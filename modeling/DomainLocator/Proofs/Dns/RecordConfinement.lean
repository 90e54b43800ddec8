import DomainLocator.Proofs.Dns.MessageExtent
import Mathlib

/-! The data of a record is read up to the length given in front of it: all that is needed has to stand there, and
nothing behind it is looked at, however far the pointers in its names could lead. -/

namespace DomainLocator

variable {bs cs : Array UInt8} {pos past stop : Nat}

lemma HoldsAt.of_agrees {xs : Octets} (hagree : cs.extract 0 stop = bs.extract 0 stop) (hend : pos + xs.length ≤ stop)
    (h : HoldsAt bs pos xs) : HoldsAt cs pos xs := by
  have htake : cs.toList.take stop = bs.toList.take stop := by
    simpa [Array.toList_extract, List.extract_eq_take_drop] using congrArg Array.toList hagree
  have hin : xs <+: (bs.toList.take stop).drop pos := by
    rw [List.drop_take]
    exact List.prefix_take_iff.mpr ⟨h, by omega⟩
  rw [← htake] at hin
  exact hin.trans ((List.take_prefix ..).drop pos)

namespace Dns

namespace Name

lemma Spells.past_eq_of_agrees {labels labels' : List Octets} {past' : Nat}
    (hagree : cs.extract 0 stop = bs.extract 0 stop) (h : Spells bs pos labels past) (hend : past ≤ stop)
    (h' : Spells cs pos labels' past') : past' = past := by
  have hstands : ∀ {part : Part} {pos : Nat}, part.StandsAt bs pos → pos + part.octets.length ≤ stop →
      part.StandsAt cs pos := fun hp hle => ⟨hp.1, hp.2.of_agrees hagree hle⟩
  induction h generalizing labels' with
  | root hp =>
    have hp := hstands hp hend
    cases h' with
    | root _ => rfl
    | label hp' _ => cases hp.unique hp'
    | pointer hp' _ _ => cases hp.unique hp'
  | label hp hs ih =>
    have hlt := hs.lt_past
    have hp := hstands hp (by simp only [Part.octets, List.length_cons]; omega)
    cases h' with
    | root hp' => cases hp.unique hp'
    | label hp' hs' =>
      cases hp.unique hp'
      exact ih hend hs'
    | pointer hp' _ _ => cases hp.unique hp'
  | pointer hp _ _ _ =>
    have hp := hstands hp hend
    cases h' with
    | root hp' => cases hp.unique hp'
    | label hp' _ => cases hp.unique hp'
    | pointer _ _ _ => rfl

end Name

variable {buf buf' : Buffer} {type : RecordType} {names : List Name} {last : Nat}

lemma Soa.exists_decode {s : Soa} (h : Soa.read buf pos = .ok s) : ∃ mid past,
    Name.decode buf pos = .ok (s.primary, mid) ∧ Name.decode buf mid = .ok (s.mailbox, past) ∧
      past + 20 ≤ buf.size := by
  obtain ⟨⟨primary, mid⟩, hprimary, h⟩ := bind_eq_ok_iff.mp h
  obtain ⟨⟨mailbox, past⟩, hmailbox, h⟩ := bind_eq_ok_iff.mp h
  obtain ⟨⟨serial, _⟩, hserial, h⟩ := bind_eq_ok_iff.mp h
  obtain ⟨⟨refresh, _⟩, hrefresh, h⟩ := bind_eq_ok_iff.mp h
  obtain ⟨⟨retry, _⟩, hretry, h⟩ := bind_eq_ok_iff.mp h
  obtain ⟨⟨expire, _⟩, hexpire, h⟩ := bind_eq_ok_iff.mp h
  obtain ⟨⟨minimum, _⟩, hminimum, h⟩ := bind_eq_ok_iff.mp h
  cases h
  have hserial := (Persists.word32 (.refl _) _ hserial).1.1
  have hrefresh := (Persists.word32 (.refl _) _ hrefresh).1.1
  have hretry := (Persists.word32 (.refl _) _ hretry).1.1
  have hexpire := (Persists.word32 (.refl _) _ hexpire).1.1
  have hminimum := (Persists.word32 (.refl _) _ hminimum).1.2
  refine ⟨mid, past, hprimary, hmailbox, ?_⟩
  dsimp only at hserial hrefresh hretry hexpire hminimum
  omega

lemma Srv.exists_decode {s : Srv} (h : Srv.read buf pos = .ok s) :
    ∃ past, Name.decode buf (pos + 6) = .ok (s.target, past) ∧ past ≤ buf.size := by
  obtain ⟨⟨priority, _⟩, hpriority, h⟩ := bind_eq_ok_iff.mp h
  obtain ⟨⟨weight, _⟩, hweight, h⟩ := bind_eq_ok_iff.mp h
  obtain ⟨⟨port, _⟩, hport, h⟩ := bind_eq_ok_iff.mp h
  obtain ⟨⟨target, past⟩, htarget, h⟩ := bind_eq_ok_iff.mp h
  cases h
  obtain ⟨-, rfl⟩ := Buffer.word16_eq_ok hpriority
  obtain ⟨-, rfl⟩ := Buffer.word16_eq_ok hweight
  obtain ⟨-, rfl⟩ := Buffer.word16_eq_ok hport
  exact ⟨past, htarget, (Persists.name (.refl _) _ htarget).1.2.2⟩

namespace RecordData

inductive Extent (buf : Buffer) (pos : Nat) : RecordType → List Name → Nat → Prop
  | a : Extent buf pos .a [] (pos + 4)
  | aaaa : Extent buf pos .aaaa [] (pos + 16)
  | soa {primary mailbox : Name} {mid past : Nat} : Name.decode buf pos = .ok (primary, mid) →
      Name.decode buf mid = .ok (mailbox, past) → Extent buf pos .soa [primary, mailbox] (past + 20)
  | srv {target : Name} {past : Nat} : Name.decode buf (pos + 6) = .ok (target, past) →
      Extent buf pos .srv [target] past

namespace Extent

lemma mono (hc : Continues buf.toArray buf'.toArray) (h : Extent buf pos type names last) :
    Extent buf' pos type names last := by
  cases h with
  | a => exact .a
  | aaaa => exact .aaaa
  | soa hprimary hmailbox => exact .soa (Persists.name hc _ hprimary).2 (Persists.name hc _ hmailbox).2
  | srv htarget => exact .srv (Persists.name hc _ htarget).2

lemma unique {names' : List Name} {last' : Nat} (h : Extent buf pos type names last)
    (h' : Extent buf pos type names' last') : last = last' := by
  cases h with
  | a => cases h'; rfl
  | aaaa => cases h'; rfl
  | soa hprimary hmailbox =>
    cases h' with
    | soa hprimary' hmailbox' =>
      cases hprimary.symm.trans hprimary'
      cases hmailbox.symm.trans hmailbox'
      rfl
  | srv htarget =>
    cases h' with
    | srv htarget' =>
      cases htarget.symm.trans htarget'
      rfl

end Extent

lemma extent_of_read {d : RecordData} (h : RecordData.read type buf pos = .ok d) :
    d.type = type ∧ ∃ last, Extent buf pos type d.names last ∧ last ≤ buf.size := by
  cases type with
  | a =>
    obtain ⟨found, hf, h⟩ := bind_eq_ok_iff.mp h
    cases h
    exact ⟨rfl, _, .a, (Persists.field (.refl _) (by decide) _ hf).1.2⟩
  | aaaa =>
    obtain ⟨found, hf, h⟩ := bind_eq_ok_iff.mp h
    cases h
    exact ⟨rfl, _, .aaaa, (Persists.field (.refl _) (by decide) _ hf).1.2⟩
  | soa =>
    obtain ⟨s, hs, h⟩ := bind_eq_ok_iff.mp h
    cases h
    obtain ⟨mid, past, hprimary, hmailbox, hsize⟩ := Soa.exists_decode hs
    exact ⟨rfl, _, .soa hprimary hmailbox, hsize⟩
  | srv =>
    obtain ⟨s, hs, h⟩ := bind_eq_ok_iff.mp h
    cases h
    obtain ⟨past, htarget, hsize⟩ := Srv.exists_decode hs
    exact ⟨rfl, _, .srv htarget, hsize⟩
  | _ => contradiction

end RecordData

namespace Record

variable {r : Record}

lemma readFrom_of_read (h : read buf pos = .ok (r, stop)) : ∃ f past, ReadFrom buf pos f past r stop := by
  obtain ⟨⟨name, past⟩, hname, h⟩ := bind_eq_ok_iff.mp h
  obtain ⟨⟨code, _⟩, hword, h⟩ := bind_eq_ok_iff.mp h
  obtain ⟨hcode, rfl⟩ := Buffer.word16_eq_ok hword
  obtain ⟨⟨recordClass, _⟩, hword, h⟩ := bind_eq_ok_iff.mp h
  obtain ⟨hclass, rfl⟩ := Buffer.word16_eq_ok hword
  obtain ⟨⟨ttl, _⟩, hword, h⟩ := bind_eq_ok_iff.mp h
  obtain ⟨httl, rfl⟩ := Buffer.word32_eq_ok hword
  obtain ⟨⟨length, _⟩, hword, h⟩ := bind_eq_ok_iff.mp h
  obtain ⟨hlength, rfl⟩ := Buffer.word16_eq_ok hword
  dsimp only at h
  split at h
  · contradiction
  rename_i hstop
  obtain ⟨data, hdata, h⟩ := bind_eq_ok_iff.mp h
  cases h
  refine ⟨⟨code, recordClass, ttl, length⟩, past, hname, ?_, rfl, Nat.le_of_not_lt hstop, hdata, rfl, rfl⟩
  simp only [Fields.octets, HoldsAt.append_iff, Octets.length_bigEndian]
  exact ⟨hcode, hclass, httl, hlength⟩

namespace ReadFrom

variable {f : Fields}

lemma word16_length (h : ReadFrom buf pos f past r stop) : buf.word16 (past + 8) = .ok (f.length, past + 10) := by
  have hfields := h.fields
  simp only [Fields.octets, HoldsAt.append_iff, Octets.length_bigEndian] at hfields
  exact Buffer.word16_of_holdsAt hfields.2.2.2

lemma word16_code (h : ReadFrom buf pos f past r stop) : buf.word16 past = .ok (f.code, past + 2) := by
  have hfields := h.fields
  rw [Fields.octets, HoldsAt.append_iff] at hfields
  exact Buffer.word16_of_holdsAt hfields.1

lemma extent (h : ReadFrom buf pos f past r stop) : r.type = .ofCode f.code ∧
    ∃ last, RecordData.Extent (buf.cut stop) (past + 10) r.type r.data.names last ∧ last ≤ stop := by
  obtain ⟨htype, last, hextent, hlast⟩ := RecordData.extent_of_read h.data
  rw [← htype] at hextent
  exact ⟨htype, last, hextent, Nat.le_trans hlast (Nat.min_le_left ..)⟩

lemma of_agrees {n : Name} {past' : Nat} (h : ReadFrom buf pos f past r stop)
    (hagree : buf'.toArray.extract 0 stop = buf.toArray.extract 0 stop)
    (hname : Name.decode buf' pos = .ok (n, past')) : ReadFrom buf' pos f past { r with name := n } stop := by
  have hstop := h.stop_eq
  have hle := h.stop_le
  obtain ⟨labels, hspells, -⟩ := Name.decode_spells h.name
  obtain ⟨labels', hspells', -⟩ := Name.decode_spells hname
  obtain rfl : past' = past := hspells.past_eq_of_agrees hagree (by omega) hspells'
  have hfields := h.fields.of_agrees hagree (by rw [Fields.length_octets]; omega)
  have hsize := congrArg Array.size hagree
  simp only [Array.size_extract, Buffer.size_toArray] at hsize
  have hcut : Continues (buf.cut stop).toArray (buf'.cut stop).toArray := by
    rw [Buffer.toArray_cut, Buffer.toArray_cut, hagree]
    exact .refl _
  exact ⟨hname, hfields, hstop, by omega, (RecordData.read_persists hcut _ _ h.data).2, h.recordClass, h.ttl⟩

end ReadFrom

/-- The data stands between the fields and the end of the record, and so do the octets its names begin with. What comes
after it can only change the name of the owner. Data that needs more than the length allows is refused. -/
theorem read_confined (buf : Buffer) (pos : Nat) :
    (∀ r stop, read buf pos = .ok (r, stop) → ∃ past length, Name.decode buf pos = .ok (r.name, past) ∧
      buf.word16 (past + 8) = .ok (length, past + 10) ∧ stop = past + 10 + length.toNat ∧ stop ≤ buf.size ∧
      (∃ last, RecordData.Extent (buf.cut stop) (past + 10) r.type r.data.names last ∧ last ≤ stop) ∧
      ∀ buf' n past', buf'.toArray.extract 0 stop = buf.toArray.extract 0 stop →
        Name.decode buf' pos = .ok (n, past') → read buf' pos = .ok ({ r with name := n }, stop)) ∧
    ∀ n past code length names last, Name.decode buf pos = .ok (n, past) → buf.word16 past = .ok (code, past + 2) →
      buf.word16 (past + 8) = .ok (length, past + 10) → RecordData.Extent buf (past + 10) (.ofCode code) names last →
      past + 10 + length.toNat < last → ∃ e, read buf pos = .error e := by
  constructor
  · intro r stop h
    obtain ⟨f, past, hread⟩ := readFrom_of_read h
    refine ⟨past, f.length, hread.name, hread.word16_length, hread.stop_eq, hread.stop_le, hread.extent.2, ?_⟩
    intro buf' n past' hagree hname
    exact (hread.of_agrees hagree hname).read
  · intro n past code length names last hname hcode hlength hextent hlast
    cases h : read buf pos with
    | error e => exact ⟨e, rfl⟩
    | ok found =>
      -- What was read from the shorter buffer would stand in the longer one too.
      obtain ⟨f, past, hread⟩ := readFrom_of_read h
      cases hread.name.symm.trans hname
      cases hread.word16_code.symm.trans hcode
      cases hread.word16_length.symm.trans hlength
      obtain ⟨htype, last', hextent', hlast'⟩ := hread.extent
      rw [htype] at hextent'
      have heq := hextent.unique (hextent'.mono (buf.cut_continues _))
      have hstop := hread.stop_eq
      omega

def slackService : Octets :=
  [1, 97, 0, 0, 33, 0, 1, 0, 0, 0, 60, 0, 10, 0, 1, 0, 2, 0, 3, 192, 0, 7, 7, 9]

def cutService : Octets :=
  [1, 97, 0, 0, 33, 0, 1, 0, 0, 0, 60, 0, 7, 0, 1, 0, 2, 0, 3, 192, 0, 7, 7, 9]

theorem read_confined_slackService : ∃ r, r.data = .srv ⟨1, 2, 3, ⟨["a"]⟩⟩ ∧
    read (.ofOctets slackService) 0 = .ok (r, 23) ∧ read (.ofOctets (slackService.dropLast ++ [8, 8])) 0 = .ok (r, 23) ∧
    ∃ e, read (.ofOctets cutService) 0 = .error e := by
  have h : read (.ofOctets slackService) 0 = .ok (⟨⟨["a"]⟩, .srv ⟨1, 2, 3, ⟨["a"]⟩⟩, .internet, 60⟩, 23) := by cbv
  have hname : Name.decode (.ofOctets (slackService.dropLast ++ [8, 8])) 0 = .ok (⟨["a"]⟩, 3) := by cbv
  have howner : Name.decode (.ofOctets cutService) 0 = .ok (⟨["a"]⟩, 3) := by cbv
  have htarget : Name.decode (.ofOctets cutService) 19 = .ok (⟨["a"]⟩, 21) := by cbv
  have hcode : (Buffer.ofOctets cutService).word16 3 = .ok (33, 5) := by cbv
  have hlength : (Buffer.ofOctets cutService).word16 11 = .ok (7, 13) := by cbv
  obtain ⟨-, -, -, -, -, -, -, hagain⟩ := (read_confined (.ofOctets slackService) 0).1 _ _ h
  refine ⟨_, rfl, h, hagain _ _ 3 (by decide) hname, ?_⟩
  exact (read_confined (.ofOctets cutService) 0).2 _ _ _ _ _ _ howner hcode hlength (.srv htarget) (by decide)

end Record

end Dns

end DomainLocator
