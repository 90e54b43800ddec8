import DomainLocator.Proofs.Dns.MessageExtent
import DomainLocator.Text.Utf8.Lemmas
import Mathlib

/-! A message that was read can be written and read again without a change, unless it has grown too long on the way: a
label by the characters that took the place of octets that are no UTF-8, or the data of a record by the names that are
given in full. -/

namespace DomainLocator.Dns

variable {bs : Array UInt8} {n : Name} {label : String}

def Name.ReplacedIn (n : Name) (label : String) (bs : Array UInt8) : Prop :=
  ∀ pos labels past, Spells bs pos labels past → n = ⟨labels.map Text.Utf8.decodeLossy⟩ →
    ∀ octets ∈ labels, Text.Utf8.decodeLossy octets = label → Text.Utf8.decode? octets = none

lemma Name.ReadIn.empty_not_mem (h : n.ReadIn bs) : "" ∉ n.labels := by
  obtain ⟨pos, labels, past, hs, rfl⟩ := h
  exact hs.empty_not_mem

lemma Name.replacedIn_of_long (hlong : maxLabel < (Text.Utf8.encode label).length) : n.ReplacedIn label bs := by
  intro pos labels past hs hn octets ho hl
  by_contra hd
  -- Octets that are UTF-8 are written as they were, and no label has more than 63 of them.
  obtain ⟨text, hd⟩ := Option.ne_none_iff_exists'.mp hd
  rw [Text.Utf8.decodeLossy_of_decode? hd] at hl
  rw [← hl, Text.Utf8.encode_of_decode? hd] at hlong
  exact Nat.not_lt_of_le (hs.length_label octets ho).2 hlong

namespace Message

inductive WrittenAgain (m : Message) (bs : Octets) : Except WireError Octets → Prop
  | same {again : Octets} : ofOctets again = .ok m → WrittenAgain m bs (.ok again)
  | label {n : Name} {label : String} {size : Nat} : n ∈ m.names → n.ReadIn bs.toArray → label ∈ n.labels →
      size = (Text.Utf8.encode label).length → maxLabel < size → n.ReplacedIn label bs.toArray →
      WrittenAgain m bs (.error (.labelTooLong size label))
  | data {cause : WireError} : m.DataOverflows cause → WrittenAgain m bs (.error cause)

theorem ofOctets_stable {bs : Octets} {m : Message} (h : ofOctets bs = .ok m) :
    (∀ n ∈ m.names, "" ∉ n.labels) ∧ m.Countable ∧ (∀ name, m.toOctets ≠ .error (.emptyLabel name)) ∧
    m.WrittenAgain bs m.toOctets := by
  obtain ⟨past, hread⟩ := read_of_ofOctets h
  have hnames : ∀ n ∈ m.names, n.ReadIn bs.toArray := by
    simpa [Buffer.ofOctets] using (read_persists (.refl _) _ hread).1.names
  have hdecoded := (ofOctets_yields bs).ok m h
  have hagain : m.WrittenAgain bs m.toOctets := by
    cases hw : m.toOctets with
    | ok again =>
      have hcanonical := (toOctets_eq_ok hw).2
      rw [hdecoded.canonical] at hcanonical
      exact .same hcanonical
    | error cause =>
      rcases fault?_eq_some hdecoded.countable (toOctets_eq_error_iff.mp hw) with ⟨n, hn, hf⟩ | hdata
      · rcases Name.labelsFault?_eq_some hf with ⟨-, hempty⟩ | ⟨label, hl, hlong, rfl⟩
        · exact ((hnames n hn).empty_not_mem hempty).elim
        · exact .label hn (hnames n hn) hl rfl hlong (Name.replacedIn_of_long hlong)
      · exact .data hdata
  refine ⟨fun n hn => (hnames n hn).empty_not_mem, hdecoded.countable, ?_, hagain⟩
  intro name hw
  rw [hw] at hagain
  cases hagain with
  | data hdata =>
    obtain ⟨_, _, _, _, -, -, -, hc⟩ := hdata
    contradiction

def unreadableOctets : Octets :=
  [0, 7, 133, 128, 0, 1, 0, 1, 0, 0, 0, 0, 22] ++ List.replicate 22 0xff ++ [1, 98, 0, 0, 1, 0, 1] ++
    [192, 12, 0, 1, 0, 1, 0, 0, 2, 88, 0, 4, 192, 168, 56, 9]

def unreadableName : Name :=
  ⟨[String.ofList (List.replicate 22 '\ufffd'), "b"]⟩

def unreadable : Message where
  id := 7
  flags := ⟨0x8580⟩
  questions := [⟨unreadableName, .a, .internet⟩]
  answers := [{ name := unreadableName, data := .a ⟨0xc0a83809⟩, ttl := 600 }]

theorem ofOctets_stable_unreadable : ofOctets unreadableOctets = .ok unreadable ∧ unreadable.Countable ∧
    unreadable.toOctets = .error (.labelTooLong 66 (String.ofList (List.replicate 22 '\ufffd'))) ∧
    unreadableName.ReplacedIn (String.ofList (List.replicate 22 '\ufffd')) unreadableOctets.toArray := by
  have h : ofOctets unreadableOctets = .ok unreadable := by cbv
  have hw : unreadable.toOctets = .error (.labelTooLong 66 (String.ofList (List.replicate 22 '\ufffd'))) := by cbv
  obtain ⟨-, hcountable, -, hagain⟩ := ofOctets_stable h
  rw [hw] at hagain
  refine ⟨h, hcountable, hw, ?_⟩
  cases hagain with
  | label hn _ _ _ _ hr =>
    have hname : ∀ n ∈ unreadable.names, n = unreadableName := by decide
    rwa [hname _ hn] at hr
  | data hdata =>
    obtain ⟨_, _, _, _, -, -, -, hc⟩ := hdata
    contradiction

end Message

end DomainLocator.Dns
