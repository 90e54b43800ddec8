import DomainLocator.Proofs.Dns.MessageRoundTrip
import DomainLocator.Proofs.Dns.NameEncoding

namespace DomainLocator.Dns

variable {w w' : Writer} {stop : Interrupted}

section All

variable {α : Type} {write : α → Writer → Except Interrupted Writer} {values : List α}

lemma Writer.all_eq_error (h : w.all write values = .error stop) : ∃ x ∈ values, ∃ v, write x v = .error stop := by
  induction values generalizing w with
  | nil => contradiction
  | cons x values ih =>
    rcases bind_eq_error_iff.mp h with hx | ⟨v, _, h⟩
    · exact ⟨x, List.mem_cons_self, w, hx⟩
    · obtain ⟨y, hy, u, hu⟩ := ih h
      exact ⟨y, .tail _ hy, u, hu⟩

lemma Writer.written_of_all {Inv : Writer → Prop} (hstep : ∀ x v v', Inv v → write x v = .ok v' → Inv v') (hw : Inv w)
    (h : w.all write values = .ok w') : ∀ x ∈ values, ∃ v v', Inv v ∧ write x v = .ok v' := by
  induction values generalizing w with
  | nil => simp
  | cons x values ih =>
    obtain ⟨v, hx, h⟩ := bind_eq_ok_iff.mp h
    exact List.forall_mem_cons.mpr ⟨⟨w, v, hw, hx⟩, ih (hstep x w v hw hx) h⟩

end All

lemma Name.size_write_all {names : List Name} {compress : Bool} (h : w.all (Name.write compress) names = .ok w') :
    w'.octets.size ≤ w.octets.size + (names.flatMap fun n => literalForm n.labels).length := by
  induction names generalizing w with
  | nil =>
    cases h
    simp
  | cons n names ih =>
    obtain ⟨v, hv, h⟩ := bind_eq_ok_iff.mp h
    have := size_write hv
    have := ih h
    rw [List.flatMap_cons, List.length_append]
    omega

namespace Question

lemma write_eq_error {q : Question} (h : q.write w = .error stop) : q.name.fault? = some stop.cause := by
  rcases bind_eq_error_iff.mp h with hn | ⟨v, _, h⟩
  · exact Name.write_eq_error hn
  · contradiction

lemma encodable_of_all {questions : List Question} (hw : w.Faithful) (h : w.all Question.write questions = .ok w') :
    ∀ q ∈ questions, q.name.Encodable := by
  intro q hq
  obtain ⟨v, v', hv, h⟩ := Writer.written_of_all (fun _ _ _ hv hq => (roundTrip hv hq).faithful) hw h q hq
  obtain ⟨u, hu, _⟩ := write_eq_ok h
  exact Name.encodable_of_write hv hu

end Question

namespace RecordData

def names : RecordData → List Name
  | .a _ => []
  | .aaaa _ => []
  | .soa s => [s.primary, s.mailbox]
  | .srv s => [s.target]

def literalForm : RecordData → Octets
  | .a addr => addr.octets
  | .aaaa addr => addr.octets
  | .soa s => Name.literalForm s.primary.labels ++ (Name.literalForm s.mailbox.labels ++
      (Octets.bigEndian 4 s.serial.toNat ++ (Octets.bigEndian 4 s.refresh.toNat ++ (Octets.bigEndian 4 s.retry.toNat ++
        (Octets.bigEndian 4 s.expire.toNat ++ Octets.bigEndian 4 s.minimum.toNat)))))
  | .srv s => Octets.bigEndian 2 s.priority.toNat ++ (Octets.bigEndian 2 s.weight.toNat ++
      (Octets.bigEndian 2 s.port.toNat ++ Name.literalForm s.target.labels))

lemma exists_write {d : RecordData} (h : ∀ n ∈ d.names, n.Encodable) (w : Writer) : ∃ w', d.write w = .ok w' := by
  cases d with
  | a addr => exact ⟨_, rfl⟩
  | aaaa addr => exact ⟨_, rfl⟩
  | soa s =>
    obtain ⟨u, hu⟩ := (h s.primary (by simp [names])).exists_write true w
    obtain ⟨v, hv⟩ := (h s.mailbox (by simp [names])).exists_write true u
    exact ⟨_, bind_eq_ok_iff.mpr ⟨u, hu, bind_eq_ok_iff.mpr ⟨v, hv, rfl⟩⟩⟩
  | srv s => exact (h s.target (by simp [names])).exists_write false _

lemma size_write {d : RecordData} (h : d.write w = .ok w') :
    w'.octets.size ≤ w.octets.size + d.literalForm.length := by
  cases d with
  | a addr =>
    rw [← Except.ok.inj h]
    exact Nat.le_of_eq (size_append_octets ..)
  | aaaa addr =>
    rw [← Except.ok.inj h]
    exact Nat.le_of_eq (size_append_octets ..)
  | soa s =>
    obtain ⟨u, v, hu, hv, rfl⟩ := Soa.write_eq_ok h
    have := Name.size_write hu
    have := Name.size_write hv
    simp only [literalForm, Writer.octets_append, size_append_octets, List.length_append, Octets.length_bigEndian]
    omega
  | srv s =>
    have := Name.size_write ((Srv.write_eq s w).symm.trans h)
    simp only [literalForm, Writer.octets_append, size_append_octets, List.length_append, Octets.length_bigEndian] at this ⊢
    omega

lemma size_write_srv {s : Srv} (h : (srv s).write w = .ok w') :
    w'.octets.size = w.octets.size + (srv s).literalForm.length := by
  have := Name.size_write_uncompressed ((Srv.write_eq s w).symm.trans h)
  simp only [literalForm, Writer.octets_append, size_append_octets, List.length_append, Octets.length_bigEndian] at this ⊢
  omega

end RecordData

namespace Record

structure Writable (r : Record) : Prop where
  names : ∀ n ∈ r.name :: r.data.names, n.Encodable
  data : r.data.literalForm.length ≤ 0xffff

instance (r : Record) : Decidable r.Writable :=
  decidable_of_iff ((∀ n ∈ r.name :: r.data.names, n.Encodable) ∧ r.data.literalForm.length ≤ 0xffff)
    ⟨fun h => ⟨h.1, h.2⟩, fun h => ⟨h.names, h.data⟩⟩

lemma exists_writeData {d : RecordData} (hn : ∀ n ∈ d.names, n.Encodable) (hd : d.literalForm.length ≤ 0xffff)
    (w : Writer) : ∃ w', writeData d w.octets.size (w.append [0, 0]) = .ok w' := by
  obtain ⟨v, hv⟩ := RecordData.exists_write hn (w.append [0, 0])
  have hsize := RecordData.size_write hv
  rw [Writer.octets_append, size_append_octets, List.length_cons, List.length_singleton] at hsize
  exact ⟨_, bind_eq_ok_iff.mpr ⟨v, hv, if_pos (by omega)⟩⟩

lemma Writable.exists_write {r : Record} (h : r.Writable) (w : Writer) : ∃ w', r.write w = .ok w' := by
  obtain ⟨hname, hnames⟩ := List.forall_mem_cons.mp h.names
  obtain ⟨v, hv⟩ := hname.exists_write true w
  obtain ⟨w', hw'⟩ := exists_writeData hnames h.data (((v.word16 r.type.code).word16 r.recordClass.code).word32
    r.ttl.toUInt32)
  exact ⟨w', bind_eq_ok_iff.mpr ⟨v, hv, hw'⟩⟩

lemma length_srv_of_write {r : Record} {s : Srv} (hr : r.data = .srv s) (h : r.write w = .ok w') :
    r.data.literalForm.length ≤ 0xffff := by
  obtain ⟨v, length, _, hle, hd, hsize⟩ := write_eq_ok h
  rw [hr] at hd ⊢
  have := RecordData.size_write_srv hd
  simp only [Writer.octets_append, size_append_octets, List.length_append, Octets.length_bigEndian] at this
  omega

end Record

namespace Message

variable {m : Message} {bs : Octets} {cause : WireError}

lemma append_header (m : Message) (w : Writer) :
    (((((w.word16 m.id.toUInt16).word16 m.flags.bits).append (Octets.bigEndian 2 m.questions.length)).append
      (Octets.bigEndian 2 m.answers.length)).append (Octets.bigEndian 2 m.nameServers.length)).append
      (Octets.bigEndian 2 m.additional.length) = w.append m.header := by
  simp only [header, Writer.word16_eq, Writer.append_append, List.append_assoc]

lemma write_of_countable (hc : m.Countable) (w : Writer) : m.write w =
    (w.append m.header).all Question.write m.questions >>= fun w => w.all Record.write m.records := by
  rw [write, Writer.count_of_le hc.questions, ← append_header]
  simp only [Writer.count_of_le hc.answers, Writer.count_of_le hc.nameServers, Writer.count_of_le hc.additional]
  rfl

lemma write_eq_error (hc : m.Countable) (hr : ∀ r ∈ m.records, r.Writable) (h : m.write w = .error stop) :
    ∃ q ∈ m.questions, q.name.fault? = some stop.cause := by
  rw [write_of_countable hc] at h
  rcases bind_eq_error_iff.mp h with hq | ⟨v, _, h⟩
  · obtain ⟨q, hq, v, h⟩ := Writer.all_eq_error hq
    exact ⟨q, hq, Question.write_eq_error h⟩
  · obtain ⟨r, hm, u, hu⟩ := Writer.all_eq_error h
    obtain ⟨u', hu'⟩ := (hr r hm).exists_write u
    rw [hu'] at hu
    contradiction

lemma toOctets_eq_error (hc : m.Countable) (hr : ∀ r ∈ m.records, r.Writable) (h : m.toOctets = .error cause) :
    ∃ q ∈ m.questions, q.name.fault? = some cause := by
  rw [toOctets] at h
  split at h
  · contradiction
  · cases h
    exact write_eq_error hc hr ‹_›

lemma write_of_toOctets (h : m.toOctets = .ok bs) : ∃ w, m.write {} = .ok w ∧ bs = w.octets.toList := by
  rw [toOctets] at h
  split at h
  · rename_i w hw
    cases h
    exact ⟨w, hw, rfl⟩
  · contradiction

lemma exists_write_of_toOctets {r : Record} (h : m.toOctets = .ok bs) (hr : r ∈ m.records) :
    ∃ w w', r.write w = .ok w' := by
  obtain ⟨w, hw, -⟩ := write_of_toOctets h
  rw [write_of_countable (write_eq_ok hw).1] at hw
  obtain ⟨t, _, hw⟩ := bind_eq_ok_iff.mp hw
  obtain ⟨v, v', _, hv⟩ := Writer.written_of_all (fun _ _ _ _ _ => trivial) trivial hw r hr
  exact ⟨v, v', hv⟩

lemma exists_toOctets (hc : m.Countable) (hq : ∀ q ∈ m.questions, q.name.Encodable)
    (hr : ∀ r ∈ m.records, r.Writable) : ∃ bs, m.toOctets = .ok bs := by
  cases h : m.toOctets with
  | ok bs => exact ⟨bs, rfl⟩
  | error cause =>
    obtain ⟨q, hm, hf⟩ := toOctets_eq_error hc hr h
    rw [(hq q hm).fault?_eq_none] at hf
    contradiction

lemma read_of_toOctets (h : m.toOctets = .ok bs) : read (Buffer.ofOctets bs) = .ok (m.canonical, bs.length) := by
  obtain ⟨w, hw, rfl⟩ := write_of_toOctets h
  rw [Array.length_toList]
  exact read_of_write hw (by simp [Buffer.ofOctets, Continues])

lemma toOctets_eq_ok (h : m.toOctets = .ok bs) :
    (∀ q ∈ m.questions, q.name.Encodable) ∧ ofOctets bs = .ok m.canonical := by
  have hread := read_of_toOctets h
  obtain ⟨w, hw, rfl⟩ := write_of_toOctets h
  obtain ⟨_, t, _, _, ht, _⟩ := write_eq_ok hw
  refine ⟨Question.encodable_of_all (Writer.faithful_empty.append m.header) ht, ?_⟩
  rw [ofOctets, hread]
  rfl

end Message

end DomainLocator.Dns
