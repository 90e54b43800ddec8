import DomainLocator.Proofs.Dns.MessageEncoding
import DomainLocator.Proofs.Dns.NameSharing

/-! How a message lies in its octets: the header, then each entry where the one before it ends, and in each record the
length of its data in front of the data. What stood in the buffer before is left as it was. -/

namespace DomainLocator.Dns

variable {w w' : Writer} {bs cs : Array UInt8} {pos past : Nat}

inductive Row {α : Type} (StandsAt : Nat → α → Nat → Prop) : Nat → List α → Nat → Prop
  | nil {pos : Nat} : Row StandsAt pos [] pos
  | cons {a : α} {as : List α} {pos mid past : Nat} :
      StandsAt pos a mid → Row StandsAt mid as past → Row StandsAt pos (a :: as) past

def Question.StandsAt (bs : Array UInt8) (pos : Nat) (q : Question) (past : Nat) : Prop :=
  ∃ mid, Name.Stands bs pos q.name.labels mid ∧
    HoldsAt bs mid (Octets.bigEndian 2 q.type.code.toNat ++ Octets.bigEndian 2 q.recordClass.code.toNat) ∧
    past = mid + 4

inductive RecordData.StandsAt (bs : Array UInt8) (pos : Nat) : RecordData → Nat → Prop
  | a {addr : Address.Ipv4} : HoldsAt bs pos addr.octets → StandsAt bs pos (.a addr) (pos + 4)
  | aaaa {addr : Address.Ipv6} : HoldsAt bs pos addr.octets → StandsAt bs pos (.aaaa addr) (pos + 16)
  | soa {s : Soa} {mid past : Nat} : Name.Stands bs pos s.primary.labels mid →
      Name.Stands bs mid s.mailbox.labels past →
      HoldsAt bs past (Octets.bigEndian 4 s.serial.toNat ++ (Octets.bigEndian 4 s.refresh.toNat ++
        (Octets.bigEndian 4 s.retry.toNat ++ (Octets.bigEndian 4 s.expire.toNat ++
          Octets.bigEndian 4 s.minimum.toNat)))) →
      StandsAt bs pos (.soa s) (past + 20)
  | srv {s : Srv} :
      HoldsAt bs pos (Octets.bigEndian 2 s.priority.toNat ++ (Octets.bigEndian 2 s.weight.toNat ++
        (Octets.bigEndian 2 s.port.toNat ++ Name.literalForm s.target.labels))) →
      StandsAt bs pos (.srv s) (pos + 6 + (Name.literalForm s.target.labels).length)

def Record.StandsAt (bs : Array UInt8) (pos : Nat) (r : Record) (past : Nat) : Prop :=
  ∃ mid length, Name.Stands bs pos r.name.labels mid ∧ length ≤ 0xffff ∧
    HoldsAt bs mid (Octets.bigEndian 2 r.type.code.toNat ++ (Octets.bigEndian 2 r.recordClass.code.toNat ++
      (Octets.bigEndian 4 r.ttl.toUInt32.toNat ++ Octets.bigEndian 2 length))) ∧
    r.data.StandsAt bs (mid + 10) past ∧ past = mid + 10 + length

structure Lays (StandsAt : Array UInt8 → Nat → Nat → Prop) (w w' : Writer) : Prop where
  faithful : w'.Faithful
  continues : Continues w.octets w'.octets
  stands : ∀ {bs : Array UInt8}, Continues w'.octets bs → StandsAt bs w.octets.size w'.octets.size

lemma Lays.row {α : Type} {write : α → Writer → Except Interrupted Writer}
    {StandsAt : Array UInt8 → Nat → α → Nat → Prop} {values : List α}
    (hwrite : ∀ a v v', v.Faithful → write a v = .ok v' → Lays (fun bs pos past => StandsAt bs pos a past) v v')
    (hw : w.Faithful) (h : w.all write values = .ok w') :
    Lays (fun bs pos past => Row (StandsAt bs) pos values past) w w' := by
  induction values generalizing w with
  | nil =>
    cases h
    exact ⟨hw, .refl _, fun _ => .nil⟩
  | cons a values ih =>
    obtain ⟨v, ha, h⟩ := bind_eq_ok_iff.mp h
    have hfirst := hwrite a w v hw ha
    have hrest := ih hfirst.faithful h
    refine ⟨hrest.faithful, .trans hfirst.continues hrest.continues, ?_⟩
    intro bs hc
    exact .cons (hfirst.stands (.trans hrest.continues hc)) (hrest.stands hc)

namespace RecordData

end RecordData

def Kept (w : Writer) : Except Interrupted Writer → Prop
  | .ok w' => Continues w.octets w'.octets
  | .error stop => Continues w.octets stop.written.octets

namespace Kept

variable {v : Writer} {x : Except Interrupted Writer} {next : Writer → Except Interrupted Writer}

lemma of_continues (hc : Continues w.octets v.octets) (h : Kept v x) : Kept w x := by
  cases x with
  | ok w' => exact .trans hc h
  | error stop => exact .trans hc h

lemma bind (h : Kept w x) (hn : ∀ v, Kept v (next v)) : Kept w (x >>= next) := by
  cases x with
  | ok v => exact of_continues h (hn v)
  | error stop => exact h

lemma append (w : Writer) (added : Octets) : Kept w (.ok (w.append added)) :=
  .append_octets ..

lemma all {α : Type} {write : α → Writer → Except Interrupted Writer} (hwrite : ∀ a v, Kept v (write a v)) (w : Writer)
    (values : List α) : Kept w (w.all write values) := by
  induction values generalizing w with
  | nil => exact .refl _
  | cons a values ih => exact .bind (hwrite a w) ih

end Kept

lemma Name.kept_writeLabels (n : Name) (compress : Bool) (labels : List String) (w : Writer) :
    Kept w (n.writeLabels compress labels w) := by
  induction labels generalizing w with
  | nil => exact .append w [0]
  | cons label rest ih =>
    have hknown : Kept w (n.writeLabels compress rest (w.append (literal label))) :=
      .of_continues (.append_octets ..) (ih _)
    have hfresh : Kept w (n.writeLabels compress rest ((w.note (label :: rest)).append (literal label))) := by
      refine .of_continues ?_ (ih _)
      rw [Writer.octets_append, Writer.octets_note]
      exact .append_octets ..
    rw [writeLabels]
    split
    · split
      · exact .append w [0]
      · exact Continues.refl _
    split
    · exact Continues.refl _
    split
    · split
      · exact .append w _
      · exact hknown
    · exact hfresh

lemma Name.kept_write (n : Name) (compress : Bool) (w : Writer) : Kept w (n.write compress w) :=
  n.kept_writeLabels compress n.labels w

lemma Question.kept_write (q : Question) (w : Writer) : Kept w (q.write w) := by
  refine .bind (q.name.kept_write true w) ?_
  intro v
  exact .trans (.append_octets ..) (.append_octets ..)

lemma RecordData.kept_write (d : RecordData) (w : Writer) : Kept w (d.write w) := by
  cases d with
  | a addr => exact .append w addr.octets
  | aaaa addr => exact .append w addr.octets
  | soa s =>
    refine .bind (s.primary.kept_write true w) fun u => .bind (s.mailbox.kept_write true u) fun v => ?_
    rw [Writer.word32_eq, Writer.word32_eq, Writer.word32_eq, Writer.word32_eq, Writer.word32_eq]
    simp only [Writer.append_append]
    exact .append v _
  | srv s =>
    rw [RecordData.write, Srv.write_eq]
    exact .of_continues (.append_octets ..) (s.target.kept_write false _)

lemma Record.kept_writeData (d : RecordData) (w : Writer) :
    Kept w (Record.writeData d w.octets.size (w.append [0, 0])) := by
  cases h : Record.writeData d w.octets.size (w.append [0, 0]) with
  | ok w' =>
    obtain ⟨length, -, hd, -⟩ := Record.writeData_eq_ok h
    have hkept := d.kept_write (w.append (Octets.bigEndian 2 length))
    rw [hd] at hkept
    exact .trans (.append_octets ..) hkept
  | error stop =>
    have hkept := d.kept_write (w.append [0, 0])
    rcases bind_eq_error_iff.mp h with hd | ⟨v, hd, h⟩
    · rw [hd] at hkept
      exact .trans (.append_octets ..) hkept
    · rw [hd] at hkept
      dsimp only at h
      split at h
      · contradiction
      · cases h
        exact .trans (.append_octets ..) hkept

lemma Record.kept_write (r : Record) (w : Writer) : Kept w (r.write w) := by
  refine .bind (r.name.kept_write true w) ?_
  intro v
  refine .of_continues ?_ (Record.kept_writeData r.data _)
  simp only [Writer.word16_eq, Writer.word32_eq, Writer.append_append]
  exact .append_octets ..

namespace Message

variable {m : Message}

def begin (m : Message) (w : Writer) : Except Interrupted Writer := do
  let w := (w.word16 m.id.toUInt16).word16 m.flags.bits
  let w ← w.count m.questions.length
  let w ← w.count m.answers.length
  let w ← w.count m.nameServers.length
  w.count m.additional.length

lemma write_eq_begin (m : Message) (w : Writer) : m.write w =
    m.begin w >>= fun w => w.all Question.write m.questions >>= fun w => w.all Record.write m.records := by
  simp only [write, begin, bind_assoc]

lemma length_header (m : Message) : m.header.length = 12 := by
  simp only [header, List.length_append, Octets.length_bigEndian]

lemma kept_count (w : Writer) (n : Nat) : Kept w (w.count n) := by
  rw [Writer.count]
  split
  · exact .append w _
  · exact Continues.refl _

lemma kept_begin (m : Message) (w : Writer) : Kept w (m.begin w) := by
  refine .of_continues (v := (w.word16 m.id.toUInt16).word16 m.flags.bits) ?_ ?_
  · exact .trans (.append_octets ..) (.append_octets ..)
  · exact .bind (kept_count ..) fun _ => .bind (kept_count ..) fun _ => .bind (kept_count ..) fun _ => kept_count ..

lemma kept_entries (m : Message) (w : Writer) :
    Kept w (w.all Question.write m.questions >>= fun v => v.all Record.write m.records) :=
  .bind (.all Question.kept_write w m.questions) fun v => .all Record.kept_write v m.records

lemma kept_write (m : Message) (w : Writer) : Kept w (m.write w) := by
  rw [write_eq_begin]
  exact .bind (m.kept_begin w) m.kept_entries

end Message

end DomainLocator.Dns
