import DomainLocator.Proofs.Dns.MessageEncoding

/-! A message is written in full, or writing stops at its first fault. What is a fault is said of the message alone,
but for the length of a record's data: this depends on the names that were written before it. -/

namespace DomainLocator.Dns

variable {w w' : Writer}

lemma findSome?_cons_eq_or {α β : Type} (f : α → Option β) (a : α) (as : List α) :
    (a :: as).findSome? f = (f a).or (as.findSome? f) := by
  rw [List.findSome?_cons]
  cases f a <;> rfl

lemma forall_split_cons {α : Type} {a : α} {as : List α} {P : List α → α → Prop} :
    (∀ first x after, a :: as = first ++ x :: after → P first x) ↔
      P [] a ∧ ∀ first x after, as = first ++ x :: after → P (a :: first) x := by
  constructor
  · intro h
    exact ⟨h [] a as rfl, fun first x after hs => h (a :: first) x after (congrArg (a :: ·) hs)⟩
  · rintro ⟨ha, h⟩ first x after hs
    cases first with
    | nil =>
      cases hs
      exact ha
    | cons b first =>
      obtain ⟨rfl, hrest⟩ := List.cons.inj hs
      exact h first x after hrest

def StopsAt {α : Type} (x : Except Interrupted α) (fault : Option WireError) : Prop :=
  match x with
  | .ok _ => fault = none
  | .error stop => fault = some stop.cause

namespace StopsAt

variable {α β : Type} {x : Except Interrupted α} {next : α → Except Interrupted β} {fault fault' : Option WireError}

lemma bind (hx : StopsAt x fault) (hn : ∀ a, x = .ok a → StopsAt (next a) fault') :
    StopsAt (x >>= next) (fault.or fault') := by
  cases x with
  | ok a =>
    have hf : fault = none := hx
    rw [hf, Option.none_or]
    exact hn a rfl
  | error stop =>
    have hf : fault = some stop.cause := hx
    rw [hf]
    rfl

lemma fault_eq_none (h : StopsAt x fault) : fault = none ↔ ∃ a, x = .ok a := by
  cases x with
  | ok a => exact ⟨fun _ => ⟨a, rfl⟩, fun _ => h⟩
  | error stop =>
    have hf : fault = some stop.cause := h
    rw [hf]
    simp

lemma all {write : α → Writer → Except Interrupted Writer} {fault? : α → Option WireError} {values : List α}
    (hwrite : ∀ {v : Writer}, v.Faithful → ∀ a, StopsAt (write a v) (fault? a))
    (hkeeps : ∀ {v v' : Writer} {a : α}, v.Faithful → write a v = .ok v' → v'.Faithful) (hw : w.Faithful) :
    StopsAt (w.all write values) (values.findSome? fault?) := by
  induction values generalizing w with
  | nil => rfl
  | cons a values ih =>
    rw [findSome?_cons_eq_or]
    exact .bind (hwrite hw a) fun v hv => ih (hkeeps hw hv)

end StopsAt

def overflow? (n : Nat) : Option WireError :=
  if n ≤ 0xffff then none else some (.sectionOverflow n)

lemma overflow?_eq_none_iff {n : Nat} : overflow? n = none ↔ n ≤ 0xffff := by
  rw [overflow?]
  split <;> simp [*]

lemma Writer.stopsAt_count (w : Writer) (n : Nat) : StopsAt (w.count n) (overflow? n) := by
  rw [count, overflow?]
  split <;> rfl

namespace Name

variable {n : Name}

lemma stopsAt_write (hw : w.Faithful) (compress : Bool) (n : Name) : StopsAt (n.write compress w) n.fault? := by
  cases h : n.write compress w with
  | ok v => exact (encodable_of_write hw h).fault?_eq_none
  | error stop => exact write_eq_error h

lemma fault?_eq_none_iff : n.fault? = none ↔ n.Encodable := by
  constructor
  · intro h
    obtain ⟨w, hw⟩ := (stopsAt_write Writer.faithful_empty true n).fault_eq_none.mp h
    exact encodable_of_write Writer.faithful_empty hw
  · exact Encodable.fault?_eq_none

lemma findSome?_fault?_eq_none_iff {names : List Name} :
    names.findSome? fault? = none ↔ ∀ n ∈ names, n.Encodable := by
  simp only [List.findSome?_eq_none_iff, fault?_eq_none_iff]

end Name

lemma Question.stopsAt_write (hw : w.Faithful) (q : Question) : StopsAt (q.write w) q.name.fault? := by
  rw [← Option.or_none (o := q.name.fault?)]
  exact .bind (Name.stopsAt_write hw true q.name) fun _ _ => rfl

lemma RecordData.stopsAt_write (hw : w.Faithful) (d : RecordData) :
    StopsAt (d.write w) (d.names.findSome? Name.fault?) := by
  cases d with
  | a addr => rfl
  | aaaa addr => rfl
  | soa s =>
    rw [names, findSome?_cons_eq_or, findSome?_cons_eq_or]
    refine .bind (Name.stopsAt_write hw true s.primary) fun u hu => ?_
    exact .bind (Name.stopsAt_write (hw.name hu).faithful true s.mailbox) fun _ _ => rfl
  | srv s =>
    rw [names, findSome?_cons_eq_or, List.findSome?_nil, Option.or_none]
    exact Name.stopsAt_write (((hw.append _).append _).append _) false s.target

namespace Record

def names (r : Record) : List Name :=
  r.name :: r.data.names

def begin (r : Record) (w : Writer) : Except Interrupted Writer := do
  let w ← r.name.write true w
  return (((w.word16 r.type.code).word16 r.recordClass.code).word32 r.ttl.toUInt32).append [0, 0]

def dataLength (r : Record) (w : Writer) : Except Interrupted Nat := do
  let start ← r.begin w
  let w ← r.data.write start
  return w.octets.size - start.octets.size

lemma dataLength_eq_ok {r : Record} {v : Writer} {length : Nat} (hv : r.begin w = .ok v) (hw : r.data.write v = .ok w')
    (hl : w'.octets.size - v.octets.size = length) : r.dataLength w = .ok length := by
  rw [dataLength, hv]
  exact bind_eq_ok_iff.mpr ⟨v, rfl, bind_eq_ok_iff.mpr ⟨w', hw, congrArg Except.ok hl⟩⟩

lemma stopsAt_write (hw : w.Faithful) (r : Record) : StopsAt (r.write w)
    ((r.names.findSome? Name.fault?).or ((r.dataLength w).toOption.bind overflow?)) := by
  -- The names come first: the length of the data is known only once it has been written.
  rw [names, findSome?_cons_eq_or, Option.or_assoc]
  refine .bind (Name.stopsAt_write hw true r.name) fun v hv => ?_
  have hbegin : r.begin w = .ok ((((v.word16 r.type.code).word16 r.recordClass.code).word32 r.ttl.toUInt32).append
      [0, 0]) := bind_eq_ok_iff.mpr ⟨v, hv, rfl⟩
  have hfaithful := ((((hw.name hv).faithful.append (Octets.bigEndian 2 r.type.code.toNat)).append
    (Octets.bigEndian 2 r.recordClass.code.toNat)).append (Octets.bigEndian 4 r.ttl.toUInt32.toNat)).append [0, 0]
  refine .bind (RecordData.stopsAt_write hfaithful r.data) fun w' hw' => ?_
  have hlength := dataLength_eq_ok hbegin hw' rfl
  rw [Writer.octets_append, size_append_octets, List.length_cons, List.length_singleton] at hlength
  rw [hlength]
  dsimp only [Except.toOption, Option.bind_some, overflow?]
  split <;> rfl

end Record

namespace Message

def names (m : Message) : List Name :=
  m.questions.map (·.name) ++ m.records.flatMap Record.names

def writeThrough (m : Message) (records : List Record) : Except Interrupted Writer := do
  let w ← (({} : Writer).append m.header).all Question.write m.questions
  w.all Record.write records

def dataLength? (m : Message) (before : List Record) (r : Record) : Option Nat :=
  (m.writeThrough before >>= r.dataLength).toOption

def DataFits (m : Message) : Prop :=
  ∀ before r after, m.records = before ++ r :: after → ∀ length, m.dataLength? before r = some length → length ≤ 0xffff

def recordsFault? (m : Message) (before : List Record) : List Record → Option WireError
  | [] => none
  | r :: after =>
    (r.names.findSome? Name.fault?).or ((m.dataLength? before r).bind overflow?) |>.or
      (m.recordsFault? (before ++ [r]) after)

/-- The first fault in the order of writing: of the four counts, of the questions, of the records. -/
def fault? (m : Message) : Option WireError :=
  ([m.questions.length, m.answers.length, m.nameServers.length, m.additional.length].findSome? overflow?).or
    ((m.questions.findSome? (·.name.fault?)).or (m.recordsFault? [] m.records))

variable {m : Message} {before records : List Record} {cause : WireError}

lemma writeThrough_concat {r : Record} (hw : m.writeThrough before = .ok w) (hr : r.write w = .ok w') :
    m.writeThrough (before ++ [r]) = .ok w' := by
  obtain ⟨t, ht, hw⟩ := bind_eq_ok_iff.mp hw
  rw [writeThrough, ht]
  change t.all Record.write (before ++ [r]) = .ok w'
  rw [Writer.all, List.foldlM_append]
  exact bind_eq_ok_iff.mpr ⟨w, hw, bind_eq_ok_iff.mpr ⟨w', hr, rfl⟩⟩

lemma stopsAt_records (hf : w.Faithful) (hw : m.writeThrough before = .ok w) :
    StopsAt (w.all Record.write records) (m.recordsFault? before records) := by
  induction records generalizing before w with
  | nil => rfl
  | cons r records ih =>
    have hlength : m.dataLength? before r = (r.dataLength w).toOption := by
      rw [dataLength?, hw]
      rfl
    rw [recordsFault?, hlength]
    refine .bind (Record.stopsAt_write hf r) fun v hv => ?_
    exact ih (Record.roundTrip hf hv).faithful (writeThrough_concat hw hv)

lemma stopsAt_body (m : Message) : StopsAt (m.writeThrough m.records)
    ((m.questions.findSome? (·.name.fault?)).or (m.recordsFault? [] m.records)) := by
  have hheader := Writer.faithful_empty.append m.header
  have hkeeps : ∀ {v v' : Writer} {q : Question}, v.Faithful → q.write v = .ok v' → v'.Faithful :=
    fun hv hq => (Question.roundTrip hv hq).faithful
  refine .bind (.all Question.stopsAt_write hkeeps hheader) fun t ht => ?_
  refine stopsAt_records (Question.roundTrip_all hheader ht).faithful ?_
  rw [writeThrough, ht]
  rfl

lemma stopsAt_write (m : Message) : StopsAt (m.write {}) m.fault? := by
  have hcounts : m.fault? = (overflow? m.questions.length).or ((overflow? m.answers.length).or
      ((overflow? m.nameServers.length).or ((overflow? m.additional.length).or
        ((m.questions.findSome? (·.name.fault?)).or (m.recordsFault? [] m.records))))) := by
    simp only [fault?, findSome?_cons_eq_or, List.findSome?_nil, Option.or_none, Option.or_assoc]
  rw [hcounts, write]
  refine .bind (Writer.stopsAt_count ..) fun w₁ h₁ => .bind (Writer.stopsAt_count ..) fun w₂ h₂ =>
    .bind (Writer.stopsAt_count ..) fun w₃ h₃ => .bind (Writer.stopsAt_count ..) fun w₄ h₄ => ?_
  obtain ⟨-, rfl⟩ := Writer.count_eq_ok h₁
  obtain ⟨-, rfl⟩ := Writer.count_eq_ok h₂
  obtain ⟨-, rfl⟩ := Writer.count_eq_ok h₃
  obtain ⟨-, rfl⟩ := Writer.count_eq_ok h₄
  rw [append_header]
  exact stopsAt_body m

lemma countable_iff : m.Countable ↔
    [m.questions.length, m.answers.length, m.nameServers.length, m.additional.length].findSome? overflow? = none := by
  simp only [List.findSome?_eq_none_iff, List.forall_mem_cons, overflow?_eq_none_iff, List.not_mem_nil, false_implies,
    implies_true, and_true]
  exact ⟨fun h => ⟨h.questions, h.answers, h.nameServers, h.additional⟩,
    fun ⟨hq, ha, hn, hr⟩ => ⟨hq, ha, hn, hr⟩⟩

lemma recordsFault?_eq_none_iff : m.recordsFault? before records = none ↔
    (∀ r ∈ records, ∀ n ∈ r.names, n.Encodable) ∧ ∀ first r after, records = first ++ r :: after →
      ∀ length, m.dataLength? (before ++ first) r = some length → length ≤ 0xffff := by
  induction records generalizing before with
  | nil => simp [recordsFault?]
  | cons r records ih =>
    have hlength : (m.dataLength? before r).bind overflow? = none ↔
        ∀ length, m.dataLength? (before ++ []) r = some length → length ≤ 0xffff := by
      simp only [Option.bind_eq_none_iff, overflow?_eq_none_iff, List.append_nil]
    have hbefore : ∀ first, before ++ [r] ++ first = before ++ r :: first := fun first => List.append_assoc ..
    rw [recordsFault?, Option.or_eq_none_iff, Option.or_eq_none_iff, Name.findSome?_fault?_eq_none_iff, hlength, ih,
      List.forall_mem_cons, forall_split_cons]
    simp only [hbefore]
    exact and_and_and_comm

lemma fault?_eq_none_iff : m.fault? = none ↔ m.Countable ∧ (∀ n ∈ m.names, n.Encodable) ∧ m.DataFits := by
  rw [fault?, Option.or_eq_none_iff, Option.or_eq_none_iff, ← countable_iff, recordsFault?_eq_none_iff]
  simp only [DataFits, List.findSome?_eq_none_iff, Name.fault?_eq_none_iff, names, List.forall_mem_append, List.forall_mem_map,
    List.forall_mem_flatMap, List.nil_append, and_assoc]

lemma overflow?_eq_some {n : Nat} (h : overflow? n = some cause) : 0xffff < n ∧ cause = .sectionOverflow n := by
  rw [overflow?] at h
  split at h
  · contradiction
  · cases h
    exact ⟨Nat.lt_of_not_le ‹_›, rfl⟩

def DataOverflows (m : Message) (cause : WireError) : Prop :=
  ∃ before r after length, m.records = before ++ r :: after ∧ m.dataLength? before r = some length ∧
    0xffff < length ∧ cause = .sectionOverflow length

lemma recordsFault?_eq_some (hs : m.records = before ++ records) (h : m.recordsFault? before records = some cause) :
    (∃ r ∈ records, ∃ n ∈ r.names, n.fault? = some cause) ∨ m.DataOverflows cause := by
  induction records generalizing before with
  | nil => contradiction
  | cons r records ih =>
    rw [recordsFault?, Option.or_eq_some_iff, Option.or_eq_some_iff] at h
    rcases h with (hname | ⟨-, hdata⟩) | ⟨-, h⟩
    · obtain ⟨n, hn, hf⟩ := List.exists_of_findSome?_eq_some hname
      exact .inl ⟨r, List.mem_cons_self, n, hn, hf⟩
    · obtain ⟨length, hl, hf⟩ := Option.bind_eq_some_iff.mp hdata
      obtain ⟨hlong, hc⟩ := overflow?_eq_some hf
      exact .inr ⟨before, r, records, length, hs, hl, hlong, hc⟩
    · rcases ih (hs.trans (List.append_assoc before [r] records).symm) h with ⟨r', hr', hn⟩ | ho
      · exact .inl ⟨r', .tail _ hr', hn⟩
      · exact .inr ho

lemma fault?_eq_some (hc : m.Countable) (h : m.fault? = some cause) :
    (∃ n ∈ m.names, n.fault? = some cause) ∨ m.DataOverflows cause := by
  rw [fault?, countable_iff.mp hc, Option.none_or, Option.or_eq_some_iff] at h
  rcases h with hname | ⟨-, h⟩
  · obtain ⟨q, hq, hf⟩ := List.exists_of_findSome?_eq_some hname
    exact .inl ⟨q.name, List.mem_append_left _ (List.mem_map_of_mem hq), hf⟩
  · have hs : m.records = [] ++ m.records := rfl
    rcases recordsFault?_eq_some hs h with ⟨r, hr, n, hn, hf⟩ | ho
    · exact .inl ⟨n, List.mem_append_right _ (List.mem_flatMap.mpr ⟨r, hr, hn⟩), hf⟩
    · exact .inr ho

lemma toOctets_eq_error_iff : m.toOctets = .error cause ↔ m.fault? = some cause := by
  have h := m.stopsAt_write
  rw [toOctets]
  cases hw : m.write {} with
  | ok w =>
    rw [hw] at h
    have hf : m.fault? = none := h
    simp [hf]
  | error stop =>
    rw [hw] at h
    have hf : m.fault? = some stop.cause := h
    simp [hf]

end Message

end DomainLocator.Dns
