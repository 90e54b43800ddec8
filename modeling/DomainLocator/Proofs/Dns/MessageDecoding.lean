import DomainLocator.Proofs.Dns.MessageRoundTrip
import DomainLocator.Proofs.Dns.NameEncoding

namespace DomainLocator

def WireError.OfReading : WireError → Prop
  | .malformedName _ _ => True
  | .truncated _ => True
  | .unsupportedRecordType _ => True
  | _ => False

lemma Text.Utf8.decodeLossy_ne_empty {bs : Octets} (h : bs ≠ []) : decodeLossy bs ≠ "" := by
  cases bs with
  | nil => exact (h rfl).elim
  | cons b bs =>
    intro he
    have hl : (decodeLossy (b :: bs)).toList = [] := by rw [he, String.toList_empty]
    simp [decodeLossy, scan_cons] at hl

namespace Dns

structure Yields {α : Type} (x : Except WireError α) (post : α → Prop) : Prop where
  ok : ∀ a, x = .ok a → post a
  error : ∀ e, x = .error e → e.OfReading

namespace Yields

variable {α β : Type} {x : Except WireError α} {f : α → Except WireError β} {post : α → Prop} {next : β → Prop}

lemma pure {a : α} (h : post a) : Yields (.ok a) post := by
  refine ⟨?_, fun _ => nofun⟩
  intro b hb
  cases hb
  exact h

lemma stop {e : WireError} (h : e.OfReading) : Yields (.error e) post := by
  refine ⟨fun _ => nofun, ?_⟩
  intro e' he
  cases he
  exact h

lemma bind (hx : Yields x post) (hf : ∀ a, post a → Yields (f a) next) : Yields (x >>= f) next := by
  cases h : x with
  | ok a => exact hf a (hx.ok a h)
  | error e => exact .stop (hx.error e h)

lemma map {f : α → β} (hx : Yields x fun a => next (f a)) : Yields (x.map f) next := by
  cases h : x with
  | ok a => exact .pure (hx.ok a h)
  | error e => exact .stop (hx.error e h)

lemma field (buf : Buffer) (width pos : Nat) : Yields (buf.field width pos) fun _ => True := by
  rw [Buffer.field]
  split
  · exact .pure trivial
  · exact .stop trivial

lemma word16 (buf : Buffer) (pos : Nat) : Yields (buf.word16 pos) fun _ => True :=
  .bind (.field buf 2 pos) fun _ _ => .pure trivial

lemma word32 (buf : Buffer) (pos : Nat) : Yields (buf.word32 pos) fun _ => True :=
  .bind (.field buf 4 pos) fun _ _ => .pure trivial

lemma many (post : α → Prop) {read : Nat → Except WireError (α × Nat)} (h : ∀ pos, Yields (read pos) fun found => post found.1)
    (count pos : Nat) : Yields (Buffer.many read count pos) fun found =>
      found.1.length = count ∧ ∀ value ∈ found.1, post value := by
  induction count generalizing pos with
  | zero => exact .pure (by simp)
  | succ count ih =>
    rw [Buffer.many_succ]
    refine .bind (h pos) ?_
    rintro ⟨value, pos⟩ hvalue
    refine .bind (ih pos) ?_
    rintro ⟨values, past⟩ ⟨hlength, hvalues⟩
    exact .pure ⟨congrArg (· + 1) hlength, List.forall_mem_cons.mpr ⟨hvalue, hvalues⟩⟩

end Yields

namespace Name

lemma canonical_eq_self {n : Name} (h : "" ∉ n.labels) : n.canonical = n := by
  rw [canonical, dropRoot_eq_self h]

lemma ofReading_partAt {buf : Buffer} {pos : Nat} {e : WireError} (h : partAt buf pos = .error e) : e.OfReading := by
  rw [partAt] at h
  grind [WireError.OfReading]

lemma ofReading_walk {buf : Buffer} {seen : Std.TreeSet Nat} {past : Option Nat} {done : List String} {pos : Nat}
    {e : WireError} (h : walk buf seen past done pos = .error e) : e.OfReading := by
  fun_induction walk buf seen past done pos with
  | case1 _ _ _ _ _ hp =>
    cases h
    exact ofReading_partAt hp
  | case2 => contradiction
  | case3 _ _ _ _ _ _ ih => exact ih h
  | case4 =>
    cases h
    trivial
  | case5 _ _ _ _ _ _ _ _ ih => exact ih h
  | case6 =>
    cases h
    trivial

lemma Spells.empty_not_mem {bs : Array UInt8} {pos past : Nat} {labels : List Octets} (hs : Spells bs pos labels past) :
    "" ∉ labels.map Text.Utf8.decodeLossy := by
  intro hm
  obtain ⟨octets, ho, he⟩ := List.mem_map.mp hm
  have hpos := (hs.length_label octets ho).1
  exact Text.Utf8.decodeLossy_ne_empty (List.length_pos_iff.mp hpos) he

lemma decode_yields (buf : Buffer) (pos : Nat) : Yields (decode buf pos) fun found => "" ∉ found.1.labels := by
  refine ⟨?_, fun e he => ofReading_walk he⟩
  rintro ⟨n, past⟩ h
  obtain ⟨labels, hs, rfl⟩ := decode_spells h
  exact hs.empty_not_mem

end Name

lemma RecordType.canonical_ofCode (code : UInt16) : (ofCode code).canonical = ofCode code := by
  rw [← ofCode_code_eq, code_ofCode]

lemma RecordClass.canonical_ofCode (code : UInt16) : (ofCode code).canonical = ofCode code := by
  rw [← ofCode_code_eq, code_ofCode]

structure Question.Decoded (q : Question) : Prop where
  canonical : q.canonical = q
  labels : "" ∉ q.name.labels

lemma Question.read_yields (buf : Buffer) (pos : Nat) : Yields (Question.read buf pos) fun found =>
    found.1.Decoded := by
  refine .bind (Name.decode_yields buf pos) ?_
  rintro ⟨name, pos⟩ hname
  refine .bind (.word16 buf pos) ?_
  rintro ⟨type, pos⟩ -
  refine .bind (.word16 buf pos) ?_
  rintro ⟨recordClass, pos⟩ -
  refine .pure ⟨?_, hname⟩
  simp only [Question.canonical, Name.canonical_eq_self hname, RecordType.canonical_ofCode, RecordClass.canonical_ofCode]

lemma Soa.read_yields (buf : Buffer) (pos : Nat) : Yields (Soa.read buf pos) fun s => s.canonical = s := by
  refine .bind (Name.decode_yields buf pos) ?_
  rintro ⟨primary, pos⟩ hprimary
  refine .bind (Name.decode_yields buf pos) ?_
  rintro ⟨mailbox, pos⟩ hmailbox
  refine .bind (.word32 buf pos) fun _ _ => .bind (.word32 ..) fun _ _ => .bind (.word32 ..) fun _ _ =>
    .bind (.word32 ..) fun _ _ => .bind (.word32 ..) fun _ _ => .pure ?_
  simp only [Soa.canonical, Name.canonical_eq_self hprimary, Name.canonical_eq_self hmailbox]

lemma Srv.read_yields (buf : Buffer) (pos : Nat) : Yields (Srv.read buf pos) fun s => s.canonical = s := by
  refine .bind (.word16 buf pos) fun _ _ => .bind (.word16 ..) fun _ _ => .bind (.word16 ..) fun _ _ =>
    .bind (Name.decode_yields ..) ?_
  rintro ⟨target, pos⟩ htarget
  refine .pure ?_
  simp only [Srv.canonical, Name.canonical_eq_self htarget]

lemma RecordData.read_yields (type : RecordType) (buf : Buffer) (pos : Nat) :
    Yields (RecordData.read type buf pos) fun d => d.canonical = d := by
  cases type with
  | a => exact .bind (.field buf 4 pos) fun _ _ => .pure rfl
  | aaaa => exact .bind (.field buf 16 pos) fun _ _ => .pure rfl
  | soa => exact .bind (Soa.read_yields buf pos) fun s hs => .pure (congrArg RecordData.soa hs)
  | srv => exact .bind (Srv.read_yields buf pos) fun s hs => .pure (congrArg RecordData.srv hs)
  | _ => exact .stop trivial

lemma Record.read_yields (buf : Buffer) (pos : Nat) : Yields (Record.read buf pos) fun found =>
    found.1.canonical = found.1 := by
  refine .bind (Name.decode_yields buf pos) ?_
  rintro ⟨name, pos⟩ hname
  refine .bind (.word16 buf pos) ?_
  rintro ⟨type, pos⟩ -
  refine .bind (.word16 buf pos) ?_
  rintro ⟨recordClass, pos⟩ -
  refine .bind (.word32 buf pos) ?_
  rintro ⟨ttl, pos⟩ -
  refine .bind (.word16 buf pos) ?_
  rintro ⟨size, pos⟩ -
  dsimp only
  split
  · exact .stop trivial
  refine .bind (RecordData.read_yields ..) ?_
  intro data hdata
  refine .pure ?_
  simp only [Record.canonical, Name.canonical_eq_self hname, hdata, RecordClass.canonical_ofCode]

namespace Message

structure Decoded (m : Message) : Prop where
  countable : m.Countable
  canonical : m.canonical = m
  questions : ∀ q ∈ m.questions, q.Decoded

lemma read_yields (buf : Buffer) : Yields (read buf) fun found => found.1.Decoded := by
  have hcount : ∀ count : UInt16, count.toNat ≤ 0xffff := fun count => Nat.le_of_lt_succ count.toNat_lt
  refine .bind (.word16 buf 0) ?_
  rintro ⟨id, pos⟩ -
  refine .bind (.word16 buf pos) ?_
  rintro ⟨flags, pos⟩ -
  refine .bind (.word16 buf pos) ?_
  rintro ⟨questionCount, pos⟩ -
  refine .bind (.word16 buf pos) ?_
  rintro ⟨answerCount, pos⟩ -
  refine .bind (.word16 buf pos) ?_
  rintro ⟨nameServerCount, pos⟩ -
  refine .bind (.word16 buf pos) ?_
  rintro ⟨additionalCount, pos⟩ -
  refine .bind (.many Question.Decoded (Question.read_yields buf) questionCount.toNat pos) ?_
  rintro ⟨questions, pos⟩ ⟨hquestionCount, hquestions⟩
  refine .bind (.many (fun r => r.canonical = r) (Record.read_yields buf) answerCount.toNat pos) ?_
  rintro ⟨answers, pos⟩ ⟨hanswerCount, hanswers⟩
  refine .bind (.many (fun r => r.canonical = r) (Record.read_yields buf) nameServerCount.toNat pos) ?_
  rintro ⟨nameServers, pos⟩ ⟨hnameServerCount, hnameServers⟩
  refine .bind (.many (fun r => r.canonical = r) (Record.read_yields buf) additionalCount.toNat pos) ?_
  rintro ⟨additional, pos⟩ ⟨hadditionalCount, hadditional⟩
  refine .pure ⟨⟨hquestionCount ▸ hcount _, hanswerCount ▸ hcount _, hnameServerCount ▸ hcount _,
    hadditionalCount ▸ hcount _⟩, ?_, hquestions⟩
  simp only [canonical, List.map_congr_left fun q hq => (hquestions q hq).canonical, List.map_congr_left hanswers,
    List.map_congr_left hnameServers, List.map_congr_left hadditional, List.map_id']

lemma ofOctets_yields (bs : Octets) : Yields (ofOctets bs) Decoded :=
  .map (read_yields (Buffer.ofOctets bs))

end Message

end Dns

end DomainLocator
