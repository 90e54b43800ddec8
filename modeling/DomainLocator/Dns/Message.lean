import DomainLocator.Dns.Flags
import DomainLocator.Dns.Question
import DomainLocator.Dns.Record

namespace DomainLocator.Dns

structure Message where
  id : Int16 := 0
  flags : Flags := ⟨0⟩
  questions : List Question := []
  answers : List Record := []
  nameServers : List Record := []
  additional : List Record := []
  deriving DecidableEq, Repr

namespace Message

def read (buf : Buffer) : Except WireError (Message × Nat) := do
  let (id, pos) ← buf.word16 0
  let (flags, pos) ← buf.word16 pos
  let (questionCount, pos) ← buf.word16 pos
  let (answerCount, pos) ← buf.word16 pos
  let (nameServerCount, pos) ← buf.word16 pos
  let (additionalCount, pos) ← buf.word16 pos
  let (questions, pos) ← Buffer.many (Question.read buf) questionCount.toNat pos
  let (answers, pos) ← Buffer.many (Record.read buf) answerCount.toNat pos
  let (nameServers, pos) ← Buffer.many (Record.read buf) nameServerCount.toNat pos
  let (additional, pos) ← Buffer.many (Record.read buf) additionalCount.toNat pos
  return (⟨id.toInt16, ⟨flags⟩, questions, answers, nameServers, additional⟩, pos)

def ofOctets (bs : Octets) : Except WireError Message :=
  (read (Buffer.ofOctets bs)).map (·.1)

def records (m : Message) : List Record :=
  m.answers ++ m.nameServers ++ m.additional

def write (m : Message) (w : Writer) : Except Interrupted Writer := do
  let w := (w.word16 m.id.toUInt16).word16 m.flags.bits
  let w ← w.count m.questions.length
  let w ← w.count m.answers.length
  let w ← w.count m.nameServers.length
  let w ← w.count m.additional.length
  let w ← w.all Question.write m.questions
  w.all Record.write m.records

def writeCounted (m : Message) (w : Writer) : Except Interrupted (Nat × Writer) := do
  let w := (w.word16 m.id.toUInt16).word16 m.flags.bits
  let w ← w.count m.questions.length
  let w ← w.count m.answers.length
  let w ← w.count m.nameServers.length
  let w ← w.count m.additional.length
  let (count, w) ← w.tally Question.writeCounted 12 m.questions
  w.tally (fun r w => w.counted r.write) count m.records

def toOctets (m : Message) : Except WireError Octets :=
  match m.write {} with
  | .ok w => .ok w.octets.toList
  | .error stop => .error stop.cause

def toText (m : Message) : String :=
  s!"Message(id:{m.id.toInt}, flags:" ++ m.flags.toText ++ ") - Query [" ++
    String.intercalate ", " (m.questions.map Question.toText) ++ "]" ++
    if m.flags.isResponse then
      " - Response [" ++ String.intercalate ", " (m.records.map Record.toText) ++ "]"
    else ""

end Message

end DomainLocator.Dns
