import DomainLocator.Dns.Response
import DomainLocator.Zone

/-! Answers to DNS requests. A request of which no question is answered gets a name error and the zone's start of
authority. -/

namespace DomainLocator.Zone

open Dns (Question Record Message)

def answer? (z : Zone) (q : Question) : Option Record :=
  match q.type with
  | .a => z.host? q.name
  | .srv => z.service? q.name
  | _ => none

def answers (z : Zone) (questions : List Question) : List Record :=
  questions.filterMap z.answer?

def respond (z : Zone) (request : Message) : Message :=
  let response := Message.responseTo request
  match z.answers request.questions with
  | [] => (response.withRcode .nameError).addNameServer z.soa
  | answers => { response with answers }

def answerDatagram (z : Zone) (datagram : Octets) : Except ServiceError Octets :=
  match Message.ofOctets datagram with
  | .error e => .error (.wire e)
  | .ok request => ((z.respond request).toOctets).mapError .wire

end DomainLocator.Zone
