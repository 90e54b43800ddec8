import DomainLocator.Dns.Message

namespace DomainLocator.Dns.Message

def responseTo (request : Message) : Message :=
  { id := request.id, flags := .response, questions := request.questions }

def withRcode (m : Message) (r : Rcode) : Message :=
  { m with flags := m.flags.withRcode r }

def addQuestion (m : Message) (q : Question) : Message :=
  { m with questions := m.questions ++ [q] }

def addAnswer (m : Message) (r : Record) : Message :=
  { m with answers := m.answers ++ [r] }

def addNameServer (m : Message) (r : Record) : Message :=
  { m with nameServers := m.nameServers ++ [r] }

def addAdditional (m : Message) (r : Record) : Message :=
  { m with additional := m.additional ++ [r] }

end DomainLocator.Dns.Message
