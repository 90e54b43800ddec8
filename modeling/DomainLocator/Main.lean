import DomainLocator.CommandLine
import DomainLocator.Service.Exchange
import DomainLocator.Service.Setup

/-! Datagrams come in on the standard input, one a line: the word `dns` or `ldap` and the octets in hexadecimal
digits. The answer to each goes to the standard output. -/

open DomainLocator DomainLocator.Service

namespace DomainLocator.Main

def usage : String :=
  "usage: [ADDRESS] [-r REALM | --realm REALM] [--dns-port PORT] [--ldap-port PORT] [--continue-on-error] [-h | --help]"

def complaint : UsageError → String
  | .unknownArgument => "unexpected argument"
  | .missingValue => "a value is required"
  | .badValue => "invalid value"
  | .unneededValue => "unexpected value"
  | .repeated => "an argument cannot be used twice"
  | .help => "help"

def answerText : Exchange → String
  | .notRunning => "not running"
  | .unsent fault => fault.text
  | .reply octets => Text.Hex.ofOctets octets
  | .lost => "no answer"
  | .noReply => "no reply"
  | .stopped => "stopped"

def peer : Address.Socket := ⟨.v4 .localhost, 0⟩

def streams : Network where
  bind _ := .ok ()
  request _ _ datagram := (Network.fits datagram).map fun () => .delivered
  reply := Network.fits

def answerLine (c : Config) (servers : Servers) (line : String) : Servers × String :=
  match Text.Separated.split ' ' line.trimAscii.toString with
  | [server, digits] =>
    match server, Text.Hex.toOctets? digits with
    | "dns", some octets =>
      let (dns, e) := servers.dns.exchange streams peer c.dnsSocket octets
      ({ servers with dns }, answerText e)
    | "ldap", some octets =>
      let (ldap, e) := servers.ldap.exchange streams peer c.ldapSocket octets
      ({ servers with ldap }, answerText e)
    | _, _ => (servers, "not a datagram")
  | _ => (servers, "not a datagram")

partial def serve (c : Config) (servers : Servers) : IO (Except RunError Unit) := do
  let line ← (← IO.getStdin).getLine
  let signal := if line.isEmpty then Signal.received else Signal.pending
  let (servers, text) := if line.isEmpty then (servers, "") else answerLine c servers line
  unless line.isEmpty do
    IO.println text
  match servers.serveUntil? signal with
  | some (_, outcome) => return outcome
  | none => serve c servers

def run (c : Config) : IO UInt32 := do
  let random ← IO.getRandomBytes 16
  match c.servers (.ofRandom random.data.toList) with
  | .error e =>
    IO.eprintln e.message
    return 1
  | .ok servers =>
    let (dns, dnsStarted) := servers.dns.startAt streams c.dnsSocket
    let (ldap, ldapStarted) := servers.ldap.startAt streams c.ldapSocket
    match dnsStarted, ldapStarted with
    | .ok (), .ok () =>
      match ← serve c ⟨dns, ldap⟩ with
      | .ok () => return 0
      | .error e =>
        IO.eprintln e.message
        return 1
    | .error e, _ =>
      IO.eprintln ("failed to bind DNS on " ++ c.dnsSocket.toText ++ ": " ++ e.message)
      return 1
    | _, .error e =>
      IO.eprintln ("failed to bind CLDAP on " ++ c.ldapSocket.toText ++ ": " ++ e.message)
      return 1

end DomainLocator.Main

def main (args : List String) : IO UInt32 := do
  match CommandLine.ofArgs args with
  | .ok line => DomainLocator.Main.run line.config
  | .error .help =>
    IO.println DomainLocator.Main.usage
    return 0
  | .error e =>
    IO.eprintln ("error: " ++ DomainLocator.Main.complaint e)
    IO.eprintln DomainLocator.Main.usage
    return 2
