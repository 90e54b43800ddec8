import DomainLocator.Config
import DomainLocator.ServiceError

/-! A server of datagrams, as it stands between two events. How its loop ended stays with the task until somebody is
told of it, or the server starts again. -/

namespace DomainLocator.Service

abbrev Handler := Octets → Except ServiceError Octets

abbrev Outcome := Except ServiceError Unit

inductive Task where
  | running
  | ended (outcome : Outcome)

def Task.cancel : Task → Outcome
  | .running => .ok ()
  | .ended outcome => outcome

inductive State where
  | stopped
  | running
  | stopping
  deriving DecidableEq, Repr

structure Server where
  handler : Handler
  policy : ErrorPolicy := .abort
  state : State := .stopped
  task : Option Task := none

inductive Event where
  | datagram (peer : Address.Socket) (octets : Octets) (send : Octets → Except IoFault Unit)
  | fault (fault : IoFault)
  | closed

structure Reply where
  peer : Address.Socket
  octets : Octets
  deriving DecidableEq, Repr

namespace Server

def start (bound : Except IoFault Unit) (s : Server) : Server × Outcome :=
  match s.task, bound with
  | some .running, _ => (s, .error .alreadyRunning)
  | _, .error fault => (s, .error (.io fault))
  | _, .ok () => ({ s with state := .running, task := some .running }, .ok ())

def cancel (s : Server) : Server :=
  match s.task with
  | some .running => { s with state := .stopping }
  | _ => s

def join (s : Server) : Server × Outcome :=
  match s.task with
  | none => (s, .ok ())
  | some task => ({ s with state := .stopped, task := none }, task.cancel)

def stop (s : Server) : Server × Outcome :=
  s.cancel.join

def wait (s : Server) : Server × Option Outcome :=
  match s.task with
  | none => (s, some (.ok ()))
  | some .running => (s, none)
  | some (.ended outcome) => ({ s with task := none }, some outcome)

def finish (s : Server) (outcome : Outcome) : Server :=
  { s with state := .stopped, task := some (.ended outcome) }

def fail (s : Server) (e : ServiceError) : Server :=
  match s.policy with
  | .abort => s.finish (.error e)
  | .proceed => s

def answer (s : Server) (peer : Address.Socket) (octets : Octets) (send : Octets → Except IoFault Unit) :
    Server × Option Reply :=
  -- An empty datagram makes no frame, so the handler never sees it.
  if octets = [] then (s, none)
  else
    match s.handler octets with
    | .error e => (s.fail e, none)
    | .ok reply =>
      match send reply with
      | .ok () => (s, some ⟨peer, reply⟩)
      | .error fault => if fault.isPeerReset then (s, none) else (s.fail (.io fault), none)

def step (s : Server) (event : Event) : Server × Option Reply :=
  match s.task, event with
  | some .running, .datagram peer octets send => s.answer peer octets send
  | some .running, .fault fault => if fault.isPeerReset then (s, none) else (s.finish (.error (.io fault)), none)
  | some .running, .closed => (s.finish (.ok ()), none)
  | _, _ => (s, none)

def run (s : Server) : List Event → Server × List Reply
  | [] => (s, [])
  | event :: events =>
    let (s, reply) := s.step event
    let (s, replies) := s.run events
    (s, reply.toList ++ replies)

end Server

end DomainLocator.Service
