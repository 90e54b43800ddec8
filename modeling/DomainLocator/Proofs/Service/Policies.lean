import DomainLocator.Proofs.Service.LifeCycle

/-! What a running server makes of datagrams, with the news of lost peers among them. A datagram that fails is the
last one of a server that stops on it, and leaves no trace in the replies of one that goes on. -/

namespace DomainLocator.Service

def metReset : Except IoFault Unit → Bool
  | .error fault => fault.isPeerReset
  | .ok () => false

namespace Event

variable {handler : Handler}

def IsTraffic : Event → Prop
  | .datagram _ octets _ => octets ≠ []
  | .fault cause => cause.isPeerReset
  | .closed => False

def cause? (handler : Handler) : Event → Option ServiceError
  | .datagram _ octets send => failure? handler octets send
  | _ => none

def reply? (handler : Handler) : Event → Option Reply
  | .datagram peer octets send =>
    match handler octets with
    | .ok reply => if failure? handler octets send = none ∧ ¬ metReset (send reply) then some ⟨peer, reply⟩ else none
    | .error _ => none
  | _ => none

end Event

namespace Server

variable {s : Server} {event : Event} {events : List Event}

lemma answer_eq_reply? (s : Server) (peer : Address.Socket) {octets : Octets} (ho : octets ≠ [])
    (send : Octets → Except IoFault Unit) :
    (s.answer peer octets send).2 = (Event.datagram peer octets send).reply? s.handler := by
  cases hh : s.handler octets with
  | error e => simp [answer, Event.reply?, ho, hh]
  | ok reply =>
    cases hsend : send reply with
    | ok _ => simp [answer, Event.reply?, failure?, metReset, ho, hh, hsend]
    | error fault =>
      by_cases hf : fault.isPeerReset <;> simp [answer, Event.reply?, failure?, metReset, ho, hh, hsend, hf]

lemma step_traffic (hs : s.task = some .running) (ht : event.IsTraffic) :
    s.step event = ((event.cause? s.handler).elim s s.fail, event.reply? s.handler) := by
  cases event with
  | datagram peer octets send =>
    simp only [step, hs]
    exact Prod.ext ((answer_eq s peer octets send).trans (if_neg ht)) (answer_eq_reply? s peer ht send)
  | fault cause =>
    simp only [step, hs]
    exact if_pos ht
  | closed => exact ht.elim

lemma run_traffic (hs : s.task = some .running) (ht : ∀ event ∈ events, event.IsTraffic)
    (hg : s.policy = .proceed ∨ ∀ event ∈ events, event.cause? s.handler = none) :
    s.run events = (s, events.filterMap (Event.reply? s.handler)) := by
  induction events with
  | nil => rfl
  | cons event events ih =>
    rw [List.forall_mem_cons] at ht
    have hstays : (event.cause? s.handler).elim s s.fail = s := by
      rcases hg with hp | hn
      · cases event.cause? s.handler with
        | none => rfl
        | some e => exact (fail_eq s e).trans (if_pos hp)
      · rw [hn event List.mem_cons_self]
        rfl
    have hrest := ih ht.2 (hg.imp_right fun hn later hl => hn later (.tail event hl))
    rw [run_cons, step_traffic hs ht.1, hstays, hrest]
    cases hr : event.reply? s.handler with
    | none => rw [List.filterMap_cons_none hr, Option.toList_none, List.nil_append]
    | some reply => rw [List.filterMap_cons_some hr, Option.toList_some, List.singleton_append]

lemma run_of_failing {before after : List Event} {e : ServiceError} (hs : s.task = some .running)
    (hp : s.policy = .abort) (ht : ∀ earlier ∈ before ++ [event], earlier.IsTraffic)
    (hb : ∀ earlier ∈ before, earlier.cause? s.handler = none) (he : event.cause? s.handler = some e) :
    s.run (before ++ event :: after) = (s.finish (.error e), before.filterMap (Event.reply? s.handler)) := by
  rw [List.forall_mem_append, List.forall_mem_singleton] at ht
  have hreply : event.reply? s.handler = none := by
    cases event with
    | datagram peer octets send =>
      have hf : failure? s.handler octets send ≠ none := fun hn => nomatch hn.symm.trans he
      simp only [Event.reply?, hf, false_and, if_false]
      cases s.handler octets <;> rfl
    | fault cause => rfl
    | closed => rfl
  have hends : s.step event = (s.finish (.error e), none) := by
    rw [step_traffic hs ht.2, he, hreply, Option.elim_some, fail_eq, if_neg (by simp [hp])]
  have hidle : (s.finish (.error e)).run after = (s.finish (.error e), []) := run_idle (by simp [finish]) after
  rw [run_append, run_traffic hs ht.1 (.inr hb), run_cons, hends, hidle]
  simp

theorem run_under_policies (hs : s.task = some .running) (ht : ∀ event ∈ events, event.IsTraffic) :
    let going := { s with policy := .proceed }
    let stopping := { s with policy := .abort }
    let replies := List.filterMap (Event.reply? s.handler)
    going.run events = (going, replies events) ∧
    (∀ before event after e, events = before ++ event :: after →
      (∀ earlier ∈ before, earlier.cause? s.handler = none) → event.cause? s.handler = some e →
      stopping.run before = (stopping, replies before) ∧
      ∃ ended, stopping.run (before ++ [event]) = (ended, replies before) ∧
        stopping.run events = (ended, replies before) ∧ (∀ later, ended.run later = (ended, [])) ∧
        ended.state = .stopped ∧ ended.stop.2 = .error e ∧ ended.wait.2 = some (.error e)) ∧
    ((∀ event ∈ events, event.cause? s.handler = none) →
      stopping.run events = ({ (going.run events).1 with policy := .abort }, (going.run events).2)) := by
  intro going stopping replies
  have hgoing : going.run events = (going, replies events) := run_traffic (s := going) hs ht (.inl rfl)
  refine ⟨hgoing, ?_, ?_⟩
  · rintro before event after e rfl hb he
    have hfirst : ∀ earlier ∈ before ++ [event], earlier.IsTraffic := fun earlier hm =>
      ht earlier (by simpa using (List.mem_append.mp hm).imp_right fun h => .inl (List.mem_singleton.mp h))
    have hbefore : ∀ earlier ∈ before, earlier.IsTraffic := fun earlier hm =>
      hfirst earlier (List.mem_append_left _ hm)
    refine ⟨run_traffic (s := stopping) hs hbefore (.inr hb), stopping.finish (.error e), ?_, ?_, ?_, rfl, rfl, rfl⟩
    · exact run_of_failing (s := stopping) hs rfl hfirst hb he
    · exact run_of_failing (s := stopping) hs rfl hfirst hb he
    · exact run_idle (by simp [finish])
  · intro hn
    rw [hgoing]
    exact run_traffic (s := stopping) hs ht (.inr hn)

def mirror : Handler := fun octets =>
  if octets.head? = some 0 then .error (.wire (.truncated 0)) else .ok octets.reverse

def mirrorServer : Server where
  handler := mirror
  state := .running
  task := some .running

def nearPeer : Address.Socket := ⟨.v4 .localhost, 1024⟩

def lostPeer : Address.Socket := ⟨.v4 .localhost, 1025⟩

def refused : IoFault where
  kind := .connectionRefused
  text := "Connection refused (os error 111)"

def mirrorTraffic : List Event :=
  [.datagram nearPeer [1, 2] (fun _ => .ok ()), .datagram lostPeer [3] (fun _ => .error refused),
    .fault refused, .datagram nearPeer [0, 4] (fun _ => .ok ()), .datagram nearPeer [5, 6] (fun _ => .ok ())]

theorem run_mirrorTraffic :
    mirrorServer.task = some .running ∧ (∀ event ∈ mirrorTraffic, event.IsTraffic) ∧
      ({ mirrorServer with policy := .proceed }.run mirrorTraffic).2 = [⟨nearPeer, [2, 1]⟩, ⟨nearPeer, [6, 5]⟩] ∧
      ∃ ended : Server, { mirrorServer with policy := .abort }.run mirrorTraffic = (ended, [⟨nearPeer, [2, 1]⟩]) ∧
        ended.state = .stopped ∧ ended.stop.2 = .error (.wire (.truncated 0)) := by
  have ht : ∀ event ∈ mirrorTraffic, event.IsTraffic := by
    simp [mirrorTraffic, Event.IsTraffic, refused, IoFault.isPeerReset]
  have hb : ∀ earlier ∈ mirrorTraffic.take 3, earlier.cause? mirror = none := by
    simp [mirrorTraffic, Event.cause?, failure?, mirror, refused, IoFault.isPeerReset]
  obtain ⟨hgoing, hstopping, _⟩ := run_under_policies (s := mirrorServer) rfl ht
  obtain ⟨_, ended, _, hrun, _, hstate, hstop, _⟩ :=
    hstopping (mirrorTraffic.take 3) _ (mirrorTraffic.drop 4) (.wire (.truncated 0)) rfl hb rfl
  refine ⟨rfl, ht, ?_, ended, hrun, hstate, hstop⟩
  rw [hgoing]
  rfl

end Server

end DomainLocator.Service
