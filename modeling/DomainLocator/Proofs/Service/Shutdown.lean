import DomainLocator.Proofs.Service.LifeCycle
import DomainLocator.Service.Supervisor

/-! How a run of the two servers ends, whatever became of them before and whichever branch is taken. What comes to
them late could as well have come before the branch was taken: a loop that has ended takes nothing. -/

namespace DomainLocator.Service

namespace Server

variable {s : Server} {e : ServiceError}

def told (s : Server) : Server :=
  { s with task := none }

lemma stop_told (s : Server) : s.told.stop = (s.told, .ok ()) :=
  rfl

lemma state_told (h : s.state = .ofTask s.task) (ht : s.task ≠ some .running) : s.told.state = .ofTask s.told.task :=
  h.trans (State.ofTask_eq_stopped_iff.mpr ht)

lemma run_told (s : Server) (events : List Event) : s.told.run events = (s.told, []) :=
  run_idle (by simp [told]) events

lemma stop_eq_error : s.stop.2 = .error e ↔ s.task = some (.ended (.error e)) := by
  rw [stop_eq]
  cases s.task with
  | none => simp
  | some task => cases task <;> simp [Task.cancel]

lemma state_stop (h : s.state = .ofTask s.task) : s.stop.1.state = .stopped := by
  rw [stop_eq]
  cases ht : s.task with
  | none => exact h.trans (congrArg State.ofTask ht)
  | some task => rfl

lemma wait_idle (h : s.task ≠ some .running) : s.wait = (s.told, some s.stop.2) := by
  obtain ht | ⟨outcome, ht⟩ := absent_or_ended h
  · obtain ⟨handler, policy, state, task⟩ := s
    cases ht
    rfl
  · simp [wait, stop_eq, ht, Task.cancel, told]

lemma wait_running (h : s.task = some .running) : s.wait = (s, none) := by
  simp [wait, h]

end Server

structure Past where
  handler : Handler
  policy : ErrorPolicy
  calls : List Call

namespace Past

variable {p : Past} {e : ServiceError}

def server (p : Past) : Server :=
  (Server.performAll { handler := p.handler, policy := p.policy } p.calls).1

def log (p : Past) : List Entry :=
  (Server.performAll { handler := p.handler, policy := p.policy } p.calls).2

def receive (p : Past) (events : List Event) : Past :=
  { p with calls := p.calls ++ events.map .event }

def IsRunning (p : Past) : Prop :=
  Running p.handler p.policy p.log

/-- The loop that the server started last ended on the error, and no stop or wait has told of it. -/
def FailedWith (p : Past) (e : ServiceError) : Prop :=
  Unreported p.handler p.policy (.error e) p.log

lemma tracks (p : Past) : p.server.Tracks p.handler p.policy p.log :=
  Server.tracks_performAll p.handler p.policy p.calls

lemma isRunning_iff : p.IsRunning ↔ p.server.task = some .running :=
  p.tracks.running.symm

lemma failedWith_iff : p.FailedWith e ↔ p.server.stop.2 = .error e := by
  rw [Server.stop_eq_error]
  exact (p.tracks.ended (.error e)).symm

lemma server_receive (p : Past) (events : List Event) : (p.receive events).server = (p.server.run events).1 := by
  induction events using List.reverseRecOn with
  | nil => simp [receive, Server.run]
  | append_singleton events event ih =>
    rw [Server.run_append, ← ih]
    simp only [receive, server, Server.performAll, List.map_append, List.map_singleton, ← List.append_assoc,
      List.foldl_concat]
    rfl

end Past

namespace Servers

variable {s u : Servers} {signal : Signal} {late : Arrivals} {trigger : Trigger} {outcome : Except RunError Unit}
  {r : Servers × Except RunError Unit} {e : ServiceError}

lemma shutDown_of_dns_error (h : s.dns.stop.2 = .error e) (outcome : Except RunError Unit) :
    s.shutDown outcome = ({ s with dns := s.dns.stop.1 }, .error (.stopping e)) := by
  rw [shutDown, ← Prod.eta s.dns.stop, h]

lemma shutDown_of_ldap_error (hd : s.dns.stop.2 = .ok ()) (h : s.ldap.stop.2 = .error e)
    (outcome : Except RunError Unit) :
    s.shutDown outcome = (⟨s.dns.stop.1, s.ldap.stop.1⟩, .error (.stopping e)) := by
  rw [shutDown, ← Prod.eta s.dns.stop, hd, ← Prod.eta s.ldap.stop, h]

lemma shutDown_of_ok (hd : s.dns.stop.2 = .ok ()) (hl : s.ldap.stop.2 = .ok ()) (outcome : Except RunError Unit) :
    s.shutDown outcome = (⟨s.dns.stop.1, s.ldap.stop.1⟩, outcome) := by
  rw [shutDown, ← Prod.eta s.dns.stop, hd, ← Prod.eta s.ldap.stop, hl]

lemma shutDown_eq_error_iff : (∃ e, (s.shutDown outcome).2 = .error e) ↔
    (∃ e, s.dns.stop.2 = .error e) ∨ (∃ e, s.ldap.stop.2 = .error e) ∨ ∃ e, outcome = .error e := by
  cases hd : s.dns.stop.2 with
  | error e => simp [shutDown_of_dns_error hd]
  | ok _ =>
    cases hl : s.ldap.stop.2 with
    | error e => simp [shutDown_of_ldap_error hd hl]
    | ok _ => simp [shutDown_of_ok hd hl]

lemma stopped_shutDown (hd : u.dns.state = .ofTask u.dns.task) (hl : u.ldap.state = .ofTask u.ldap.task)
    (outcome : Except RunError Unit) :
    (u.shutDown outcome).1.dns.state = .stopped ∧
    ((u.shutDown outcome).1.ldap.state = .stopped ↔
      ¬ ((∃ e, u.dns.stop.2 = .error e) ∧ u.ldap.task = some .running)) := by
  have hdns := Server.state_stop hd
  have hldap := Server.state_stop hl
  cases htold : u.dns.stop.2 with
  | error e =>
    -- The LDAP server is left as it is.
    rw [shutDown_of_dns_error htold]
    refine ⟨hdns, ?_⟩
    simp [hl, State.ofTask_eq_stopped_iff]
  | ok _ =>
    cases htold' : u.ldap.stop.2 with
    | error e => simp [shutDown_of_ldap_error htold htold', hdns, hldap]
    | ok _ => simp [shutDown_of_ok htold htold', hdns, hldap]

inductive Ends (u : Servers) : Signal → Trigger → Servers × Except RunError Unit → Prop
  | failed (fault : IoFault) : Ends u (.failed fault) .signal (u, .error (.signal fault))
  | received : Ends u .received .signal (u.shutDown (.ok ()))
  | dns {signal : Signal} (h : u.dns.task ≠ some .running) : Ends u signal (.ended .dns)
      ({ u with dns := u.dns.told }.shutDown (u.dns.stop.2.mapError (.ended .dns)))
  | ldap {signal : Signal} (h : u.ldap.task ≠ some .running) : Ends u signal (.ended .ldap)
      ({ u with ldap := u.ldap.told }.shutDown (u.ldap.stop.2.mapError (.ended .ldap)))

lemma ends_of_finish (h : s.finish? signal late trigger = some r) : Ends (s.receive late) signal trigger r := by
  cases trigger with
  | signal =>
    cases signal with
    | pending => cases h
    | received =>
      cases h
      exact .received
    | failed fault =>
      cases h
      exact .failed fault
  | ended role =>
    cases role with
    | dns =>
      by_cases hs : s.dns.task = some .running
      · simp [finish?, Server.wait_running hs] at h
      · -- A loop that has ended takes nothing late, before it is waited for or after.
        have hu : (s.receive late).dns = s.dns := by rw [receive, Server.run_idle hs]
        have hends : Ends (s.receive late) signal (.ended .dns) _ := .dns (hu ▸ hs)
        simp only [finish?, Server.wait_idle hs, receive, Server.run_told, Option.some.injEq] at h
        rw [← h]
        simpa only [receive, Server.run_idle hs] using hends
    | ldap =>
      by_cases hs : s.ldap.task = some .running
      · simp [finish?, Server.wait_running hs] at h
      · have hu : (s.receive late).ldap = s.ldap := by rw [receive, Server.run_idle hs]
        have hends : Ends (s.receive late) signal (.ended .ldap) _ := .ldap (hu ▸ hs)
        simp only [finish?, Server.wait_idle hs, receive, Server.run_told, Option.some.injEq] at h
        rw [← h]
        simpa only [receive, Server.run_idle hs] using hends

namespace Ends

lemma eq_error_iff (h : Ends u signal trigger r) : (∃ e, r.2 = .error e) ↔
    trigger = .signal ∧ (∃ fault, signal = .failed fault) ∨
      (∃ e, u.dns.stop.2 = .error e) ∨ ∃ e, u.ldap.stop.2 = .error e := by
  cases h with
  | failed fault => simp
  | received => simp [shutDown_eq_error_iff]
  | dns h =>
    rw [shutDown_eq_error_iff]
    cases u.dns.stop.2 <;> simp [Server.stop_told, Except.mapError]
  | ldap h =>
    rw [shutDown_eq_error_iff]
    cases u.ldap.stop.2 <;> simp [Server.stop_told, Except.mapError]

lemma dns_error (h : Ends u signal trigger r) (ht : trigger ≠ .ended .dns) (he : u.dns.stop.2 = .error e) :
    r.2 = .error (.stopping e) ∨ r.1.dns.stop.2 = .error e := by
  cases h with
  | failed fault => exact .inr he
  | received => simp [shutDown_of_dns_error he]
  | dns h => contradiction
  | ldap h => exact .inl (by rw [shutDown_of_dns_error (s := { u with ldap := u.ldap.told }) he])

lemma ldap_error (h : Ends u signal trigger r) (ht : trigger ≠ .ended .ldap) (he : u.ldap.stop.2 = .error e) :
    r.2 = .error (.stopping e) ∨ r.1.ldap.stop.2 = .error e := by
  cases h with
  | failed fault => exact .inr he
  | received =>
    cases hd : u.dns.stop.2 with
    | error _ => exact .inr (by rw [shutDown_of_dns_error hd]; exact he)
    | ok _ => exact .inl (by rw [shutDown_of_ldap_error hd he])
  | dns h => exact .inl (by rw [shutDown_of_ldap_error (s := { u with dns := u.dns.told }) rfl he])
  | ldap h => contradiction

lemma states (h : Ends u signal trigger r) (hd : u.dns.state = .ofTask u.dns.task)
    (hl : u.ldap.state = .ofTask u.ldap.task)
    (hs : ¬ (trigger = .signal ∧ ∃ fault, signal = .failed fault)) :
    r.1.dns.state = .stopped ∧
    (r.1.ldap.state = .stopped ↔
      ¬ (trigger ≠ .ended .dns ∧ (∃ e, u.dns.stop.2 = .error e) ∧ u.ldap.task = some .running)) := by
  cases h with
  | failed fault => simp at hs
  | received => simpa using stopped_shutDown hd hl (.ok ())
  | dns h =>
    have hstopped := stopped_shutDown (u := { u with dns := u.dns.told }) (Server.state_told hd h) hl
    simpa [Server.stop_told] using hstopped (u.dns.stop.2.mapError (.ended .dns))
  | ldap h =>
    have hstopped := stopped_shutDown (u := { u with ldap := u.ldap.told }) hd (Server.state_told hl h)
    simpa [Server.told, h] using hstopped (u.ldap.stop.2.mapError (.ended .ldap))

end Ends

def IsReady (dns ldap : Past) (signal : Signal) : Trigger → Prop
  | .signal => signal ≠ .pending
  | .ended .dns => ¬ dns.IsRunning
  | .ended .ldap => ¬ ldap.IsRunning

section Pasts

variable {dns ldap : Past}

lemma isSome_finish : (finish? ⟨dns.server, ldap.server⟩ signal late trigger).isSome ↔
    IsReady dns ldap signal trigger := by
  cases trigger with
  | signal => cases signal <;> simp [finish?, IsReady]
  | ended role =>
    cases role with
    | dns =>
      rw [IsReady, Past.isRunning_iff]
      by_cases h : dns.server.task = some .running
      · simp [finish?, Server.wait_running, h]
      · simp [finish?, Server.wait_idle, h]
    | ldap =>
      rw [IsReady, Past.isRunning_iff]
      by_cases h : ldap.server.task = some .running
      · simp [finish?, Server.wait_running, h]
      · simp [finish?, Server.wait_idle, h]

lemma ends_of_pasts (h : finish? ⟨dns.server, ldap.server⟩ signal late trigger = some r) :
    Ends ⟨(dns.receive late.dns).server, (ldap.receive late.ldap).server⟩ signal trigger r := by
  rw [Past.server_receive, Past.server_receive]
  exact ends_of_finish h

end Pasts

theorem fails_iff (dns ldap : Past) (signal : Signal) (late : Arrivals) (trigger : Trigger) :
    ((finish? ⟨dns.server, ldap.server⟩ signal late trigger).isSome ↔ IsReady dns ldap signal trigger) ∧
    ∀ s outcome, finish? ⟨dns.server, ldap.server⟩ signal late trigger = some (s, outcome) →
      ((∃ e, outcome = .error e) ↔ trigger = .signal ∧ (∃ fault, signal = .failed fault) ∨
        (∃ e, (dns.receive late.dns).FailedWith e) ∨ ∃ e, (ldap.receive late.ldap).FailedWith e) ∧
      (trigger ≠ .ended .dns → ∀ e, (dns.receive late.dns).FailedWith e →
        outcome = .error (.stopping e) ∨ s.dns.stop.2 = .error e) ∧
      (trigger ≠ .ended .ldap → ∀ e, (ldap.receive late.ldap).FailedWith e →
        outcome = .error (.stopping e) ∨ s.ldap.stop.2 = .error e) := by
  refine ⟨isSome_finish, fun s outcome h => ?_⟩
  have hends := ends_of_pasts h
  simp only [Past.failedWith_iff]
  exact ⟨hends.eq_error_iff, fun ht _ => hends.dns_error ht, fun ht _ => hends.ldap_error ht⟩

def started : Past where
  handler := .ok
  policy := .abort
  calls := [.start (.ok ())]

def failed : Past :=
  started.receive [.fault Server.gone]

theorem fails_late : ∃ s outcome,
    finish? ⟨started.server, started.server⟩ .received { dns := [.fault Server.gone] } .signal = some (s, outcome) ∧
    failed.FailedWith (.io Server.gone) ∧ ∃ e, outcome = .error e := by
  let late : Arrivals := { dns := [.fault Server.gone] }
  have hfailed : (started.receive late.dns).FailedWith (.io Server.gone) := Past.failedWith_iff.mpr rfl
  have hfails := ((fails_iff started started .received late .signal).2 _ _ rfl).1
  exact ⟨_, _, rfl, hfailed, hfails.mpr (.inr (.inl ⟨_, hfailed⟩))⟩

theorem states_of_finish (dns ldap : Past) (signal : Signal) (late : Arrivals) (trigger : Trigger) (s : Servers)
    (outcome : Except RunError Unit)
    (h : finish? ⟨dns.server, ldap.server⟩ signal late trigger = some (s, outcome)) :
    (trigger = .signal ∧ (∃ fault, signal = .failed fault) →
      s = ⟨(dns.receive late.dns).server, (ldap.receive late.ldap).server⟩) ∧
    (¬ (trigger = .signal ∧ ∃ fault, signal = .failed fault) →
      s.dns.state = .stopped ∧
      (s.ldap.state = .stopped ↔ ¬ (trigger ≠ .ended .dns ∧ (∃ e, (dns.receive late.dns).FailedWith e) ∧
        (ldap.receive late.ldap).IsRunning))) := by
  have hends := ends_of_pasts h
  constructor
  · rintro ⟨rfl, fault, rfl⟩
    cases hends
    rfl
  · simp only [Past.failedWith_iff, Past.isRunning_iff]
    exact hends.states (dns.receive late.dns).tracks.published (ldap.receive late.ldap).tracks.published

theorem stopped_of_failed : ∃ s outcome,
    finish? ⟨failed.server, started.server⟩ .pending {} (.ended .dns) = some (s, outcome) ∧
    s.dns.state = .stopped ∧ s.ldap.state = .stopped := by
  have hstates := (states_of_finish failed started .pending {} (.ended .dns) _ _ rfl).2 (by simp)
  exact ⟨_, _, rfl, hstates.1, hstates.2.mpr (by simp)⟩

theorem running_after_finish :
    (∃ s outcome, finish? ⟨started.server, started.server⟩ (.failed Server.gone) {} .signal = some (s, outcome) ∧
      s.dns.state = .running ∧ s.ldap.state = .running) ∧
    ∃ s outcome, finish? ⟨failed.server, started.server⟩ .received {} .signal = some (s, outcome) ∧
      s.ldap.state = .running :=
  ⟨⟨_, _, rfl, rfl, rfl⟩, ⟨_, _, rfl, rfl⟩⟩

end Servers

end DomainLocator.Service
