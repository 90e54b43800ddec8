import DomainLocator.Service.Server
import Mathlib.Data.List.Basic
import Mathlib.Data.List.Induction
import Mathlib.Tactic.Lemma

/-! The life cycle of a server: what it publishes, and what it tells of its loops, after any sequence of calls and
events. Both are told by the log of what was done and answered. -/

namespace DomainLocator.Service

inductive Call where
  | start (bound : Except IoFault Unit)
  | stop
  | wait
  | event (event : Event)

inductive Entry where
  | start (bound : Except IoFault Unit) (outcome : Outcome)
  | stop (outcome : Outcome)
  | wait (outcome : Option Outcome)
  | event (event : Event) (reply : Option Reply)

namespace Server

def perform (s : Server) : Call → Server × Entry
  | .start bound => ((s.start bound).1, .start bound (s.start bound).2)
  | .stop => (s.stop.1, .stop s.stop.2)
  | .wait => (s.wait.1, .wait s.wait.2)
  | .event event => ((s.step event).1, .event event (s.step event).2)

def performAll (s : Server) (calls : List Call) : Server × List Entry :=
  calls.foldl (fun (s, log) call => ((s.perform call).1, log ++ [(s.perform call).2])) (s, [])

end Server

def failure? (handler : Handler) (octets : Octets) (send : Octets → Except IoFault Unit) : Option ServiceError :=
  match handler octets with
  | .error e => some e
  | .ok reply =>
    match send reply with
    | .ok () => none
    | .error fault => if fault.isPeerReset then none else some (.io fault)

def Event.ending? (handler : Handler) (policy : ErrorPolicy) : Event → Option Outcome
  | .datagram _ octets send =>
    if octets = [] ∨ policy = .proceed then none else (failure? handler octets send).map .error
  | .fault cause => if cause.isPeerReset then none else some (.error (.io cause))
  | .closed => some (.ok ())

def State.ofTask : Option Task → State
  | some .running => .running
  | _ => .stopped

section Since

variable {α : Type} {p : List α → α → Prop} {q : α → Prop} {log : List α} {entry : α}

/-- There is an entry that is `p`, given those before it, and none after it is `q`. -/
def Since (p : List α → α → Prop) (q : α → Prop) (log : List α) : Prop :=
  ∃ before entry after, log = before ++ entry :: after ∧ p before entry ∧ ∀ later ∈ after, ¬ q later

lemma not_since_nil : ¬ Since p q [] := by
  simp [Since]

lemma since_concat : Since p q (log ++ [entry]) ↔ p log entry ∨ Since p q log ∧ ¬ q entry := by
  constructor
  · rintro ⟨before, first, after, h, hp, hq⟩
    -- `entry` stands last: it is the one itself, or one of those after it.
    rcases List.eq_nil_or_concat' after with rfl | ⟨after, last, rfl⟩
    · obtain ⟨rfl, hentry⟩ := List.append_inj' h rfl
      cases hentry
      exact .inl hp
    · rw [← List.cons_append, ← List.append_assoc] at h
      obtain ⟨rfl, hentry⟩ := List.append_inj' h rfl
      cases hentry
      exact .inr ⟨⟨before, first, after, rfl, hp, fun later hl => hq later (by simp [hl])⟩, hq entry (by simp)⟩
  · rintro (hp | ⟨⟨before, first, after, rfl, hp, hq⟩, hentry⟩)
    · exact ⟨log, entry, [], rfl, hp, by simp⟩
    · refine ⟨before, first, after ++ [entry], by simp, hp, ?_⟩
      intro later hl
      rcases List.mem_append.mp hl with hl | hl
      · exact hq later hl
      · rwa [List.mem_singleton.mp hl]

end Since

namespace Entry

def Starts : Entry → Prop
  | .start _ outcome => outcome = .ok ()
  | _ => False

def Ends (handler : Handler) (policy : ErrorPolicy) : Entry → Prop
  | .start _ outcome => outcome = .ok ()
  | .stop _ => True
  | .wait _ => False
  | .event e _ => e.ending? handler policy ≠ none

def Clears : Entry → Prop
  | .start _ outcome => outcome = .ok ()
  | .stop _ => True
  | .wait outcome => outcome ≠ none
  | .event .. => False

def EndsWith (handler : Handler) (policy : ErrorPolicy) (outcome : Outcome) : Entry → Prop
  | .event e _ => e.ending? handler policy = some outcome
  | _ => False

end Entry

/-- The last successful start was followed by no stop and no event that ended the loop. -/
def Running (handler : Handler) (policy : ErrorPolicy) : List Entry → Prop :=
  Since (fun _ entry => entry.Starts) (Entry.Ends handler policy)

/-- A loop ended with the outcome, and since then nobody was told of it and no other loop was started. -/
def Unreported (handler : Handler) (policy : ErrorPolicy) (outcome : Outcome) : List Entry → Prop :=
  Since (fun before entry => Running handler policy before ∧ entry.EndsWith handler policy outcome) Entry.Clears

section Log

variable {handler : Handler} {policy : ErrorPolicy} {log : List Entry} {outcome : Outcome} {event : Event}

lemma running_start {bound : Except IoFault Unit} :
    Running handler policy (log ++ [.start bound outcome]) ↔ outcome = .ok () ∨ Running handler policy log := by
  simp only [Running, since_concat, Entry.Starts, Entry.Ends]
  tauto

lemma not_running_stop : ¬ Running handler policy (log ++ [.stop outcome]) := by
  simp [Running, since_concat, Entry.Starts, Entry.Ends]

lemma running_wait {told : Option Outcome} :
    Running handler policy (log ++ [.wait told]) ↔ Running handler policy log := by
  simp [Running, since_concat, Entry.Starts, Entry.Ends]

lemma running_event {reply : Option Reply} : Running handler policy (log ++ [.event event reply]) ↔
    Running handler policy log ∧ event.ending? handler policy = none := by
  simp [Running, since_concat, Entry.Starts, Entry.Ends]

lemma unreported_start {bound : Except IoFault Unit} {started : Outcome} :
    Unreported handler policy outcome (log ++ [.start bound started]) ↔
      Unreported handler policy outcome log ∧ started ≠ .ok () := by
  simp [Unreported, since_concat, Entry.EndsWith, Entry.Clears]

lemma not_unreported_stop {told : Outcome} : ¬ Unreported handler policy outcome (log ++ [.stop told]) := by
  simp [Unreported, since_concat, Entry.EndsWith, Entry.Clears]

lemma unreported_wait {told : Option Outcome} : Unreported handler policy outcome (log ++ [.wait told]) ↔
    Unreported handler policy outcome log ∧ told = none := by
  simp [Unreported, since_concat, Entry.EndsWith, Entry.Clears]

lemma unreported_event {reply : Option Reply} : Unreported handler policy outcome (log ++ [.event event reply]) ↔
    Running handler policy log ∧ event.ending? handler policy = some outcome ∨
      Unreported handler policy outcome log := by
  simp [Unreported, since_concat, Entry.EndsWith, Entry.Clears]

end Log

lemma State.ofTask_eq_running_iff {task : Option Task} : ofTask task = .running ↔ task = some .running := by
  cases task with
  | none => simp [ofTask]
  | some task => cases task <;> simp [ofTask]

lemma State.ofTask_eq_stopped_iff {task : Option Task} : ofTask task = .stopped ↔ task ≠ some .running := by
  cases task with
  | none => simp [ofTask]
  | some task => cases task <;> simp [ofTask]

namespace Server

variable {s : Server} {log : List Entry} {event : Event}

lemma absent_or_ended (h : s.task ≠ some .running) : s.task = none ∨ ∃ outcome, s.task = some (.ended outcome) := by
  cases ht : s.task with
  | none => exact .inl rfl
  | some task =>
    cases task with
    | running => exact absurd ht h
    | ended outcome => exact .inr ⟨outcome, rfl⟩

lemma step_idle (h : s.task ≠ some .running) (event : Event) : s.step event = (s, none) := by
  obtain ht | ⟨outcome, ht⟩ := absent_or_ended h <;> simp [step, ht]

lemma run_cons (s : Server) (event : Event) (events : List Event) : s.run (event :: events) =
    (((s.step event).1.run events).1, (s.step event).2.toList ++ ((s.step event).1.run events).2) :=
  rfl

lemma run_append (s : Server) (first second : List Event) : s.run (first ++ second) =
    (((s.run first).1.run second).1, (s.run first).2 ++ ((s.run first).1.run second).2) := by
  induction first generalizing s with
  | nil => rfl
  | cons event first ih =>
    rw [List.cons_append, run_cons, run_cons, ih, List.append_assoc]

lemma run_idle (hs : s.task ≠ some .running) (events : List Event) : s.run events = (s, []) := by
  induction events with
  | nil => rfl
  | cons event events ih =>
    rw [run_cons, step_idle hs, ih]
    rfl

lemma fail_eq (s : Server) (e : ServiceError) : s.fail e = if s.policy = .proceed then s else s.finish (.error e) := by
  rw [fail]
  cases s.policy <;> rfl

lemma answer_eq (s : Server) (peer : Address.Socket) (octets : Octets) (send : Octets → Except IoFault Unit) :
    (s.answer peer octets send).1 = if octets = [] then s else (failure? s.handler octets send).elim s s.fail := by
  unfold answer failure?
  by_cases ho : octets = []
  · simp [ho]
  · simp only [ho, if_false]
    cases s.handler octets with
    | error e => rfl
    | ok reply =>
      dsimp only
      cases send reply with
      | ok _ => rfl
      | error fault => by_cases hf : fault.isPeerReset <;> simp [hf]

lemma step_running (h : s.task = some .running) (event : Event) :
    (s.step event).1 = (event.ending? s.handler s.policy).elim s s.finish := by
  unfold step
  rw [h]
  cases event with
  | datagram peer octets send =>
    simp only [answer_eq, Event.ending?]
    by_cases ho : octets = []
    · simp [ho]
    · cases failure? s.handler octets send with
      | none => simp
      | some e => by_cases hp : s.policy = .proceed <;> simp [fail_eq, ho, hp]
  | fault cause => by_cases hc : cause.isPeerReset <;> simp [Event.ending?, hc]
  | closed => rfl

lemma stop_eq (s : Server) : s.stop = match s.task with
    | none => (s, .ok ())
    | some task => ({ s with state := .stopped, task := none }, task.cancel) := by
  unfold stop cancel join
  cases h : s.task with
  | none => simp [h]
  | some task => cases task <;> simp [h]

lemma stopping_cancel_iff (h : s.state = .ofTask s.task) : s.cancel.state = .stopping ↔ s.task = some .running := by
  rw [cancel]
  cases ht : s.task with
  | none => simp [h, ht, State.ofTask]
  | some task => cases task <;> simp [h, ht, State.ofTask]

lemma start_running (h : s.task = some .running) (bound : Except IoFault Unit) :
    s.start bound = (s, .error .alreadyRunning) := by
  unfold start
  rw [h]

lemma start_unbound (h : s.task ≠ some .running) (fault : IoFault) :
    s.start (.error fault) = (s, .error (.io fault)) := by
  obtain ht | ⟨outcome, ht⟩ := absent_or_ended h <;> simp [start, ht]

lemma start_bound (h : s.task ≠ some .running) :
    s.start (.ok ()) = ({ s with state := .running, task := some .running }, .ok ()) := by
  obtain ht | ⟨outcome, ht⟩ := absent_or_ended h <;> simp [start, ht]

lemma start_alreadyRunning_iff (bound : Except IoFault Unit) :
    (s.start bound).2 = .error .alreadyRunning ↔ s.task = some .running := by
  by_cases ht : s.task = some .running
  · simp [start_running ht, ht]
  · cases bound with
    | error fault => simp [start_unbound ht, ht]
    | ok _ =>
      rw [start_bound ht]
      simp [ht]

lemma start_eq_self {bound : Except IoFault Unit} {e : ServiceError} (h : (s.start bound).2 = .error e) :
    (s.start bound).1 = s := by
  by_cases ht : s.task = some .running
  · rw [start_running ht]
  · cases bound with
    | error fault => rw [start_unbound ht]
    | ok _ =>
      rw [start_bound ht] at h
      contradiction

lemma start_ok {bound : Except IoFault Unit} {done : Unit} (h : (s.start bound).2 = .ok done) :
    (s.start bound).1 = { s with state := .running, task := some .running } := by
  by_cases ht : s.task = some .running
  · rw [start_running ht] at h
    contradiction
  · cases bound with
    | error fault =>
      rw [start_unbound ht] at h
      contradiction
    | ok _ => rw [start_bound ht]

structure Tracks (handler : Handler) (policy : ErrorPolicy) (s : Server) (log : List Entry) : Prop where
  sameHandler : s.handler = handler
  samePolicy : s.policy = policy
  published : s.state = .ofTask s.task
  running : s.task = some .running ↔ Running handler policy log
  ended : ∀ outcome, s.task = some (.ended outcome) ↔ Unreported handler policy outcome log

namespace Tracks

variable {handler : Handler} {policy : ErrorPolicy}

lemma start (h : Tracks handler policy s log) (bound : Except IoFault Unit) :
    Tracks handler policy (s.start bound).1 (log ++ [.start bound (s.start bound).2]) := by
  obtain ⟨rfl, rfl, hp, hr, he⟩ := h
  cases ho : (s.start bound).2 with
  | error e =>
    rw [start_eq_self ho]
    exact ⟨rfl, rfl, hp, by simpa [running_start] using hr, by simpa [unreported_start] using he⟩
  | ok _ =>
    rw [start_ok ho]
    exact ⟨rfl, rfl, rfl, by simp [running_start], by simp [unreported_start]⟩

lemma stop (h : Tracks handler policy s log) :
    Tracks handler policy s.stop.1 (log ++ [.stop s.stop.2]) := by
  obtain ⟨rfl, rfl, hp, hr, he⟩ := h
  rw [stop_eq]
  cases ht : s.task with
  | none => exact ⟨rfl, rfl, hp, by simp [ht, not_running_stop], by simp [ht, not_unreported_stop]⟩
  | some task => exact ⟨rfl, rfl, rfl, by simp [not_running_stop], by simp [not_unreported_stop]⟩

lemma wait (h : Tracks handler policy s log) :
    Tracks handler policy s.wait.1 (log ++ [.wait s.wait.2]) := by
  obtain ⟨rfl, rfl, hp, hr, he⟩ := h
  unfold Server.wait
  cases ht : s.task with
  | none =>
    refine ⟨rfl, rfl, hp, by rw [running_wait, hr], ?_⟩
    simp [ht, unreported_wait]
  | some task =>
    cases task with
    | running => exact ⟨rfl, rfl, hp, by rw [running_wait, hr], by simpa [unreported_wait] using he⟩
    | ended outcome =>
      rw [ht] at hp hr
      exact ⟨rfl, rfl, hp, by simpa [running_wait] using hr, by simp [unreported_wait]⟩

lemma step (h : Tracks handler policy s log) (event : Event) :
    Tracks handler policy (s.step event).1 (log ++ [.event event (s.step event).2]) := by
  obtain ⟨rfl, rfl, hp, hr, he⟩ := h
  by_cases ht : s.task = some .running
  · rw [step_running ht]
    have hlog := hr.mp ht
    cases hending : event.ending? s.handler s.policy with
    | none =>
      exact ⟨rfl, rfl, hp, by simpa [running_event, hending] using hr, by simpa [unreported_event, hending] using he⟩
    | some outcome =>
      -- What an earlier loop left was told or forgotten when this one was started.
      have hnone : ∀ outcome, ¬ Unreported s.handler s.policy outcome log := by simpa [ht] using he
      exact ⟨rfl, rfl, rfl, by simp [finish, running_event, hending],
        by simp [finish, unreported_event, hending, hlog, hnone]⟩
  · have hlog := mt hr.mpr ht
    rw [step_idle ht]
    exact ⟨rfl, rfl, hp, by simpa [running_event, hlog] using ht, by simpa [unreported_event, hlog] using he⟩

lemma perform (h : Tracks handler policy s log) (call : Call) :
    Tracks handler policy (s.perform call).1 (log ++ [(s.perform call).2]) := by
  cases call with
  | start bound => exact h.start bound
  | stop => exact h.stop
  | wait => exact h.wait
  | event e => exact h.step e

end Tracks

lemma tracks_performAll (handler : Handler) (policy : ErrorPolicy) (calls : List Call) :
    Tracks handler policy (performAll { handler, policy } calls).1 (performAll { handler, policy } calls).2 := by
  induction calls using List.reverseRecOn with
  | nil => exact ⟨rfl, rfl, rfl, by simp [performAll, Running, not_since_nil],
      by simp [performAll, Unreported, not_since_nil]⟩
  | append_singleton calls call ih =>
    rw [performAll, List.foldl_concat, ← performAll]
    exact ih.perform call

theorem life_cycle (handler : Handler) (policy : ErrorPolicy) (calls : List Call) :
    let s := (performAll { handler, policy } calls).1
    let log := (performAll { handler, policy } calls).2
    (s.state = .running ↔ Running handler policy log) ∧
    (s.state = .stopped ↔ ¬ Running handler policy log) ∧
    (s.cancel.state = .stopping ↔ Running handler policy log) ∧
    (∀ bound, (s.start bound).2 = .error .alreadyRunning ↔ Running handler policy log) ∧
    (¬ Running handler policy log →
      (s.start (.ok ())).2 = .ok () ∧ ∀ fault, (s.start (.error fault)).2 = .error (.io fault)) ∧
    (∀ bound e, (s.start bound).2 = .error e → (s.start bound).1 = s) ∧
    (∀ outcome, Unreported handler policy outcome log → s.stop.2 = outcome ∧ s.wait.2 = some outcome) ∧
    ((∀ outcome, ¬ Unreported handler policy outcome log) → s.stop.2 = .ok () ∧
      (¬ Running handler policy log → s.wait.2 = some (.ok ()))) ∧
    (Running handler policy log → s.wait = (s, none)) := by
  intro s log
  have h : Tracks handler policy s log := tracks_performAll handler policy calls
  refine ⟨?_, ?_, (stopping_cancel_iff h.published).trans h.running,
    fun bound => (start_alreadyRunning_iff bound).trans h.running, ?_, fun _ _ => start_eq_self, ?_, ?_, ?_⟩
  · rw [h.published, State.ofTask_eq_running_iff, h.running]
  · rw [h.published, State.ofTask_eq_stopped_iff, Ne, h.running]
  · intro hidle
    have ht := mt h.running.mp hidle
    exact ⟨congrArg Prod.snd (start_bound ht), fun fault => congrArg Prod.snd (start_unbound ht fault)⟩
  · intro outcome ho
    have ht := (h.ended outcome).mpr ho
    simp [stop_eq, Server.wait, ht, Task.cancel]
  · intro hnone
    cases ht : s.task with
    | none => simp [stop_eq, Server.wait, ht]
    | some task =>
      cases task with
      | running => simp [stop_eq, ht, Task.cancel, h.running.mp ht]
      | ended outcome => exact absurd ((h.ended outcome).mp ht) (hnone outcome)
  · intro hr
    have ht := h.running.mpr hr
    simp [Server.wait, ht]

def gone : IoFault where
  text := "gone"

def failedRestart : List Call :=
  [.start (.ok ()), .event (.fault gone), .start (.error { text := "taken" })]

theorem outcome_of_failedRestart :
    let s := (performAll { handler := .ok } failedRestart).1
    Unreported .ok .abort (.error (.io gone)) (performAll { handler := .ok } failedRestart).2 ∧
      s.state = .stopped ∧ s.stop.2 = .error (.io gone) ∧ s.wait.2 = some (.error (.io gone)) ∧
      (s.start (.ok ())).2 = .ok () := by
  have hunreported : Unreported .ok .abort (.error (.io gone)) (performAll { handler := .ok } failedRestart).2 := by
    refine ⟨[.start (.ok ()) (.ok ())], .event (.fault gone) none,
      [.start (.error { text := "taken" }) (.error (.io { text := "taken" }))], rfl, ⟨?_, rfl⟩, by simp [Entry.Clears]⟩
    exact ⟨[], _, [], rfl, rfl, by simp⟩
  obtain ⟨_, hstopped, _, _, hstarts, _, htold, _⟩ := life_cycle .ok .abort failedRestart
  obtain ⟨hstop, hwait⟩ := htold _ hunreported
  exact ⟨hunreported, rfl, hstop, hwait, (hstarts (hstopped.mp rfl)).1⟩

end Server

end DomainLocator.Service
