import Rewind.Proofs.Batch.Journal
import Rewind.Proofs.Twin

/-!
The calls of a program, one after the other.

A program leads to another one by calls that were answered, whatever the answers were. The calls of
every visit are such a trace of the work on its target, and a trace of that work is cut into the traces
of its attempts.

Main statements: `Leads.bind_inv`, `leads_attemptFrom`, and for the visits of a batch
`exists_attempts`.
-/

namespace Rewind

namespace Program

variable {α β : Type}

/-- What a program does next that goes on with another one behind its end. -/
def Next.bind : Next α → (α → Program β) → Next β
  | .done value, f => (f value).next
  | .ask request resume, f => .ask request fun answer => (resume answer).bind f
  | .pause resume, f => .pause (resume.bind f)

theorem next_bind (program : Program α) (f : α → Program β) :
    (program.bind f).next = program.next.bind f := by
  induction program with
  | done value => rfl
  | call request resume ih => rfl
  | pause resume ih => rfl
  | read cursor enough resume ih =>
      simp only [Program.bind, next]
      split
      · exact ih none cursor
      · simp only [Next.bind, Next.ask.injEq, heq_eq_eq, true_and]
        funext answer
        cases answer <;> rfl

theorem next_bind_done {program : Program α} {f : α → Program β} {value : β}
    (h : (program.bind f).next = .done value) :
    ∃ first, program.next = .done first ∧ (f first).next = .done value := by
  rw [next_bind] at h
  cases hnext : program.next with
  | done first =>
      rw [hnext] at h
      exact ⟨first, rfl, h⟩
  | ask | pause =>
      rw [hnext] at h
      exact absurd h (by simp [Next.bind])

end Program

open Program

namespace Batch

variable {α β : Type}

/-- A program comes by these calls, and by pauses, to another one. -/
inductive Leads (program : Program α) : List Call → Program α → Prop
  | start : Leads program [] program
  | asked {calls : List Call} {now : Program α} {call : Call}
      {resume : Except ServiceError call.request.Response → Program α} :
      Leads program calls now → now.next = .ask call.request resume →
      Leads program (calls ++ [call]) (resume call.answer)
  | rested {calls : List Call} {now resume : Program α} :
      Leads program calls now → now.next = .pause resume → Leads program calls resume

namespace Leads

variable {program now : Program α} {calls : List Call}

theorem of_done {value : α} (h : Leads (.done value) calls now) :
    calls = [] ∧ now = .done value := by
  induction h with
  | start => exact ⟨rfl, rfl⟩
  | asked _ hnext ih =>
      rw [ih.2] at hnext
      exact absurd hnext (by simp [next])
  | rested _ hnext ih =>
      rw [ih.2] at hnext
      exact absurd hnext (by simp [next])

theorem of_pause {resume : Unit → Program α} (h : Leads (.pause resume) calls now) :
    (calls = [] ∧ now = .pause resume) ∨ Leads (resume ()) calls now := by
  induction h with
  | start => exact .inl ⟨rfl, rfl⟩
  | asked _ hnext ih =>
      rcases ih with ⟨-, rfl⟩ | hlater
      · exact absurd hnext (by simp [next])
      · exact .inr (.asked hlater hnext)
  | rested _ hnext ih =>
      rcases ih with ⟨rfl, rfl⟩ | hlater
      · obtain rfl := Next.pause.inj hnext
        exact .inr .start
      · exact .inr (.rested hlater hnext)

/-- A trace of two programs in a row is one of the first, or goes on behind its end. -/
theorem bind_inv {f : α → Program β} {now : Program β} (h : Leads (program.bind f) calls now) :
    (∃ mid, Leads program calls mid ∧ now = mid.bind f) ∨
    ∃ first second mid value, calls = first ++ second ∧ Leads program first mid ∧
      mid.next = .done value ∧ Leads (f value) second now := by
  induction h with
  | start => exact .inl ⟨program, .start, rfl⟩
  | @asked calls now call resume _ hnext ih =>
      rcases ih with ⟨mid, hmid, rfl⟩ | ⟨first, second, mid, value, rfl, hmid, hdone, hlater⟩
      · rw [next_bind] at hnext
        obtain ⟨time, request, answer⟩ := call
        cases hmidnext : mid.next with
        | done value =>
            rw [hmidnext] at hnext
            exact .inr ⟨calls, [_], mid, value, rfl, hmid, hmidnext, .asked .start hnext⟩
        | ask request' resume' =>
            rw [hmidnext] at hnext
            cases hnext
            have hasked : Leads program (calls ++ [⟨time, request, answer⟩]) (resume' answer) :=
              .asked hmid hmidnext
            exact .inl ⟨_, hasked, rfl⟩
        | pause resume' =>
            rw [hmidnext] at hnext
            exact absurd hnext (by simp [Next.bind])
      · exact .inr ⟨first, second ++ [call], mid, value, List.append_assoc .., hmid, hdone,
          .asked hlater hnext⟩
  | @rested calls now resume _ hnext ih =>
      rcases ih with ⟨mid, hmid, rfl⟩ | ⟨first, second, mid, value, rfl, hmid, hdone, hlater⟩
      · rw [next_bind] at hnext
        cases hmidnext : mid.next with
        | done value =>
            rw [hmidnext] at hnext
            exact .inr ⟨calls, [], mid, value, (List.append_nil _).symm, hmid, hmidnext,
              .rested .start hnext⟩
        | ask request' resume' =>
            rw [hmidnext] at hnext
            exact absurd hnext (by simp [Next.bind])
        | pause resume' =>
            rw [hmidnext] at hnext
            obtain rfl := Next.pause.inj hnext
            exact .inl ⟨resume', .rested hmid hmidnext, rfl⟩
      · exact .inr ⟨first, second, mid, value, rfl, hmid, hdone, .rested hlater hnext⟩

/-- The calls of a program that obeys rules are allowed one by one, and add up to a standing. -/
theorem obeys {Standing : Type} {rules : Rules Standing} {ends : Standing → α → Prop}
    {standing : Standing} (Holds : List Call → Standing → Prop) (h : Leads program calls now)
    (hobeys : Obeys rules ends standing program) (hstart : Holds [] standing)
    (hstep : ∀ calls standing (call : Call), Holds calls standing →
      rules.allows standing call.request →
      Holds (calls ++ [call]) (rules.next standing call.request call.answer)) :
    ∃ standing', Holds calls standing' ∧ Obeys rules ends standing' now := by
  induction h with
  | start => exact ⟨standing, hstart, hobeys⟩
  | @asked calls now call resume _ hnext ih =>
      obtain ⟨standing', hholds, hnow⟩ := ih
      have hask := hnow.next
      rw [hnext] at hask
      exact ⟨_, hstep calls standing' call hholds hask.1, hask.2 call.answer⟩
  | rested _ hnext ih =>
      obtain ⟨standing', hholds, hnow⟩ := ih
      have hrest := hnow.next
      rw [hnext] at hrest
      exact ⟨standing', hholds, hrest⟩

end Leads

/-! ### Resets come last -/

/-- No call may follow a reset, whatever its answer is. -/
def resetLast : Rules Bool where
  allows asked _ := asked = false
  next asked request _ := asked || request.method = .reset

theorem looks_obeys {program program' : Program α}
    (h : Twin Eq (fun _ _ => False) program program') :
    Obeys resetLast (fun asked _ => asked = false) false program := by
  induction h with
  | done _ => exact .done rfl
  | @look request resume _ hmethod _ ih =>
      refine .call rfl fun answer => ?_
      have hnext : resetLast.next false request answer = false := by simp [resetLast, hmethod]
      rw [hnext]
      exact ih answer
  | reset _ _ hok =>
      obtain ⟨_, _, _, _, himpossible⟩ := hok ⟨""⟩ ⟨""⟩
      exact himpossible.elim
  | pause _ ih => exact .pause ih
  | read _ ih =>
      refine .read (fun _ => rfl) (fun _ _ => rfl) (fun cursor => ?_) fun _ error cursor => ?_
      · exact ih none cursor
      · exact ih (some error) cursor

theorem attempt_obeys_resetLast (plan : Plan) (target : WorkflowRef) (requestId : String) :
    Obeys resetLast (fun _ _ => True) false
      (ExceptT.run (plan.attempt .checked target requestId)) := by
  apply (looks_obeys (Plan.check_looks _ _ _)).exceptBind
  · rintro _ verdict rfl
    cases verdict with
    | skip reason => exact .done trivial
    | proceed runId =>
        apply (looks_obeys (Plan.resolve_looks _ _ _ _)).exceptBind
        · rintro _ anchor rfl
          simp only [Plan.submit]
          split
          · exact .done trivial
          · exact .call rfl fun answer => by cases answer <;> exact .done trivial
        · exact fun _ _ _ => trivial
  · exact fun _ _ _ => trivial

/-- Only the last call of an attempt can be a reset. -/
theorem reset_last {plan : Plan} {target : WorkflowRef} {requestId : String} {part : List Call}
    {now : Program (Except ResetError OutcomeStatus)}
    (h : Leads (ExceptT.run (plan.attempt .checked target requestId)) part now) :
    ∀ call ∈ part.dropLast, call.request.method ≠ .reset := by
  have hholds := h.obeys (fun calls asked =>
    (∀ call ∈ calls.dropLast, call.request.method ≠ .reset) ∧
      (asked = false → ∀ call ∈ calls, call.request.method ≠ .reset))
    (attempt_obeys_resetLast plan target requestId) (by simp) ?_
  · obtain ⟨asked, ⟨hlast, -⟩, -⟩ := hholds
    exact hlast
  · rintro calls asked call ⟨-, hearlier⟩ hallowed
    have hnone := hearlier hallowed
    refine ⟨by rwa [List.dropLast_concat], ?_⟩
    intro hstill
    have hcall : call.request.method ≠ .reset := by
      simpa [resetLast] using (Bool.or_eq_false_iff.mp hstill).2
    simp only [List.mem_append, List.mem_singleton]
    rintro call' (hold | rfl)
    · exact hnone call' hold
    · exact hcall

/-! ### Attempts -/

section

variable {operation : Program (Except ResetError OutcomeStatus)} {attempt spare : Nat}
  {calls : List Call} {now : Program (Attempted ResetError OutcomeStatus)}

/-- These calls were made by attempts in a row, at most `spare` behind the one of number `attempt`. -/
def Parted (operation : Program (Except ResetError OutcomeStatus)) (attempt spare : Nat)
    (calls : List Call) (now : Program (Attempted ResetError OutcomeStatus)) : Prop :=
  ∃ parts : List (List Call), calls = parts.flatten ∧ parts.length ≤ spare + 1 ∧
    (∀ part ∈ parts, ∃ mid, Leads operation part mid) ∧
    ∀ attempted, now.next = .done attempted → attempted.attempts + 1 = attempt + parts.length

theorem Parted.single {mid : Program (Except ResetError OutcomeStatus)}
    (hmid : Leads operation calls mid)
    (hattempts : ∀ attempted, now.next = .done attempted → attempted.attempts = attempt) :
    Parted operation attempt spare calls now := by
  refine ⟨[calls], by simp, by simp, ?_, ?_⟩
  · intro part hpart
    rw [List.mem_singleton.mp hpart]
    exact ⟨mid, hmid⟩
  · intro attempted hdone
    rw [hattempts attempted hdone]
    rfl

theorem Parted.cons {first : List Call} {mid : Program (Except ResetError OutcomeStatus)}
    (hmid : Leads operation first mid) (h : Parted operation (attempt + 1) spare calls now) :
    Parted operation attempt (spare + 1) (first ++ calls) now := by
  obtain ⟨parts, rfl, hlength, hparts, hattempts⟩ := h
  refine ⟨first :: parts, by simp, by simpa using hlength, ?_, ?_⟩
  · simp only [List.mem_cons]
    rintro part (rfl | hpart)
    · exact ⟨mid, hmid⟩
    · exact hparts part hpart
  · intro attempted hdone
    have hnumber := hattempts attempted hdone
    rw [List.length_cons]
    omega

/-- The calls of a retried program are those of its attempts. -/
theorem leads_attemptFrom
    (h : Leads (attemptFrom Program.rest ResetError.isRetryable (fun _ => operation) attempt spare)
      calls now) : Parted operation attempt spare calls now := by
  induction spare generalizing attempt calls with
  | zero =>
      rcases Leads.bind_inv h with ⟨mid, hmid, rfl⟩ | ⟨first, second, mid, result, rfl, hmid, -,
        hlater⟩
      · refine .single hmid fun attempted hdone => ?_
        obtain ⟨result, -, hend⟩ := next_bind_done hdone
        obtain rfl := Next.done.inj hend
        rfl
      · obtain ⟨rfl, rfl⟩ := Leads.of_done hlater
        rw [List.append_nil]
        refine .single hmid fun attempted hdone => ?_
        obtain rfl := Next.done.inj hdone
        rfl
  | succ spare ih =>
      rcases Leads.bind_inv h with ⟨mid, hmid, rfl⟩ | ⟨first, second, mid, result, rfl, hmid, -,
        hlater⟩
      · refine .single hmid fun attempted hdone => ?_
        obtain ⟨result, -, hend⟩ := next_bind_done hdone
        cases result with
        | ok status =>
            obtain rfl := Next.done.inj hend
            rfl
        | error error =>
            by_cases hretry : error.isRetryable
            · simp only [hretry, if_true] at hend
              exact absurd hend (by simp [Bind.bind, Program.rest, Program.bind, next])
            · simp only [hretry, Bool.false_eq_true, if_false] at hend
              obtain rfl := Next.done.inj hend
              rfl
      · -- Behind an attempt the work has ended, or a pause comes before the others.
        have hended {attempted : Attempted ResetError OutcomeStatus}
            (hnumber : attempted.attempts = attempt) (hend : Leads (.done attempted) second now) :
            Parted operation attempt (spare + 1) (first ++ second) now := by
          obtain ⟨rfl, rfl⟩ := hend.of_done
          rw [List.append_nil]
          refine .single hmid fun attempted' hdone => ?_
          obtain rfl := Next.done.inj hdone
          exact hnumber
        cases result with
        | ok status => exact hended rfl hlater
        | error error =>
            by_cases hretry : error.isRetryable
            · simp only [hretry, if_true] at hlater
              rcases Leads.of_pause hlater with ⟨rfl, rfl⟩ | hothers
              · rw [List.append_nil]
                exact .single hmid fun attempted hdone => absurd hdone (by simp [next])
              · exact (ih hothers).cons hmid
            · simp only [hretry, Bool.false_eq_true, if_false] at hlater
              exact hended rfl hlater

end

/-- The calls of a visit, cut into those of its attempts. -/
structure Visit.Attempts (plan : Plan) (visit : Visit) (parts : List (List Call)) : Prop where
  calls : visit.calls = parts.flatten
  length : parts.length ≤ max 1 plan.settings.retry.maxAttempts
  each : ∀ part ∈ parts, ∃ now,
    Leads (ExceptT.run (plan.attempt .checked visit.target visit.requestId)) part now

theorem attempts_of_leads {plan : Plan} {visit : Visit}
    {now : Program (Attempted ResetError OutcomeStatus)}
    (h : Leads (plan.process .checked visit.target visit.requestId) visit.calls now) :
    ∃ parts, visit.Attempts plan parts ∧
      ∀ attempted, now.next = .done attempted → attempted.attempts = parts.length := by
  obtain ⟨parts, hcalls, hlength, hparts, hattempts⟩ := leads_attemptFrom h
  refine ⟨parts, ⟨hcalls, ?_, hparts⟩, ?_⟩
  · rw [RetryPolicy.spare] at hlength
    omega
  · intro attempted hdone
    have hnumber := hattempts attempted hdone
    omega

/-! ### The visits of a batch -/

/-- The visits of a worker are traces of the work on their targets. -/
structure Traced (plan : Plan) (worker : Worker) (desk : Desk) : Prop where
  current : ∀ target program visit, worker.task = .busy target program →
    desk.current = some visit →
    Leads (plan.process .checked target visit.requestId) visit.calls program
  finished : ∀ entry ∈ desk.finished, ∃ now attempted,
    Leads (plan.process .checked entry.1.target entry.1.requestId) entry.1.calls now ∧
      now.next = .done attempted ∧ entry.2 = plan.outcome entry.1.target attempted

namespace Chronicle

variable {plan : Plan} {service : Service} {c c' : Chronicle}

theorem traced_of_move {worker worker' : Worker} {f : Desk → Desk} {service : Service}
    {desk : Desk} (h : Move plan c worker worker' f service) (hseat : Seated worker desk)
    (hdesk : Traced plan worker desk) : Traced plan worker' (f desk) := by
  cases h with
  | taken target rest htask hqueue =>
      refine ⟨?_, hdesk.finished⟩
      intro target' program visit hbusy hvisit
      obtain ⟨rfl, rfl⟩ := Task.busy.inj hbusy
      obtain rfl := Option.some.inj hvisit
      exact .start
  | left htask hqueue => exact ⟨by simp, hdesk.finished⟩
  | finished target program attempted htask hnext =>
      refine ⟨by simp, ?_⟩
      obtain ⟨visit, hvisit, rfl⟩ := hseat.busy target program htask
      have htrace := hdesk.current _ program visit htask hvisit
      simp only [Desk.close, hvisit, Option.map_some, Option.toList_some, List.mem_append,
        List.mem_singleton]
      rintro entry (hentry | rfl)
      · exact hdesk.finished entry hentry
      · exact ⟨program, attempted, htrace, hnext, rfl⟩
  | called target program request resume htask hnext =>
      refine ⟨?_, hdesk.finished⟩
      intro target' program' visit' hbusy hvisit'
      obtain ⟨rfl, rfl⟩ := Task.busy.inj hbusy
      obtain ⟨visit, hvisit, rfl⟩ := hseat.busy target program htask
      obtain rfl : visit.after (c.ask request) = visit' := by
        simpa [Desk.note, hvisit] using hvisit'
      have hasked : Leads _ (visit.calls ++ [c.ask request]) (resume (c.ask request).answer) :=
        .asked (hdesk.current _ program visit htask hvisit) hnext
      exact hasked
  | rested target program resume htask hnext =>
      refine ⟨?_, hdesk.finished⟩
      intro target' program' visit hbusy hvisit
      obtain ⟨rfl, rfl⟩ := Task.busy.inj hbusy
      exact .rested (hdesk.current _ program visit htask hvisit) hnext
  | readied htask => exact ⟨by simp, hdesk.finished⟩

theorem traced_of_follow? {metrics : Metrics} {source : Source} {started : Nat}
    {schedule : List Actor}
    (hrun : (start plan service metrics source started).follow? plan schedule = some c) :
    List.Forall₂ (Traced plan) c.state.workers.toList c.desks := by
  refine of_schedule (fun c => List.Forall₂ (Traced plan) c.state.workers.toList c.desks) ?_
    (forall₂_start ⟨by simp, by simp [Desk.empty]⟩ plan service metrics source started) hrun
  intro c c' h hc htraced
  have hboth := forall₂_of_change h (forall₂_and hc.seats htraced) fun _ _ _ _ hmove hdesk =>
    ⟨seated_of_move hmove hdesk.1, traced_of_move hmove hdesk.1 hdesk.2⟩
  exact hboth.imp fun _ _ => And.right

/-- The calls of every visit are those of its attempts, and an outcome tells how many these were. -/
theorem exists_attempts (hc : c.Accounted plan)
    (htraced : List.Forall₂ (Traced plan) c.state.workers.toList c.desks) :
    (∀ visit ∈ c.visits, ∃ parts, visit.Attempts plan parts) ∧
    ∀ entry ∈ c.finished, ∃ parts, entry.1.Attempts plan parts ∧
      entry.2.attempts = parts.length := by
  have hfinished {desk : Desk} (hdesk : desk ∈ c.desks) {entry : Visit × Outcome}
      (hentry : entry ∈ desk.finished) :
      ∃ parts, entry.1.Attempts plan parts ∧ entry.2.attempts = parts.length := by
    obtain ⟨worker, -, htrace⟩ := exists_left htraced hdesk
    obtain ⟨now, attempted, hleads, hdone, houtcome⟩ := htrace.finished entry hentry
    obtain ⟨parts, hparts, hattempts⟩ := attempts_of_leads hleads
    exact ⟨parts, hparts, by rw [houtcome]; exact hattempts attempted hdone⟩
  constructor
  · intro visit hvisit
    obtain ⟨desk, hdesk, hmem⟩ := List.mem_flatMap.mp hvisit
    rcases List.mem_append.mp hmem with hclosed | hcurrent
    · obtain ⟨entry, hentry, rfl⟩ := List.mem_map.mp hclosed
      obtain ⟨parts, hparts, -⟩ := hfinished hdesk hentry
      exact ⟨parts, hparts⟩
    · obtain ⟨worker, -, hseat, htrace⟩ := exists_left (forall₂_and hc.seats htraced) hdesk
      rw [Option.mem_toList] at hcurrent
      obtain ⟨program, htask⟩ := hseat.exists_busy hcurrent
      obtain ⟨parts, hparts, -⟩ :=
        attempts_of_leads (htrace.current visit.target program visit htask hcurrent)
      exact ⟨parts, hparts⟩
  · intro entry hentry
    obtain ⟨desk, hdesk, hmem⟩ := List.mem_flatMap.mp hentry
    exact hfinished hdesk hmem

end Chronicle

end Batch

end Rewind
