import Rewind.Proofs.Batch.Solo
import Rewind.Proofs.Batch.Accounting

/-!
What the producer of a batch sees.

The producer asks the source, and the service for pages. Nothing that workers do changes what it is
answered, so it goes the way that it goes alone, where no queue ever holds it up.

Main statement: two batches that start alike have heard the same from their source when their
producers have ended (`SameFeed.of_ended`).
-/

namespace Rewind.Batch.Chronicle

variable {plan plan' : Plan} {c c' d e : Chronicle}

/-- The next step of the producer, whether or not there is room for what it holds. -/
def feed (plan : Plan) (c : Chronicle) : Chronicle :=
  { c.recordProducer with state := c.state.stepProducer plan }

theorem feed_of_ended {failure : Option ResetError} (hended : c.state.producer = .ended failure) :
    c.feed plan = c := by
  simp only [feed, recordProducer, State.stepProducer, hended]

/-- Two producers have come equally far. -/
structure SameFeed (c d : Chronicle) : Prop where
  producer : c.state.producer = d.state.producer
  source : c.state.source = d.state.source
  answers : c.answers = d.answers
  scans : c.scans.map Call.exchange = d.scans.map Call.exchange
  missed : c.state.service.missed? = d.state.service.missed?
  store : c.state.service.store.SameScans d.state.service.store

namespace SameFeed

theorem refl (c : Chronicle) : SameFeed c c :=
  ⟨rfl, rfl, rfl, rfl, rfl, .refl _⟩

theorem symm (h : SameFeed c d) : SameFeed d c :=
  ⟨h.producer.symm, h.source.symm, h.answers.symm, h.scans.symm, h.missed.symm, h.store.symm⟩

theorem trans (h : SameFeed c d) (h' : SameFeed d e) : SameFeed c e :=
  ⟨h.producer.trans h'.producer, h.source.trans h'.source, h.answers.trans h'.answers,
    h.scans.trans h'.scans, h.missed.trans h'.missed, h.store.trans h'.store⟩

/-- A failure of the source has the same consequences under policies with as many attempts. -/
theorem sourceFailed_producer_eq
    (hattempts : plan.settings.retry.maxAttempts = plan'.settings.retry.maxAttempts) (s t : State)
    (attempt : Nat) (error : ResetError) :
    (s.sourceFailed plan attempt error).producer =
      (t.sourceFailed plan' attempt error).producer := by
  unfold State.sourceFailed
  rw [hattempts]
  split <;> rfl

theorem feed (h : SameFeed c d)
    (hattempts : plan.settings.retry.maxAttempts = plan'.settings.retry.maxAttempts) :
    SameFeed (c.feed plan) (d.feed plan') := by
  cases hproducer : d.state.producer with
  | ended failure =>
      rw [feed_of_ended hproducer, feed_of_ended (h.producer.trans hproducer)]
      exact h
  | pausing attempt =>
      simp only [Chronicle.feed, recordProducer, State.stepProducer, h.producer, hproducer]
      exact ⟨rfl, h.source, h.answers, h.scans, h.missed, h.store⟩
  | holding target =>
      simp only [Chronicle.feed, recordProducer, State.stepProducer, h.producer, hproducer]
      exact ⟨rfl, h.source, h.answers, h.scans, h.missed, h.store⟩
  | pulling attempt =>
      simp only [Chronicle.feed, recordProducer, State.stepProducer, State.pull, h.producer,
        hproducer, h.source]
      rcases d.state.source.poll with ⟨answer | request, source⟩
      · have hanswers : c.answers ++ [answer] = d.answers ++ [answer] := by rw [h.answers]
        rcases answer with error | _ | item
        · exact ⟨sourceFailed_producer_eq hattempts _ _ attempt error, by simp [State.sourceAnswered],
            hanswers, h.scans, by simpa [State.sourceAnswered] using h.missed,
            by simpa [State.sourceAnswered] using h.store⟩
        · exact ⟨rfl, rfl, hanswers, h.scans, h.missed, h.store⟩
        · cases item with
          | target target => exact ⟨rfl, rfl, hanswers, h.scans, h.missed, h.store⟩
          | excluded target => exact ⟨rfl, rfl, hanswers, h.scans, h.missed, h.store⟩
      · obtain ⟨hanswer, hstore⟩ := Service.call_scan h.missed h.store request
        have hscans : (c.scans ++ [c.ask (.scan request)]).map Call.exchange =
            (d.scans ++ [d.ask (.scan request)]).map Call.exchange := by
          simp only [List.map_append, h.scans, List.map_cons, Call.exchange, ask, hanswer]
        have hmissed : (c.state.service.call (.scan request)).2.missed? =
            (d.state.service.call (.scan request)).2.missed? := h.missed
        have hanswers : c.answers ++ pageFailure (c.state.service.call (.scan request)).1 =
            d.answers ++ pageFailure (d.state.service.call (.scan request)).1 := by
          rw [h.answers, hanswer]
        dsimp only
        generalize d.state.service.call (.scan request) = called at *
        generalize c.state.service.call (.scan request) = called' at *
        obtain ⟨answer, service⟩ := called
        obtain ⟨answer', service'⟩ := called'
        obtain rfl : answer' = answer := hanswer
        cases answer' with
        | ok page => exact ⟨rfl, rfl, hanswers, hscans, hmissed, hstore⟩
        | error error =>
            exact ⟨sourceFailed_producer_eq hattempts _ _ attempt _, by simp, hanswers, hscans,
              by simpa using hmissed, by simpa using hstore⟩

end SameFeed

/-- A step of the batch is the producer's next one, or leaves it where it is. -/
theorem sameFeed_of_change (h : Change plan c c') (hc : c.Accounted plan) :
    c' = c.feed plan ∨ SameFeed c' c := by
  cases h with
  | closed attempt source hproducer hpoll | excluded attempt source target hproducer hpoll
  | offered attempt source target hproducer hpoll | failed attempt source error hproducer hpoll =>
      left
      simp only [feed, recordProducer, State.stepProducer, State.pull, hproducer, hpoll,
        State.sourceAnswered]
  | paged attempt source request page hproducer hpoll hcall =>
      left
      rcases hcalled : c.state.service.call (.scan request) with ⟨answer, service⟩
      obtain rfl : answer = .ok page := by simpa [hcalled] using hcall
      simp only [feed, recordProducer, State.stepProducer, State.pull, hproducer, hpoll, hcalled,
        pageFailure, List.append_nil]
  | pageFailed attempt source request error hproducer hpoll hcall =>
      left
      rcases hcalled : c.state.service.call (.scan request) with ⟨answer, service⟩
      obtain rfl : answer = .error error := by simpa [hcalled] using hcall
      simp only [feed, recordProducer, State.stepProducer, State.pull, hproducer, hpoll, hcalled,
        pageFailure]
  | resumed attempt hproducer =>
      left
      simp only [feed, recordProducer, State.stepProducer, hproducer]
  | queued target hproducer hroom =>
      left
      simp only [feed, recordProducer, State.stepProducer, hproducer]
  | taken | left | finished | rested | readied =>
      right
      exact ⟨rfl, rfl, rfl, rfl, rfl, .refl _⟩
  | called index worker target program request resume hworker htask hnext =>
      right
      refine ⟨rfl, rfl, rfl, rfl, rfl, c.state.service.sameScans_call ?_⟩
      obtain ⟨desk, -, hseat, hworking⟩ :=
        exists_partner (forall₂_and hc.seats hc.lawful) (getElem?_toList hworker)
      obtain ⟨-, -, -, -, hscan⟩ := hworking.exists_visit hseat htask hnext
      exact hscan

/-- A batch has heard what its producer hears alone in some number of steps. -/
theorem sameFeed_of_follow? {service : Service} {metrics : Metrics} {source : Source}
    {started : Nat} {schedule : List Actor}
    (hrun : (start plan service metrics source started).follow? plan schedule = some c) :
    ∃ n, SameFeed c ((feed plan)^[n] (start plan service metrics source started)) := by
  refine of_schedule (fun c =>
    ∃ n, SameFeed c ((feed plan)^[n] (start plan service metrics source started))) ?_
    ⟨0, .refl _⟩ hrun
  rintro c c' h hc ⟨n, hsame⟩
  rcases sameFeed_of_change h hc with rfl | hkept
  · refine ⟨n + 1, ?_⟩
    rw [Function.iterate_succ_apply']
    exact hsame.feed rfl
  · exact ⟨n, hkept.trans hsame⟩

namespace SameFeed

theorem iterate (h : SameFeed c d)
    (hattempts : plan.settings.retry.maxAttempts = plan'.settings.retry.maxAttempts) (n : Nat) :
    SameFeed ((Chronicle.feed plan)^[n] c) ((Chronicle.feed plan')^[n] d) := by
  induction n with
  | zero => exact h
  | succ n ih =>
      rw [Function.iterate_succ_apply', Function.iterate_succ_apply']
      exact ih.feed hattempts

/-- A producer that has ended has heard all that it will ever hear. -/
theorem iterate_of_ended {m n : Nat} {failure : Option ResetError}
    (h : SameFeed c ((Chronicle.feed plan)^[m] d)) (hended : c.state.producer = .ended failure)
    (hle : m ≤ n) : SameFeed c ((Chronicle.feed plan)^[n] d) := by
  obtain ⟨k, rfl⟩ := Nat.exists_eq_add_of_le hle
  have hfixed : Chronicle.feed plan ((Chronicle.feed plan)^[m] d) = (Chronicle.feed plan)^[m] d :=
    feed_of_ended (h.producer.symm.trans hended)
  rw [Nat.add_comm, Function.iterate_add_apply, Function.iterate_fixed hfixed k]
  exact h

/-- Batches that start alike have heard the same from the source when their producers have ended. -/
theorem of_ended {c₁ c₂ d₁ d₂ : Chronicle} {plan₁ plan₂ : Plan} (hstart : SameFeed d₁ d₂)
    (hattempts : plan₁.settings.retry.maxAttempts = plan₂.settings.retry.maxAttempts)
    (h₁ : ∃ n, SameFeed c₁ ((Chronicle.feed plan₁)^[n] d₁))
    (h₂ : ∃ n, SameFeed c₂ ((Chronicle.feed plan₂)^[n] d₂))
    (hended₁ : ∃ failure, c₁.state.producer = .ended failure)
    (hended₂ : ∃ failure, c₂.state.producer = .ended failure) : SameFeed c₁ c₂ := by
  obtain ⟨m, hm⟩ := h₁
  obtain ⟨n, hn⟩ := h₂
  obtain ⟨failure₁, hended₁⟩ := hended₁
  obtain ⟨failure₂, hended₂⟩ := hended₂
  rcases Nat.le_total m n with hle | hle
  · exact ((hm.iterate_of_ended hended₁ hle).trans (hstart.iterate hattempts n)).trans hn.symm
  · exact (hm.trans (hstart.iterate hattempts m)).trans (hn.iterate_of_ended hended₂ hle).symm

end SameFeed

end Rewind.Batch.Chronicle
