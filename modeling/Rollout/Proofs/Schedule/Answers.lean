import Rollout.Proofs.Schedule

/-!
# What a wait makes of the answers

Given what each of its looks is answered, all that a wait does is known beforehand: at which place of
its schedule it ends, with which result, and when each look is made. This file says so in full
(`Rollout.Waiter.Exact`), for every sequence of answers.

* A wait ends with the first answer that is not pending, if there is one among those that it has
  places for: an answer that says so satisfies it, a failure is returned and not tried again.
* If all of them are pending, the wait has run out of time, at its deadline and not before.
* Each look is made when it is due, the last one before the time is up at the deadline itself, and no
  pause goes past it.

How a wait ends is `Rollout.Waiter.waitFor_ends`. That all happens in time is an invariant of the
events one by one (`Rollout.Waiter.OnTime`), which composes along `++`: a look adds nothing to the
time, and a pause leads to the next place. The main statement is `Rollout.Waiter.exact_waitFor`; that
each sequence of answers is one that a wait can be given is `Rollout.Waiter.answerAt_ofSequence`.
-/

namespace Rollout

namespace Waiter

/-! ### Events in time -/

section OnTime

variable (w : Waiter) (c : Condition)

/-- What has to be true of an event of a wait, given the events in front of it: a look is made when
it is due, and a pause does not go past the deadline. -/
def Due (front : List Event) : Event → Prop
  | .checked c' => c' = c ∧ timeOf front = w.lookAt c (checksOf front).length
  | .slept d => (timeOf front).nanos + d.nanos ≤ (limit c).nanos
  | _ => True

/-- **Events in time** behind others. -/
def OnTime : List Event → List Event → Prop
  | _, [] => True
  | front, e :: rest => w.Due c front e ∧ OnTime (front ++ [e]) rest

variable {w c} {front events later : List Event}

theorem onTime_append : w.OnTime c front (events ++ later) ↔
    w.OnTime c front events ∧ w.OnTime c (front ++ events) later := by
  induction events generalizing front with
  | nil => simp [OnTime]
  | cons e rest ih =>
    rw [List.cons_append, OnTime, OnTime, ih, List.append_assoc, List.singleton_append, and_assoc]

/-- Of events in time each one is. -/
theorem OnTime.due {e : Event} (h : w.OnTime c front (events ++ e :: later)) :
    w.Due c (front ++ events) e :=
  (onTime_append.mp h).2.1

/-- Events that take no time and are no looks are in time until the deadline. -/
theorem onTime_of_prompt (hquick : (timeOf events).nanos = 0) (hnone : checksOf events = [])
    (hfront : (timeOf front).nanos ≤ (limit c).nanos) : w.OnTime c front events := by
  induction events generalizing front with
  | nil => trivial
  | cons e rest ih =>
    rw [← List.singleton_append, checksOf_append] at hnone
    rw [← List.singleton_append, nanos_timeOf_append] at hquick
    obtain ⟨hself, hothers⟩ := List.append_eq_nil_iff.mp hnone
    have hpause : (timeOf [e]).nanos = e.pause.nanos := Nat.zero_add _
    refine ⟨?_, ih (by omega) hothers ?_⟩
    · cases e with
      | checked c' => cases hself
      | slept d =>
        have hd : d.nanos = 0 := by
          rw [hpause] at hquick
          exact (Nat.add_eq_zero_iff.mp hquick).1
        rw [Due, hd]
        exact hfront
      | _ => trivial
    · rw [nanos_timeOf_append]
      omega

end OnTime

section Prompt

variable {w : Waiter} (hprompt : w.Prompt) (hpace : leastPause.nanos ≤ w.interval.nanos)
  (c : Condition) (runner : Runner) (past : List Event)

include hprompt hpace

/-- **A look in its place is in time**, with all that it does. -/
theorem onTime_lookEvents (k : Nat) : w.OnTime c (w.before c runner past k)
    (w.lookEvents c runner (past ++ w.before c runner past k)) := by
  have htime := timeOf_before hprompt c runner past hpace k
  have hlooks := checksOf_before hprompt c runner past k
  obtain ⟨hquick, hnone⟩ := hprompt c runner (past ++ w.before c runner past k ++ [.checked c])
  refine ⟨⟨rfl, ?_⟩, onTime_of_prompt (congrArg Duration.nanos hquick) hnone ?_⟩
  · rw [htime, hlooks, List.length_replicate]
  · have hmark : (timeOf [.checked c]).nanos = 0 := rfl
    rw [nanos_timeOf_append, htime, hmark]
    exact Nat.min_le_right ..

/-- **All that a wait does before one of its places is in time.** -/
theorem onTime_before (k : Nat) : w.OnTime c [] (w.before c runner past k) := by
  induction k with
  | zero => trivial
  | succ k ih =>
    have htime := timeOf_through hprompt c runner past hpace k
    have hnext := congrArg Duration.nanos (lookAt_succ (c := c) hpace k)
    have hend : (w.lookAt c (k + 1)).nanos ≤ (limit c).nanos := Nat.min_le_right ..
    rw [Duration.nanos_add] at hnext
    rw [before_succ]
    refine onTime_append.mpr ⟨onTime_append.mpr ⟨ih, ?_⟩, ?_, trivial⟩
    · exact onTime_lookEvents hprompt hpace c runner past k
    · rw [List.nil_append, Due, htime, hnext]
      exact hend

end Prompt

/-! ### All that a wait does -/

/-- **What a wait makes of the answers**, given the sequence of them, what happens in the wait and
its result. The places of a wait are counted from zero, so there is one more than its pauses. -/
structure Exact (w : Waiter) (c : Condition) (answers : Nat → Except Failure Status)
    (events : List Event) (result : Except Failure Wait) : Prop where
  /-- The first answer that is not pending satisfies the wait, -/
  satisfied : ∀ k status, k ≤ w.pauses c → (∀ j < k, Pending (answers j)) →
    answers k = .ok status → status.ready = true →
      result = .ok (.satisfied (k + 1) (w.lookAt c k) status.detail) ∧
        (checksOf events).length = k + 1
  /-- or it is a failure, which is returned and not tried again. -/
  failed : ∀ k f, k ≤ w.pauses c → (∀ j < k, Pending (answers j)) → answers k = .error f →
    result = .error f ∧ (checksOf events).length = k + 1
  /-- If there is none the wait has run out of time, exactly. -/
  timedOut : (∀ j ≤ w.pauses c, Pending (answers j)) → ∃ status,
    answers (w.pauses c) = .ok status ∧
      result = .ok (.timedOut (w.pauses c + 1) (limit c) status.detail) ∧
        (checksOf events).length = w.pauses c + 1
  /-- There is a look, there are no more of them than there are places, and so few places that they
  can be counted in 32 bits. -/
  looks : 0 < (checksOf events).length ∧ (checksOf events).length ≤ w.pauses c + 1 ∧
    w.pauses c + 1 < UInt32.size
  /-- Each look is made when it is due. -/
  punctual : ∀ front c' later, events = front ++ .checked c' :: later →
    c' = c ∧ timeOf front = w.lookAt c (checksOf front).length
  /-- Before time has run out a last look is made at the deadline. -/
  deadline : ∀ attempts elapsed detail, result = .ok (.timedOut attempts elapsed detail) →
    ∃ front later, events = front ++ .checked c :: later ∧ timeOf front = limit c ∧
      checksOf later = []
  /-- No pause goes past the deadline. -/
  restful : ∀ front d later, events = front ++ .slept d :: later →
    (timeOf front).nanos + d.nanos ≤ (limit c).nanos

section Exact

variable {w : Waiter} (hprompt : w.Prompt) (hpace : leastPause.nanos ≤ w.interval.nanos)
  {c : Condition} {runner : Runner} {past : List Event} {k : Nat}

include hprompt hpace

/-- **How a wait ends whose looks are prompt**: with so many looks, and all of it in time. -/
theorem waitFor_ends_in_time (h : w.EndsAt c (w.answerAt c runner past) k) :
    (w.waitFor c).result runner past =
        closing (k + 1) (w.lookAt c k) (w.answerAt c runner past k) ∧
      (checksOf ((w.waitFor c).events runner past)).length = k + 1 ∧
      w.OnTime c [] ((w.waitFor c).events runner past) := by
  obtain ⟨hresult, hevents⟩ := waitFor_ends hpace h
  rw [hevents]
  refine ⟨hresult, length_checksOf_through hprompt c runner past k, onTime_append.mpr ⟨?_, ?_⟩⟩
  · exact onTime_before hprompt hpace c runner past k
  · exact onTime_lookEvents hprompt hpace c runner past k

/-- A wait that has run out of time has made its last look at the deadline. -/
theorem exists_look_at_deadline {attempts : Nat} {elapsed : Duration} {detail : String}
    (h : (w.waitFor c).result runner past = .ok (.timedOut attempts elapsed detail)) :
    ∃ front later, (w.waitFor c).events runner past = front ++ .checked c :: later ∧
      timeOf front = limit c ∧ checksOf later = [] := by
  obtain ⟨k, hends⟩ := w.exists_endsAt c (w.answerAt c runner past)
  obtain ⟨hresult, hevents⟩ := waitFor_ends hpace hends
  obtain ⟨-, -, hpending⟩ := closing_eq_timedOut (hresult.symm.trans h)
  have htime : timeOf (w.before c runner past k) = w.lookAt c k :=
    timeOf_before hprompt c runner past hpace k
  have hdeadline : w.lookAt c k = limit c := by
    rw [hends.last hpending]
    exact lookAt_pauses (Nat.lt_of_lt_of_le (by decide) hpace)
  exact ⟨_, _, hevents, htime.trans hdeadline, (hprompt c runner _).2⟩

end Exact

/-- **What a wait makes of the answers**, whatever they are: of any condition, at any pace that the
clock can keep. -/
theorem exact_waitFor {w : Waiter} (hprompt : w.Prompt)
    (hpace : leastPause.nanos ≤ w.interval.nanos) (c : Condition) (runner : Runner)
    (past : List Event) (answers : Nat → Except Failure Status)
    (hanswers : ∀ k, w.answerAt c runner past k = answers k) :
    w.Exact c answers ((w.waitFor c).events runner past) ((w.waitFor c).result runner past) := by
  obtain rfl : w.answerAt c runner past = answers := funext hanswers
  obtain ⟨last, hlast⟩ := w.exists_endsAt c (w.answerAt c runner past)
  obtain ⟨-, hlooks, hontime⟩ := waitFor_ends_in_time hprompt hpace hlast
  have hplaces := pauses_le hpace c
  constructor
  case satisfied =>
    intro k status hk hpending hanswer hready
    have hstops : ¬Pending (w.answerAt c runner past k) := by
      rw [hanswer]
      exact not_pending_of_ready hready
    obtain ⟨hresult, hlooks, -⟩ :=
      waitFor_ends_in_time hprompt hpace ⟨hk, hpending, fun h => absurd h hstops⟩
    rw [hanswer, closing, if_pos hready] at hresult
    exact ⟨hresult, hlooks⟩
  case failed =>
    intro k f hk hpending hanswer
    have hstops : ¬Pending (w.answerAt c runner past k) := by
      rw [hanswer]
      exact id
    obtain ⟨hresult, hlooks, -⟩ :=
      waitFor_ends_in_time hprompt hpace ⟨hk, hpending, fun h => absurd h hstops⟩
    rw [hanswer] at hresult
    exact ⟨hresult, hlooks⟩
  case timedOut =>
    intro hpending
    have hall := hpending _ (Nat.le_refl _)
    obtain ⟨hresult, hlooks, -⟩ := waitFor_ends_in_time hprompt hpace
      ⟨Nat.le_refl _, fun j hj => hpending j (Nat.le_of_lt hj), fun _ => rfl⟩
    cases hanswer : w.answerAt c runner past (w.pauses c) with
    | error f =>
      rw [hanswer] at hall
      exact hall.elim
    | ok status =>
      rw [hanswer] at hall hresult
      have hready : status.ready = false := hall
      rw [closing, hready, if_neg Bool.false_ne_true,
        lookAt_pauses (Nat.lt_of_lt_of_le (by decide) hpace)] at hresult
      exact ⟨status, rfl, hresult, hlooks⟩
  case looks =>
    have hle := hlast.le
    have hcounted : 24 * 60 * 60 * 1000 + 1 < UInt32.size := by decide
    omega
  case punctual =>
    intro front c' later h
    rw [h] at hontime
    exact hontime.due
  case deadline =>
    intro attempts elapsed detail h
    exact exists_look_at_deadline hprompt hpace h
  case restful =>
    intro front d later h
    rw [h] at hontime
    exact hontime.due

end Waiter

/-! ### Sequences of answers -/

/-- Answers the looks of a run with a sequence, behind some looks that were made before. -/
def Probe.ofSequence (answers : Nat → Except Failure Status) (earlier : Nat) : Probe := fun _ => do
  let looks := (checksOf (← Attempt.always Session.past)).length
  Attempt.ofExcept (answers (looks - earlier - 1))

namespace Waiter

section Sequence

variable (answers : Nat → Except Failure Status) (interval : Duration)

theorem prompt_ofSequence (earlier : Nat) : (mk (.ofSequence answers earlier) interval).Prompt :=
  fun _ _ _ => ⟨rfl, rfl⟩

/-- **A wait can be given any answers**, whatever has happened before it. -/
theorem answerAt_ofSequence (c : Condition) (runner : Runner) (past : List Event) (k : Nat) :
    (mk (.ofSequence answers (checksOf past).length) interval).answerAt c runner past k =
      answers k := by
  let w : Waiter := ⟨.ofSequence answers (checksOf past).length, interval⟩
  have hprompt : w.Prompt := prompt_ofSequence answers interval _
  have hlooks : (checksOf (past ++ w.before c runner past k ++ [.checked c])).length =
      (checksOf past).length + k + 1 := by
    rw [checksOf_append, checksOf_append, checksOf_before hprompt, List.length_append,
      List.length_append, List.length_replicate]
    rfl
  have hindex : (checksOf past).length + k + 1 - (checksOf past).length - 1 = k := by omega
  have hresult : w.answerAt c runner past k =
      answers ((checksOf (past ++ w.before c runner past k ++ [.checked c])).length -
        (checksOf past).length - 1) := rfl
  rw [hresult, hlooks, hindex]

end Sequence

/-- A workload that is there at the fourth look, and not before. -/
def lateAnswers (k : Nat) : Except Failure Status := .ok ⟨decide (3 ≤ k), "look " ++ toString k⟩

/-- The workload that is waited for, for no longer than 25 seconds. -/
def lateCondition : Condition := ⟨.deployment, "frontend", "default", .available, .ofSeconds 25⟩

/-- A workload that is there when the time is up is there in time: at a pace of 10 seconds, the last
look is made behind 25 of them. -/
theorem exact_lateAnswers :
    let w : Waiter := ⟨.ofSequence lateAnswers 0, .ofSeconds 10⟩
    w.Prompt ∧ leastPause.nanos ≤ w.interval.nanos ∧
      (∀ k, w.answerAt lateCondition (fun _ _ => .error (.io "")) [] k = lateAnswers k) ∧
      w.Exact lateCondition lateAnswers
        ((w.waitFor lateCondition).events (fun _ _ => .error (.io "")) [])
        ((w.waitFor lateCondition).result (fun _ _ => .error (.io "")) []) ∧
      (w.waitFor lateCondition).result (fun _ _ => .error (.io "")) [] =
        .ok (.satisfied 4 (.ofSeconds 25) "look 3") := by
  intro w
  have hprompt : w.Prompt := prompt_ofSequence lateAnswers _ 0
  have hpace : leastPause.nanos ≤ w.interval.nanos := by decide
  have hanswers : ∀ k, w.answerAt lateCondition (fun _ _ => .error (.io "")) [] k =
      lateAnswers k := answerAt_ofSequence lateAnswers _ lateCondition _ []
  have hexact := exact_waitFor hprompt hpace lateCondition (fun _ _ => .error (.io "")) []
    lateAnswers hanswers
  have hpending : ∀ j < 3, Pending (lateAnswers j) := fun j hj =>
    decide_eq_false (Nat.not_le.mpr hj)
  have hplaces : 3 ≤ w.pauses lateCondition := by decide +kernel
  have hdue : w.lookAt lateCondition 3 = .ofSeconds 25 := by decide +kernel
  have hready : lateAnswers 3 = .ok ⟨true, "look 3"⟩ := rfl
  obtain ⟨hresult, -⟩ := hexact.satisfied 3 _ hplaces hpending hready rfl
  rw [hdue] at hresult
  exact ⟨hprompt, hpace, hanswers, hexact, hresult⟩

end Waiter

end Rollout
