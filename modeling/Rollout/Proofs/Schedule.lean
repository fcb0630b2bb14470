import Rollout.Proofs.Attempt
import Rollout.Readiness.Waiter

/-!
# When workloads are looked at

The looks of a wait follow a schedule: one at once, one after every interval, and the last one when
the time is up. The schedule is known beforehand (`Rollout.Waiter.lookAt`), and so is the number of
pauses that fill the time (`Rollout.Waiter.pauses`); all that the answers decide is where in it the
wait ends. This file proves that a wait keeps to its schedule, `Rollout.Waiter.timed_waitFor`: it
never makes more looks than there are places for one, it ends at the time of its last look, and it
ends for lack of time only behind the last place, when exactly its time has passed.

A wait goes by rounds. A round ends the wait with its look (`Rollout.Waiter.waitFrom_last`) or leads
to the next place (`Rollout.Waiter.waitFrom_next`), so that what a wait does before a place is known
as well (`Rollout.Waiter.before`): it is what all rounds before it have done, with the answers that
they got. Where a wait ends, and with what, is `Rollout.Waiter.waitFor_ends`.

Time passes only by pauses: a look is *prompt* when it takes none. The interval has to be at least
the shortest pause that can be made.
-/

namespace Rollout

/-! ### Time -/

theorem nanos_foldl_pause (events : List Event) (t : Duration) :
    (events.foldl (fun t e => t + e.pause) t).nanos = t.nanos + (timeOf events).nanos := by
  induction events generalizing t with
  | nil => rfl
  | cons e rest ih =>
    have hcons : timeOf (e :: rest) =
        rest.foldl (fun t e => t + e.pause) (Duration.zero + e.pause) := rfl
    rw [List.foldl_cons, ih, hcons, ih, Duration.nanos_add, Duration.nanos_add]
    have hzero : Duration.zero.nanos = 0 := rfl
    omega

/-- The time of two histories, one behind the other. -/
theorem nanos_timeOf_append (before after : List Event) :
    (timeOf (before ++ after)).nanos = (timeOf before).nanos + (timeOf after).nanos := by
  rw [timeOf, List.foldl_append, nanos_foldl_pause]
  rfl

theorem Duration.ext {a b : Duration} (h : a.nanos = b.nanos) : a = b := by
  obtain ⟨n⟩ := a
  obtain ⟨m⟩ := b
  exact congrArg _ h

/-- An answer that leaves a wait to go on. -/
def Pending : Except Failure Status → Prop
  | .ok status => status.ready = false
  | .error _ => False

theorem not_pending_of_ready {status : Status} (h : status.ready = true) :
    ¬Pending (.ok status) := fun hpending => Bool.false_ne_true (hpending.symm.trans h)

namespace Waiter

/-! ### The schedule -/

section Schedule

variable (w : Waiter) (c : Condition)

/-- How many pauses fill the time of a wait, the last one perhaps not whole. -/
def pauses : Nat := ((limit c).nanos + (w.interval.nanos - 1)) / w.interval.nanos

/-- When the look behind `k` others is due. -/
def lookAt (k : Nat) : Duration := ⟨min (k * w.interval.nanos) (limit c).nanos⟩

variable {w c}

/-- So many pauses are enough that fill the time. -/
theorem pauses_le_iff (h : 0 < w.interval.nanos) {k : Nat} :
    w.pauses c ≤ k ↔ (limit c).nanos ≤ k * w.interval.nanos := by
  rw [pauses, Nat.div_le_iff_le_mul_add_pred h, Nat.mul_comm]
  omega

/-- Before the last place there is time left. -/
theorem lookAt_lt_iff (h : 0 < w.interval.nanos) {k : Nat} :
    (w.lookAt c k).nanos < (limit c).nanos ↔ k < w.pauses c := by
  have hle := pauses_le_iff (c := c) h (k := k)
  simp only [lookAt]
  omega

theorem lookAt_zero : w.lookAt c 0 = .zero := by
  refine Duration.ext ?_
  simp only [lookAt, Duration.zero]
  omega

/-- The last place is where the time is up. -/
theorem lookAt_pauses (h : 0 < w.interval.nanos) : w.lookAt c (w.pauses c) = limit c := by
  refine Duration.ext ?_
  have hplaces := lookAt_lt_iff (c := c) h (k := w.pauses c)
  have hend : (w.lookAt c (w.pauses c)).nanos ≤ (limit c).nanos := Nat.min_le_right ..
  omega

/-- No wait has more pauses than a day has milliseconds. -/
theorem pauses_le (hpace : leastPause.nanos ≤ w.interval.nanos) (c : Condition) :
    w.pauses c ≤ 24 * 60 * 60 * 1000 := by
  rw [pauses_le_iff (Nat.lt_of_lt_of_le (by decide) hpace)]
  have hlimit : (limit c).nanos ≤ 24 * 60 * 60 * 1000 * leastPause.nanos := by
    rw [limit, Duration.nanos_min]
    exact Nat.min_le_right ..
  exact Nat.le_trans hlimit (Nat.mul_le_mul_left _ hpace)

/-- From place to place it is one pause. -/
theorem lookAt_succ (hpace : leastPause.nanos ≤ w.interval.nanos) (k : Nat) :
    w.lookAt c k + pause w.interval (limit c) (w.lookAt c k) = w.lookAt c (k + 1) := by
  refine Duration.ext ?_
  simp only [lookAt, pause, Duration.nanos_add, Nat.add_one_mul]
  omega

end Schedule

/-! ### Rounds -/

section Rounds

variable (w : Waiter) (c : Condition) (runner : Runner) (past : List Event)

/-- What a look does, with the mark that it leaves. -/
def lookEvents : List Event := .checked c :: (w.probe c).events runner (past ++ [.checked c])

/-- What a look is answered. -/
def lookResult : Except Failure Status := (w.probe c).result runner (past ++ [.checked c])

/-- What a wait comes to that ends with some look, given when it is made and what it is answered. -/
def closing (attempts : Nat) (elapsed : Duration) : Except Failure Status → Except Failure Wait
  | .error f => .error f
  | .ok status =>
    if status.ready then .ok (.satisfied attempts elapsed status.detail)
    else .ok (.timedOut attempts elapsed status.detail)

theorem closing_eq_satisfied {attempts n : Nat} {elapsed t : Duration} {detail : String}
    {answer : Except Failure Status}
    (h : closing attempts elapsed answer = .ok (.satisfied n t detail)) :
    n = attempts ∧ t = elapsed ∧ answer = .ok ⟨true, detail⟩ := by
  cases answer with
  | error f => cases h
  | ok status =>
    by_cases hready : status.ready = true
    · rw [closing, if_pos hready] at h
      cases h
      exact ⟨rfl, rfl, by rw [← hready]⟩
    · rw [closing, if_neg hready] at h
      cases h

theorem closing_eq_timedOut {attempts n : Nat} {elapsed t : Duration} {detail : String}
    {answer : Except Failure Status}
    (h : closing attempts elapsed answer = .ok (.timedOut n t detail)) :
    n = attempts ∧ t = elapsed ∧ Pending answer := by
  cases answer with
  | error f => cases h
  | ok status =>
    by_cases hready : status.ready = true
    · rw [closing, if_pos hready] at h
      cases h
    · rw [closing, if_neg hready] at h
      cases h
      exact ⟨rfl, rfl, Bool.eq_false_iff.mpr hready⟩

variable {w c runner past} (attempts : Nat) {elapsed : Duration}

/-- **A round that ends the wait**: the answer does, or there is no time left. -/
theorem waitFrom_last
    (h : Pending (w.lookResult c runner past) → (limit c).nanos ≤ elapsed.nanos) :
    (w.waitFrom c attempts elapsed).result runner past =
        closing (attempts + 1) elapsed (w.lookResult c runner past) ∧
      (w.waitFrom c attempts elapsed).events runner past = w.lookEvents c runner past := by
  rw [waitFrom, Attempt.result_bind_of_ok (Attempt.result_always _),
    Attempt.events_bind_of_ok (Attempt.result_always _), Attempt.events_always,
    Session.events_check]
  unfold lookResult at h ⊢
  unfold lookEvents
  cases hlook : (w.probe c).result runner (past ++ [.checked c]) with
  | error f =>
    rw [Attempt.result_bind_of_error hlook, Attempt.events_bind_of_error hlook]
    exact ⟨rfl, rfl⟩
  | ok status =>
    rw [Attempt.result_bind_of_ok hlook, Attempt.events_bind_of_ok hlook]
    rw [hlook] at h
    by_cases hready : status.ready = true
    · simp only [closing, hready, if_true, Attempt.result_pure, Attempt.events_pure,
        List.append_nil, List.singleton_append, and_self]
    · have hlate : ¬elapsed.nanos < (limit c).nanos :=
        Nat.not_lt.mpr (h (Bool.eq_false_iff.mpr hready))
      simp only [closing, hready, hlate, if_false, Attempt.result_pure,
        Attempt.events_pure, List.append_nil, List.singleton_append, and_self, reduceDIte,
        Bool.false_eq_true]

/-- **A round behind which the wait goes on**, with the pause before the next one. -/
theorem waitFrom_next (h : Pending (w.lookResult c runner past))
    (hleft : elapsed.nanos < (limit c).nanos) :
    let d := pause w.interval (limit c) elapsed
    let front := w.lookEvents c runner past ++ [.slept d]
    (w.waitFrom c attempts elapsed).result runner past =
        (w.waitFrom c (attempts + 1) (elapsed + d)).result runner (past ++ front) ∧
      (w.waitFrom c attempts elapsed).events runner past =
        front ++ (w.waitFrom c (attempts + 1) (elapsed + d)).events runner (past ++ front) := by
  intro d front
  rw [waitFrom, Attempt.result_bind_of_ok (Attempt.result_always _),
    Attempt.events_bind_of_ok (Attempt.result_always _), Attempt.events_always,
    Session.events_check]
  unfold lookResult at h
  cases hlook : (w.probe c).result runner (past ++ [.checked c]) with
  | error f =>
    rw [hlook] at h
    exact h.elim
  | ok status =>
    rw [hlook] at h
    have hready : status.ready = false := h
    rw [Attempt.result_bind_of_ok hlook, Attempt.events_bind_of_ok hlook, hready,
      if_neg Bool.false_ne_true, dif_pos hleft,
      Attempt.result_bind_of_ok (Attempt.result_always _),
      Attempt.events_bind_of_ok (Attempt.result_always _), Attempt.events_always,
      Session.events_sleep]
    have hfront : past ++ [.checked c] ++ (w.probe c).events runner (past ++ [.checked c]) ++
        [.slept d] = past ++ front := by
      simp [front, lookEvents]
    rw [hfront]
    refine ⟨rfl, ?_⟩
    simp only [front, lookEvents, List.cons_append, List.nil_append, List.append_assoc]
    rfl

end Rounds

/-! ### The places of a wait -/

section Places

variable (w : Waiter) (c : Condition) (runner : Runner) (past : List Event)

/-- What a wait does before the look behind `k` others, if it comes to that look. -/
def before : Nat → List Event
  | 0 => []
  | k + 1 => before k ++ w.lookEvents c runner (past ++ before k) ++
      [.slept (pause w.interval (limit c) (w.lookAt c k))]

/-- What it does until it is done with that look. -/
def through (k : Nat) : List Event :=
  w.before c runner past k ++ w.lookEvents c runner (past ++ w.before c runner past k)

theorem before_succ (k : Nat) : w.before c runner past (k + 1) =
    w.through c runner past k ++ [.slept (pause w.interval (limit c) (w.lookAt c k))] := rfl

/-- What the look behind `k` others is answered, if the wait comes to it. -/
def answerAt (k : Nat) : Except Failure Status :=
  w.lookResult c runner (past ++ w.before c runner past k)

/-- **The place where a wait ends**, given the answers: the first one with an answer that is not
pending, or the last one. -/
structure EndsAt (w : Waiter) (c : Condition) (answers : Nat → Except Failure Status) (k : Nat) :
    Prop where
  le : k ≤ w.pauses c
  pending : ∀ j < k, Pending (answers j)
  last : Pending (answers k) → k = w.pauses c

/-- Every wait ends somewhere. -/
theorem exists_endsAt (answers : Nat → Except Failure Status) : ∃ k, w.EndsAt c answers k := by
  -- among the places up to `n`, the first one without a pending answer, or else `n` itself
  have hfirst : ∀ n, ∃ k ≤ n, (∀ j < k, Pending (answers j)) ∧ (Pending (answers k) → k = n) := by
    intro n
    induction n with
    | zero => exact ⟨0, Nat.le_refl 0, nofun, fun _ => rfl⟩
    | succ n ih =>
      obtain ⟨k, hk, hbefore, hlast⟩ := ih
      by_cases hpending : Pending (answers k)
      · obtain rfl := hlast hpending
        refine ⟨k + 1, Nat.le_refl _, fun j hj => ?_, fun _ => rfl⟩
        rcases Nat.lt_succ_iff_lt_or_eq.mp hj with hj | rfl
        · exact hbefore j hj
        · exact hpending
      · exact ⟨k, Nat.le_succ_of_le hk, hbefore, fun h => absurd h hpending⟩
  obtain ⟨k, hle, hpending, hlast⟩ := hfirst (w.pauses c)
  exact ⟨k, hle, hpending, hlast⟩

variable {w c runner past} {k : Nat} (hpace : leastPause.nanos ≤ w.interval.nanos)

include hpace

/-- **A wait comes to a place** before which all answers are pending. -/
theorem waitFor_reaches (hk : k ≤ w.pauses c)
    (hpending : ∀ j < k, Pending (w.answerAt c runner past j)) :
    (w.waitFor c).result runner past =
        (w.waitFrom c k (w.lookAt c k)).result runner (past ++ w.before c runner past k) ∧
      (w.waitFor c).events runner past = w.before c runner past k ++
        (w.waitFrom c k (w.lookAt c k)).events runner (past ++ w.before c runner past k) := by
  induction k with
  | zero =>
    rw [lookAt_zero, before, List.append_nil]
    exact ⟨rfl, rfl⟩
  | succ k ih =>
    have hpositive : 0 < w.interval.nanos := Nat.lt_of_lt_of_le (by decide) hpace
    have hleft : (w.lookAt c k).nanos < (limit c).nanos := (lookAt_lt_iff hpositive).mpr hk
    obtain ⟨hresult, hevents⟩ :=
      ih (Nat.le_of_succ_le hk) fun j hj => hpending j (Nat.lt_succ_of_lt hj)
    obtain ⟨hresult', hevents'⟩ :=
      waitFrom_next k (hpending k (Nat.lt_succ_self k)) hleft
    rw [hresult, hevents, hresult', hevents', lookAt_succ hpace, before_succ, through]
    simp only [List.append_assoc, and_self]

/-- **How a wait ends**: with the look at the place where it does. -/
theorem waitFor_ends (h : w.EndsAt c (w.answerAt c runner past) k) :
    (w.waitFor c).result runner past =
        closing (k + 1) (w.lookAt c k) (w.answerAt c runner past k) ∧
      (w.waitFor c).events runner past = w.through c runner past k := by
  have hpositive : 0 < w.interval.nanos := Nat.lt_of_lt_of_le (by decide) hpace
  have hlast : Pending (w.answerAt c runner past k) → (limit c).nanos ≤ (w.lookAt c k).nanos := by
    intro hpending
    obtain rfl := h.last hpending
    have hplaces := lookAt_lt_iff (c := c) hpositive (k := w.pauses c)
    omega
  obtain ⟨hresult, hevents⟩ := waitFor_reaches hpace h.le h.pending
  obtain ⟨hresult', hevents'⟩ := waitFrom_last k hlast
  rw [hresult, hevents, hresult', hevents']
  exact ⟨rfl, rfl⟩

end Places

/-! ### Prompt looks -/

/-- Looks that take no time, and are no more than one. -/
def Prompt (w : Waiter) : Prop :=
  ∀ c runner past, timeOf ((w.probe c).events runner past) = .zero ∧
    checksOf ((w.probe c).events runner past) = []

section Prompt

variable {w : Waiter} (hprompt : w.Prompt) (c : Condition) (runner : Runner) (past : List Event)

include hprompt

theorem checksOf_lookEvents : checksOf (w.lookEvents c runner past) = [c] := by
  have hnone := (hprompt c runner (past ++ [.checked c])).2
  rw [lookEvents, ← List.singleton_append, checksOf_append, hnone]
  rfl

theorem nanos_lookEvents : (timeOf (w.lookEvents c runner past)).nanos = 0 := by
  have hquick := (hprompt c runner (past ++ [.checked c])).1
  rw [lookEvents, ← List.singleton_append, nanos_timeOf_append, hquick]
  rfl

theorem checksOf_before (k : Nat) :
    checksOf (w.before c runner past k) = List.replicate k c := by
  induction k with
  | zero => rfl
  | succ k ih =>
    rw [before_succ, through, checksOf_append, checksOf_append, ih, checksOf_lookEvents hprompt,
      ← List.replicate_succ']
    exact List.append_nil _

/-- So many looks have been made in a place. -/
theorem length_checksOf_through (k : Nat) :
    (checksOf (w.through c runner past k)).length = k + 1 := by
  rw [through, checksOf_append, checksOf_before hprompt, checksOf_lookEvents hprompt,
    List.length_append, List.length_replicate]
  rfl

/-- **A wait comes to each place when the look is due.** -/
theorem timeOf_before (hpace : leastPause.nanos ≤ w.interval.nanos) (k : Nat) :
    timeOf (w.before c runner past k) = w.lookAt c k := by
  induction k with
  | zero => rw [lookAt_zero]; rfl
  | succ k ih =>
    have hpause : ∀ d : Duration, (timeOf [.slept d]).nanos = d.nanos := fun _ => Nat.zero_add _
    rw [← lookAt_succ hpace]
    refine Duration.ext ?_
    rw [before_succ, through, nanos_timeOf_append, nanos_timeOf_append, ih,
      nanos_lookEvents hprompt, hpause, Nat.add_zero, Duration.nanos_add]

theorem timeOf_through (hpace : leastPause.nanos ≤ w.interval.nanos) (k : Nat) :
    timeOf (w.through c runner past k) = w.lookAt c k := by
  refine Duration.ext ?_
  rw [through, nanos_timeOf_append, timeOf_before hprompt c runner past hpace,
    nanos_lookEvents hprompt, Nat.add_zero]

end Prompt

/-! ### A wait -/

/-- **A wait that keeps to its schedule**, given the looks that were made before, what happens in it
and its result. -/
structure Timed (w : Waiter) (c : Condition) (before : Nat) (events : List Event)
    (result : Except Failure Wait) : Prop where
  /-- There is a look, and never more than there are places for one. -/
  some_look : 0 < (checksOf events).length
  looks_le : before + (checksOf events).length ≤ w.pauses c + 1
  /-- The wait ends at the time of its last look. -/
  time : (w.lookAt c before).nanos + (timeOf events).nanos =
    (w.lookAt c (before + (checksOf events).length - 1)).nanos
  satisfied : ∀ attempts elapsed detail, result = .ok (.satisfied attempts elapsed detail) →
    attempts = before + (checksOf events).length ∧ elapsed = w.lookAt c (attempts - 1)
  /-- It ends for lack of time behind the last place only. -/
  timedOut : ∀ attempts elapsed status, result = .ok (.timedOut attempts elapsed status) →
    attempts = before + (checksOf events).length ∧ attempts = w.pauses c + 1 ∧ elapsed = limit c

/-- **A wait keeps to its schedule.** -/
theorem timed_waitFor {w : Waiter} (hprompt : w.Prompt)
    (hpace : leastPause.nanos ≤ w.interval.nanos) (c : Condition) (runner : Runner)
    (past : List Event) :
    w.Timed c 0 ((w.waitFor c).events runner past) ((w.waitFor c).result runner past) := by
  obtain ⟨k, hends⟩ := w.exists_endsAt c (w.answerAt c runner past)
  obtain ⟨hresult, hevents⟩ := waitFor_ends hpace hends
  have hlooks : 0 + (checksOf ((w.waitFor c).events runner past)).length = k + 1 := by
    rw [hevents, length_checksOf_through hprompt, Nat.zero_add]
  have htime : timeOf ((w.waitFor c).events runner past) = w.lookAt c k := by
    rw [hevents, timeOf_through hprompt c runner past hpace]
  have hle := hends.le
  rw [hresult]
  refine ⟨by omega, by omega, ?_, ?_, ?_⟩
  · rw [hlooks, htime, lookAt_zero]
    exact Nat.zero_add _
  · intro attempts elapsed detail h
    obtain ⟨rfl, rfl, -⟩ := closing_eq_satisfied h
    exact ⟨hlooks.symm, rfl⟩
  · intro attempts elapsed status h
    obtain ⟨rfl, rfl, hpending⟩ := closing_eq_timedOut h
    obtain rfl := hends.last hpending
    exact ⟨hlooks.symm, rfl, lookAt_pauses (Nat.lt_of_lt_of_le (by decide) hpace)⟩

end Waiter

end Rollout
