import Rollout.Proofs.Contract
import Rollout.Stages.Provisioning

/-!
# What the answer to a creation comes to

Three stages create something that may be there already, each by one command under the policy of the
stage. What the answer to that command is taken for is a relation (`Rollout.Policy.TakesFor`): a
success is a creation, an ordinary failure that says so is a duplicate if the policy absorbs
duplicates, and nothing else is either. `Rollout.Stages.Provisioning.ensures_created` is the
contract of such a command.

What an error text says is told by its letters: of a duplicate in one of three spellings
(`Rollout.Policy.Spelled`), and of a cluster that is not there in one spelling or in words of any
case (`Rollout.Tools.Gcloud.TellsAbsence`).
-/

namespace Rollout

/-! ### What texts say -/

/-- **A text holds another.** -/
def Text.Holds (text part : String) : Prop :=
  ∃ front behind, text.toList = front ++ part.toList ++ behind

/-- **A text says some words**, which are given in lower case, in whatever case. -/
def Text.SaidIn (words text : String) : Prop :=
  ∃ front said behind, text.toList = front ++ said ++ behind ∧
    said.map Char.toLower = words.toList

/-- What is said in whatever case occurs in lower case. -/
theorem Text.contains_lower_iff {words text : String} :
    contains (lower text) words = true ↔ SaidIn words text := by
  rw [contains, occursIn_iff, lower, String.toList_ofList]
  constructor
  · rintro ⟨front, behind, htext⟩
    obtain ⟨front, behind, hsplit, hfront, rfl⟩ := List.map_eq_append_iff.mp htext
    obtain ⟨front, said, rfl, rfl, hsaid⟩ := List.map_eq_append_iff.mp hfront
    exact ⟨front, said, behind, hsplit, hsaid⟩
  · rintro ⟨front, said, behind, htext, hsaid⟩
    refine ⟨front.map Char.toLower, behind.map Char.toLower, ?_⟩
    rw [htext, List.map_append, List.map_append, hsaid]

/-- **A duplicate is spelled** in a text. -/
def Policy.Spelled (stderr : String) : Prop :=
  ∃ marker ∈ ["already exists", "ALREADY_EXISTS", "AlreadyExists"], Text.Holds stderr marker

theorem Policy.saysDuplicate_iff {stderr : String} : saysDuplicate stderr = true ↔ Spelled stderr := by
  rw [saysDuplicate, List.any_eq_true]
  exact exists_congr fun marker => and_congr_right fun _ => Text.occursIn_iff ..

/-- **A text tells that a cluster is not there.** -/
def Tools.Gcloud.TellsAbsence (stderr : String) : Prop :=
  Text.Holds stderr "NOT_FOUND" ∨ Text.SaidIn "not found" stderr

theorem Tools.Gcloud.saysNotFound_iff {stderr : String} :
    saysNotFound stderr = true ↔ TellsAbsence stderr := by
  rw [saysNotFound, Bool.or_eq_true, Text.contains_lower_iff]
  exact or_congr_left (Text.occursIn_iff ..)

/-! ### What an answer is taken for -/

/-- **What a policy takes an answer for.** -/
inductive Policy.TakesFor (policy : Policy) : Answer → Creation → Prop
  | created {o : Output} (h : o.status = .success) : TakesFor policy (.ok o) .created
  | absorbed {o : Output} {n : Int32} (hpolicy : policy = .treatDuplicateAsSuccess)
      (h : o.status = .error n) (hdup : Policy.Spelled o.stderr) :
      TakesFor policy (.ok o) .alreadyExisted

variable {policy : Policy} {o : Output} {creation : Creation}

/-- An output is resolved to what the policy takes it for. -/
theorem Policy.resolve_eq_ok_iff (label : String) :
    policy.resolve label o = .ok creation ↔ policy.TakesFor (.ok o) creation := by
  unfold Policy.resolve
  constructor
  · intro h
    split at h
    · rename_i hs
      obtain rfl := Except.ok.inj h
      exact .created hs
    · rename_i n hs
      split at h
      · rename_i hdup
        obtain rfl := Except.ok.inj h
        exact .absorbed hdup.1 hs (saysDuplicate_iff.mp hdup.2)
      · cases h
    · cases h
    · cases h
  · rintro (h | ⟨rfl, h, hdup⟩)
    · rw [h]
    · rw [h]
      exact if_pos ⟨rfl, saysDuplicate_iff.mpr hdup⟩

open Attempt

/-- **Something is created by one command**, whose answer decides what became of it. -/
theorem Stages.Provisioning.ensures_created (command : Command) (policy : Policy) (label : String) :
    (created policy label (run command)).Ensures
      (fun creation calls => ∃ answer, calls = [(command, answer)] ∧
        policy.TakesFor answer creation)
      fun _ calls => ∃ answer, calls = [(command, answer)] ∧
        ∀ creation, ¬policy.TakesFor answer creation := by
  refine (ensures_run command).bind (fun o before hbefore => ?_) ?_
  · refine (ensures_ofExcept _).mono ?_ ?_
    · rintro creation after ⟨hresolve, rfl⟩
      refine ⟨.ok o, by rw [hbefore, List.append_nil], ?_⟩
      exact (Policy.resolve_eq_ok_iff label).mp hresolve
    · rintro e after ⟨hresolve, rfl⟩
      refine ⟨.ok o, by rw [hbefore, List.append_nil], fun creation htakes => ?_⟩
      rw [(Policy.resolve_eq_ok_iff label).mpr htakes] at hresolve
      cases hresolve
  · rintro e calls rfl
    exact ⟨.error e, rfl, nofun⟩

/-- A creation does nothing but to run its command. -/
theorem Stages.Provisioning.events_created (command : Command) (policy : Policy) (label : String)
    (word : ProcessError → Failure) (runner : Runner) (past : List Event) :
    (mapFailure word (created policy label (run command))).events runner past =
      [.ran command (runner (commandsOf past) command)] := by
  rw [events_mapFailure]
  exact events_judge (run command) _

/-- **What a creation comes to** is what the policy takes the answer of the runner for. -/
theorem Stages.Provisioning.result_created (command : Command) (policy : Policy) (label : String)
    (word : ProcessError → Failure) (runner : Runner) (past : List Event) :
    match (mapFailure word (created policy label (run command))).result runner past with
    | .ok creation => policy.TakesFor (runner (commandsOf past) command) creation
    | .error f => (∃ e, f = word e) ∧
        ∀ creation, ¬policy.TakesFor (runner (commandsOf past) command) creation := by
  have hcontract := (ensures_created command policy label).mapFailure word runner past
  rw [events_created] at hcontract
  -- the one call is the one that the contract is about
  have hanswer {answer : Answer}
      (h : callsOf [.ran command (runner (commandsOf past) command)] = [(command, answer)]) :
      answer = runner (commandsOf past) command :=
    ((Prod.mk.inj (List.cons.inj h).1).2).symm
  split
  · rename_i creation hr
    rw [hr] at hcontract
    obtain ⟨answer, hcalls, htakes⟩ := hcontract
    obtain rfl := hanswer hcalls
    exact htakes
  · rename_i f hr
    rw [hr] at hcontract
    obtain ⟨e, hf, answer, hcalls, hno⟩ := hcontract
    obtain rfl := hanswer hcalls
    exact ⟨⟨e, hf⟩, hno⟩

end Rollout
