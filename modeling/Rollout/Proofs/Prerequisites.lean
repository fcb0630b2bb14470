import Rollout.Proofs.Answered
import Rollout.Proofs.Contract
import Rollout.Proofs.FailFast
import Rollout.Proofs.Reading

/-!
# The first requirement that is not met

Tools are looked for one by one, and when all are there the cloud is asked who is logged in. What a
lookup comes to is told by its answers (`Rollout.Stages.Prerequisites.LookedUp`):

| `which` | `--version` | the tool |
|---|---|---|
| succeeds and writes something | | resolves |
| ends otherwise | | does not resolve |
| is not found | starts, however it ends | resolves |
| is not found | is not found, either | does not resolve |
| goes wrong in another way | | is not known of |
| is not found | goes wrong in another way | is not known of |

A check ends at the first tool that does not resolve or is not known of, or else with the listing of
accounts. Its courses are `Rollout.Stages.Prerequisites.Course`, and since the answers are those of
the runner, there is one for each runner. The main statement is
`Rollout.Stages.Prerequisites.checked_check`.
-/

namespace Rollout.Stages.Prerequisites

open Attempt Tools

variable {tool : String} {tools : List String} {calls front last : List Call} {f : Failure}

/-! ### Lookups -/

/-- **What a lookup comes to**, with its calls: whether the tool resolves, or what went wrong. -/
inductive LookedUp (tool : String) : List Call → Except ProcessError Bool → Prop
  | listed {o : Output} (hstatus : o.status = .success)
      (hstdout : ∃ c ∈ o.stdout.toList, Text.isBlank c = false) :
      LookedUp tool [(.of "which" [tool], .ok o)] (.ok true)
  | unlisted {o : Output}
      (h : o.status = .success → ∀ c ∈ o.stdout.toList, Text.isBlank c = true) :
      LookedUp tool [(.of "which" [tool], .ok o)] (.ok false)
  | broken {e : ProcessError} (h : ∀ name, e ≠ .commandNotFound name) :
      LookedUp tool [(.of "which" [tool], .error e)] (.error e)
  | started {name : String} {o : Output} :
      LookedUp tool [(.of "which" [tool], .error (.commandNotFound name)),
        (.of tool ["--version"], .ok o)] (.ok true)
  | unstarted {name name' : String} :
      LookedUp tool [(.of "which" [tool], .error (.commandNotFound name)),
        (.of tool ["--version"], .error (.commandNotFound name'))] (.ok false)
  | brokenStart {name : String} {e : ProcessError} (h : ∀ name, e ≠ .commandNotFound name) :
      LookedUp tool [(.of "which" [tool], .error (.commandNotFound name)),
        (.of tool ["--version"], .error e)] (.error e)

/-- The answers decide what a lookup comes to. -/
theorem LookedUp.unique {r r' : Except ProcessError Bool} (h : LookedUp tool calls r)
    (h' : LookedUp tool calls r') : r = r' := by
  cases h with
  | listed hstatus hstdout =>
    cases h' with
    | listed => rfl
    | unlisted hblank =>
      obtain ⟨c, hc, hno⟩ := hstdout
      rw [hblank hstatus c hc] at hno
      cases hno
  | unlisted hblank =>
    cases h' with
    | listed hstatus hstdout =>
      obtain ⟨c, hc, hno⟩ := hstdout
      rw [hblank hstatus c hc] at hno
      cases hno
    | unlisted => rfl
  | broken _ => cases h'; rfl
  | started => cases h'; rfl
  | unstarted =>
    cases h' with
    | unstarted => rfl
    | brokenStart hno => exact absurd rfl (hno _)
  | brokenStart hno =>
    cases h' with
    | unstarted => exact absurd rfl (hno _)
    | brokenStart _ => rfl

/-- **All tools resolve**, each by its own lookup and in their order. -/
inductive Resolved : List String → List Call → Prop
  | nil : Resolved [] []
  | cons {tool : String} {rest : List String} {lookup calls : List Call}
      (h : LookedUp tool lookup (.ok true)) (hrest : Resolved rest calls) :
      Resolved (tool :: rest) (lookup ++ calls)

/-- **The search for tools ends at one of them**, with a failure. -/
inductive Missed (tool : String) : List Call → Failure → Prop
  | unresolved {calls : List Call} (h : LookedUp tool calls (.ok false)) :
      Missed tool calls ⟨2001, tool ++ " is not installed or not on PATH",
        .prerequisite (some (installHint tool))⟩
  | unknown {calls : List Call} {e : ProcessError} (h : LookedUp tool calls (.error e)) :
      Missed tool calls e.toFailure

/-- The command that asks who is logged in. -/
def listingCommand : Command where
  program := "gcloud"
  args := ["auth", "list", "--filter=status:ACTIVE", "--format=value(account)"]
  env := [("CLOUDSDK_CORE_DISABLE_PROMPTS", "1")]

/-- **An answer lists an account**: it is what stands between the blanks at the ends of the first line
that is not blank. -/
def Lists (answer : Answer) (account : String) : Prop :=
  ∃ o before line behind, answer = .ok o ∧ o.status = .success ∧
    Text.lines o.stdout = before ++ line :: behind ∧
    (∀ l ∈ before, ∀ c ∈ l.toList, Text.isBlank c = true) ∧
    Text.IsCore line.toList account.toList ∧ account ≠ ""

theorem trim_eq_iff_isCore {line account : String} :
    Text.trim line = account ↔ Text.IsCore line.toList account.toList := by
  rw [Text.trim]
  constructor
  · rintro rfl
    rw [String.toList_ofList]
    exact Text.isCore_trimBlanks _
  · intro h
    rw [← h.eq_trimBlanks, String.ofList_toList]

theorem trim_eq_empty_iff {line : String} :
    Text.trim line = "" ↔ ∀ c ∈ line.toList, Text.isBlank c = true := by
  rw [Text.trim, ← String.toList_inj, String.toList_ofList]
  exact Text.trimBlanks_eq_nil_iff

theorem firstLine?_eq_some_iff {listing account : String} :
    Gcloud.firstLine? listing = some account ↔ ∃ before line behind,
      Text.lines listing = before ++ line :: behind ∧
        (∀ l ∈ before, ∀ c ∈ l.toList, Text.isBlank c = true) ∧
        Text.IsCore line.toList account.toList ∧ account ≠ "" := by
  rw [Gcloud.firstLine?, List.find?_eq_some_iff_append]
  constructor
  · rintro ⟨hne, before', behind', hlines, hbefore⟩
    obtain ⟨before, rest, hsplit, rfl, hrest⟩ := List.map_eq_append_iff.mp hlines
    obtain ⟨line, behind, rfl, hline, rfl⟩ := List.map_eq_cons_iff.mp hrest
    refine ⟨before, line, behind, hsplit, fun l hl => ?_, trim_eq_iff_isCore.mp hline, ?_⟩
    · have hempty := hbefore _ (List.mem_map_of_mem hl)
      exact trim_eq_empty_iff.mp (by simpa using hempty)
    · simpa using hne
  · rintro ⟨before, line, behind, hlines, hbefore, hcore, hne⟩
    refine ⟨by simpa using hne, before.map Text.trim, behind.map Text.trim, ?_, ?_⟩
    · rw [hlines, List.map_append, List.map_cons, trim_eq_iff_isCore.mpr hcore]
    · intro text htext
      obtain ⟨l, hl, rfl⟩ := List.mem_map.mp htext
      simp [trim_eq_empty_iff.mpr (hbefore l hl)]

theorem lists_ok_iff {o : Output} {account : String} (hstatus : o.status = .success) :
    Lists (.ok o) account ↔ Gcloud.firstLine? o.stdout = some account := by
  rw [firstLine?_eq_some_iff]
  constructor
  · rintro ⟨o', before, line, behind, ho, -, h⟩
    obtain rfl := Except.ok.inj ho
    exact ⟨before, line, behind, h⟩
  · rintro ⟨before, line, behind, h⟩
    exact ⟨o, before, line, behind, rfl, hstatus, h⟩

/-- An answer lists one account. -/
theorem Lists.unique {answer : Answer} {account account' : String} (h : Lists answer account)
    (h' : Lists answer account') : account = account' := by
  obtain ⟨o, _, _, _, rfl, hstatus, -⟩ := id h
  exact Option.some.inj (((lists_ok_iff hstatus).mp h).symm.trans ((lists_ok_iff hstatus).mp h'))

/-! ### Courses of a check -/

/-- Nobody is known to be logged in. -/
structure NotAuthenticated (f : Failure) : Prop where
  title : f.matter.title = "Prerequisite"
  code : f.code = 2002
  remediation : f.remediation? = some "gcloud auth login"

/-- **What the listing of accounts comes to.** -/
inductive Concludes : Answer → Except Failure Outcome → Prop
  | somebody {answer : Answer} {account : String} (h : Lists answer account) :
      Concludes answer (.ok ⟨[], ["gcloud account " ++ account]⟩)
  | nobody {answer : Answer} {f : Failure} (h : ∀ account, ¬Lists answer account)
      (hf : NotAuthenticated f) : Concludes answer (.error f)

/-- **The courses of a check**: its calls and its result. -/
inductive Course (tools : List String) : List Call → Except Failure Outcome → Prop
  /-- A tool is missed, and all before it resolve. -/
  | missed {before behind : List String} {tool : String} {front last : List Call} {f : Failure}
      (htools : tools = before ++ tool :: behind) (hfront : Resolved before front)
      (hlast : Missed tool last f) : Course tools (front ++ last) (.error f)
  /-- All tools resolve, and the accounts are listed. -/
  | asked {front : List Call} {answer : Answer} {result : Except Failure Outcome}
      (hfront : Resolved tools front) (h : Concludes answer result) :
      Course tools (front ++ [(listingCommand, answer)]) result

/-- A lookup does not ask who is logged in, whatever the tool is. -/
theorem LookedUp.listingCommand_not_mem {r : Except ProcessError Bool}
    (h : LookedUp tool calls r) : listingCommand ∉ calls.map Prod.fst := by
  have hwhich : listingCommand ≠ .of "which" [tool] :=
    fun h => absurd (congrArg Command.program h) (by simp [listingCommand, Command.of])
  have hversion : listingCommand ≠ .of tool ["--version"] :=
    fun h => absurd (congrArg Command.args h) (by simp [listingCommand, Command.of])
  cases h <;> simp [hwhich, hversion]

theorem Missed.listingCommand_not_mem (h : Missed tool calls f) :
    listingCommand ∉ calls.map Prod.fst := by
  cases h with
  | unresolved h => exact h.listingCommand_not_mem
  | unknown h => exact h.listingCommand_not_mem

theorem Resolved.listingCommand_not_mem (h : Resolved tools calls) :
    listingCommand ∉ calls.map Prod.fst := by
  induction h with
  | nil => exact nofun
  | cons hlookup _ ih =>
    rw [List.map_append, List.mem_append]
    exact not_or.mpr ⟨hlookup.listingCommand_not_mem, ih⟩

/-- **All tools resolve, and then the accounts are listed.** -/
def Asked (tools : List String) (calls : List Call) (answer : Answer) : Prop :=
  ∃ front, calls = front ++ [(listingCommand, answer)] ∧ Resolved tools front

variable {answer : Answer} {result : Except Failure Outcome}

theorem Asked.count (h : Asked tools calls answer) :
    (calls.map Prod.fst).count listingCommand = 1 := by
  obtain ⟨front, rfl, hfront⟩ := h
  rw [List.map_append, List.count_append,
    List.count_eq_zero_of_not_mem hfront.listingCommand_not_mem]
  simp

/-- A course misses a tool, and does not ask who is logged in, or it asks. -/
theorem Course.cases (h : Course tools calls result) :
    (listingCommand ∉ calls.map Prod.fst ∧ ∃ f, result = .error f) ∨
      ∃ answer, Asked tools calls answer ∧ Concludes answer result := by
  cases h with
  | missed htools hfront hlast =>
    refine .inl ⟨?_, _, rfl⟩
    rw [List.map_append, List.mem_append]
    exact not_or.mpr ⟨hfront.listingCommand_not_mem, hlast.listingCommand_not_mem⟩
  | asked hfront h => exact .inr ⟨_, ⟨_, rfl, hfront⟩, h⟩

end Rollout.Stages.Prerequisites
