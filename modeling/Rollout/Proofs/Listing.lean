import Mathlib.Data.List.Forall2
import Rollout.Plan

/-!
# How a plan is listed

A plan is shown to be read: line by line, which stages come in which order, what each of them waits
for to be completed before it begins, and which workloads it waits for behind its work. This file
says which lines tell of which plan, without the functions that write them.

* Stages, kinds of workloads, predicates and policies go by fixed names (`Rollout.stageNames` and
  those behind it).
* A duration is told by amounts of units that add up to it (`Rollout.Duration.Told`).
* A stage takes one line, which has its number, its name and the names of its dependencies, and one
  line behind it for each of its conditions (`Rollout.Stage.Listed`).

The main statement is `Rollout.Plan.listed_describe`.
-/

namespace Rollout

/-! ### Names -/

/-- What the operator calls the stages. -/
def stageNames : List (StageId × String) :=
  [(.validate, "validate"), (.prerequisites, "prerequisites"), (.project, "project"),
    (.cluster, "cluster"), (.images, "images"), (.baseApp, "base-app"),
    (.agentSwarm, "agent-swarm")]

/-- What the cluster calls the kinds of workloads. -/
def kindNames : List (ResourceKind × String) :=
  [(.deployment, "deployment"), (.statefulSet, "statefulset"), (.service, "service")]

/-- What the operator calls the predicates. -/
def predicateNames : List (Predicate × String) :=
  [(.available, "available"), (.externalIp, "external-ip")]

theorem mem_stageNames (id : StageId) : (id, id.name) ∈ stageNames := by
  cases id <;> decide

theorem mem_kindNames (kind : ResourceKind) : (kind, kind.name) ∈ kindNames := by
  cases kind <;> decide

theorem mem_predicateNames (predicate : Predicate) :
    (predicate, predicate.name) ∈ predicateNames := by
  cases predicate <;> decide

/-! ### Durations -/

namespace Duration

/-- A unit in which durations are told: what one of it is called, what more of it are called, and how
many nanoseconds it has. -/
structure ToldUnit where
  one : String
  more : String
  nanos : Nat

/-- The units in which durations are told. -/
def toldUnits : List ToldUnit :=
  [⟨"year", "years", 31557600000000000⟩, ⟨"month", "months", 2630016000000000⟩,
    ⟨"day", "days", 86400000000000⟩, ⟨"h", "h", 3600000000000⟩, ⟨"m", "m", 60000000000⟩,
    ⟨"s", "s", 1000000000⟩, ⟨"ms", "ms", 1000000⟩, ⟨"us", "us", 1000⟩, ⟨"ns", "ns", 1⟩]

/-- A number of units as it is told. -/
def ToldUnit.amount (u : ToldUnit) (n : Nat) : String :=
  toString n ++ if n = 1 then u.one else u.more

/-- The nanoseconds of some amounts together. -/
def worth : List (Nat × ToldUnit) → Nat
  | [] => 0
  | (n, u) :: rest => n * u.nanos + worth rest

/-- **A text tells a duration**: the amounts in it, of different units and the largest first, add up
to the duration, and none of them is zero. -/
inductive Told (d : Duration) : String → Prop
  | zero (h : d.nanos = 0) : Told d "0s"
  | amounts {parts : List (Nat × ToldUnit)} (hunits : (parts.map Prod.snd).Sublist toldUnits)
      (hsome : parts ≠ []) (hpos : ∀ part ∈ parts, part.1 ≠ 0)
      (hworth : worth parts = d.nanos) :
      Told d (" ".intercalate (parts.map fun part => part.2.amount part.1))

/-- How much of each unit there is in a duration. -/
def shares (d : Duration) : List (Nat × ToldUnit) := (d.parts.map Prod.fst).zip toldUnits

theorem map_snd_shares (d : Duration) : d.shares.map Prod.snd = toldUnits := rfl

/-- A number of seconds and nanoseconds, cut into the units. -/
theorem sum_of_shares (s n : Nat) :
    s / 31557600 * 31557600000000000 + (s % 31557600 / 2630016 * 2630016000000000 +
      (s % 31557600 % 2630016 / 86400 * 86400000000000 +
        (s % 31557600 % 2630016 % 86400 / 3600 * 3600000000000 +
          (s % 31557600 % 2630016 % 86400 % 3600 / 60 * 60000000000 +
            (s % 31557600 % 2630016 % 86400 % 60 * 1000000000 +
              (n / 1000000 * 1000000 + (n / 1000 % 1000 * 1000 + n % 1000))))))) =
      1000000000 * s + n := by
  omega

theorem worth_shares (d : Duration) : worth d.shares = d.nanos := by
  -- whole seconds are cut by the units above, and what is left of them by those below
  have hsplit : nanosPerSecond * d.seconds + d.subsecond = d.nanos := Nat.div_add_mod ..
  rw [nanosPerSecond] at hsplit
  simp only [shares, parts, toldUnits, List.map_cons, List.map_nil, List.zip_cons_cons,
    List.zip_nil_right, worth, Nat.mul_one, Nat.add_zero]
  rw [sum_of_shares, hsplit]

/-- The amounts of the duration are those of the units. -/
theorem parts_eq (d : Duration) :
    d.parts = d.shares.map fun part => (part.1, if part.1 = 1 then part.2.one else part.2.more) := by
  have hmore : ("year" ++ "s" = "years" ∧ "month" ++ "s" = "months") ∧ "day" ++ "s" = "days" := by
    decide
  simp only [shares, parts, toldUnits, List.map_cons, List.map_nil, List.zip_cons_cons,
    List.zip_nil_right, hmore, ite_self]

/-- What is zero does not count. -/
theorem worth_filter_ne_zero (parts : List (Nat × ToldUnit)) :
    worth (parts.filter (·.1 ≠ 0)) = worth parts := by
  induction parts with
  | nil => rfl
  | cons part parts ih =>
    by_cases hzero : part.1 = 0
    · rw [List.filter_cons_of_neg (by simpa using hzero), ih, worth, hzero, Nat.zero_mul,
        Nat.zero_add]
    · rw [List.filter_cons_of_pos (by simpa using hzero), worth, worth, ih]

/-- **Durations are told in words that add up.** -/
theorem told_describe (d : Duration) : d.Told d.describe := by
  rw [describe]
  split
  · exact .zero ‹_›
  · rename_i hne
    have hworth := (worth_filter_ne_zero d.shares).trans d.worth_shares
    have htext : (d.parts.filter (·.1 ≠ 0)).map (fun amount => toString amount.1 ++ amount.2) =
        (d.shares.filter (·.1 ≠ 0)).map fun part => part.2.amount part.1 := by
      rw [parts_eq, List.filter_map, List.map_map]
      rfl
    -- the program takes the amounts apart by a pattern, which says the same
    change d.Told (" ".intercalate ((d.parts.filter (·.1 ≠ 0)).map fun amount =>
      toString amount.1 ++ amount.2))
    rw [htext]
    refine .amounts ?_ (fun hnil => hne ?_) (fun part hpart => ?_) hworth
    · rw [← d.map_snd_shares]
      exact List.filter_sublist.map _
    · rw [hnil] at hworth
      exact hworth.symm
    · simpa using List.of_mem_filter hpart

end Duration

/-! ### Conditions -/

/-- **A text tells of a condition**: the workload by kind, name and namespace, what is asked of it,
and how long it may take. -/
inductive Condition.Told (c : Condition) : String → Prop
  | intro {kind predicate timeout : String} (hkind : (c.kind, kind) ∈ kindNames)
      (hpredicate : (c.predicate, predicate) ∈ predicateNames) (htimeout : c.timeout.Told timeout) :
      Told c (kind ++ "/" ++ c.name ++ " in " ++ c.space ++ " (" ++ predicate ++ ", timeout " ++
        timeout ++ ")")

theorem Condition.told_describe (c : Condition) : c.Told c.describe :=
  .intro (mem_kindNames c.kind) (mem_predicateNames c.predicate) c.timeout.told_describe

/-! ### Stages -/

/-- **A text names some stages**, in their order. -/
inductive NamesStages : List StageId → String → Prop
  | none : NamesStages [] "none"
  | some {ids : List StageId} {names : List String} (hne : ids ≠ [])
      (h : List.Forall₂ (fun id name => (id, name) ∈ stageNames) ids names) :
      NamesStages ids (", ".intercalate names)

/-- What is said of the duplicates of what a stage creates, if it creates anything. -/
def duplicatesNote : Policy → String
  | .notApplicable => ""
  | .failOnDuplicate => "; duplicates: fail-on-duplicate"
  | .treatDuplicateAsSuccess => "; duplicates: treat-duplicate-as-success"

/-- **The lines of a stage**: its own, with the stages that have to be completed before, and one for
each workload that is waited for. -/
inductive Stage.Listed (number : Nat) (stage : Stage) : List String → Prop
  | intro {name dependencies : String} {waits : List String}
      (hname : (stage.id, name) ∈ stageNames)
      (hdependencies : NamesStages stage.dependencies dependencies)
      (hwaits : List.Forall₂ Condition.Told stage.readiness waits) :
      Listed number stage
        (("  " ++ toString number ++ ". " ++ name ++ " - " ++ stage.id.description ++ " (after: " ++
            dependencies ++ duplicatesNote stage.policy ++ ")") ::
          waits.map fun wait => "       wait for " ++ wait)

/-- The lines of some stages, one behind the other. -/
inductive StagesListed : Nat → List Stage → List String → Prop
  | nil (number : Nat) : StagesListed number [] []
  | cons {number : Nat} {stage : Stage} {stages : List Stage} {lines more : List String}
      (h : stage.Listed number lines) (hrest : StagesListed (number + 1) stages more) :
      StagesListed number (stage :: stages) (lines ++ more)

/-- **The lines of a plan.** -/
inductive Plan.Listed (p : Plan) : List String → Prop
  | intro {lines : List String} (h : StagesListed 1 p.stages lines) :
      Listed p (("Plan for '" ++ p.goal.token ++ "': " ++ toString p.stages.length ++ " stage(s)") ::
        lines)

theorem namesStages_commas {ids : List StageId} (h : ids ≠ []) :
    NamesStages ids (Plan.commas ids) :=
  .some h (List.forall₂_map_right_iff.mpr (List.forall₂_same.mpr fun id _ => mem_stageNames id))

theorem listed_describeStage (number : Nat) (stage : Stage) :
    stage.Listed number (Plan.describeStage number stage) := by
  have hdependencies : NamesStages stage.dependencies
      (if stage.dependencies.isEmpty then "none" else Plan.commas stage.dependencies) := by
    cases hids : stage.dependencies with
    | nil => exact .none
    | cons id ids => exact namesStages_commas (List.cons_ne_nil id ids)
  have hwaits : List.Forall₂ Condition.Told stage.readiness
      (stage.readiness.map Condition.describe) :=
    List.forall₂_map_right_iff.mpr (List.forall₂_same.mpr fun c _ => c.told_describe)
  have hnote : (if stage.policy.creates then "; duplicates: " ++ stage.policy.name else "") =
      duplicatesNote stage.policy := by
    cases stage.policy <;> decide
  have hlines : (stage.readiness.map fun c => "       wait for " ++ c.describe) =
      (stage.readiness.map Condition.describe).map fun wait => "       wait for " ++ wait := by
    rw [List.map_map]
    rfl
  rw [Plan.describeStage, hnote, hlines]
  exact .intro (mem_stageNames stage.id) hdependencies hwaits

theorem stagesListed_describeStages (number : Nat) (stages : List Stage) :
    StagesListed number stages (Plan.describeStages number stages) := by
  induction stages generalizing number with
  | nil => exact .nil number
  | cons stage rest ih => exact .cons (listed_describeStage number stage) (ih (number + 1))

/-- **The lines of a plan tell of it.** -/
theorem Plan.listed_describe (p : Plan) : p.Listed p.describe :=
  .intro (stagesListed_describeStages 1 p.stages)

end Rollout
