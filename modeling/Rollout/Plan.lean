import Rollout.Stage

/-!
# Plans

A command of the operator selects stages of the catalog; the stages selected, in the order of the
catalog, are the plan. A token that names no command stands for the full plan unless the operator
wants it refused.
-/

namespace Rollout

/-- What the operator can ask for. -/
inductive Goal
  | check | cluster | images | deployBase | deployAgents | all
  deriving DecidableEq, Repr

namespace Goal

/-- All goals, in the order in which the operator is told of them. -/
def every : List Goal := [check, cluster, images, deployBase, deployAgents, all]

/-- The token that asks for a goal. -/
def token : Goal → String
  | check => "check"
  | cluster => "cluster"
  | images => "images"
  | deployBase => "deploy-boa"
  | deployAgents => "deploy-agents"
  | all => "all"

/-- The stages of a goal. -/
def stages : Goal → List StageId
  | check => [.prerequisites]
  | cluster => [.validate, .prerequisites, .project, .cluster]
  | images => [.validate, .prerequisites, .project, .images]
  | deployBase => [.validate, .prerequisites, .baseApp]
  | deployAgents => [.validate, .prerequisites, .agentSwarm]
  | all => StageId.all

/-- The goal of a token. -/
def ofToken? (token : String) : Option Goal := every.find? fun goal => goal.token = token

/-- What is said of a token that names no goal. -/
def unknownMessage (token : String) : String := "unknown command: " ++ token

/-- The failure of a token that names no goal. -/
def unknownFailure (token : String) : Failure :=
  .usage ("Unknown command '" ++ token ++ "'. Expected one of: " ++
    ", ".intercalate (every.map Goal.token))

/-- The goal of a token that may be missing, and the token itself where it names none. Without a
token everything is asked for. -/
def resolve (token : Option String) (strict : Bool) : Except Failure (Goal × Option String) :=
  match token with
  | none => .ok (all, none)
  | some token =>
    match ofToken? token with
    | some goal => .ok (goal, none)
    | none => if strict then .error (unknownFailure token) else .ok (all, some token)

theorem ofToken?_token (goal : Goal) : ofToken? goal.token = some goal := by
  cases goal <;> decide

end Goal

/-- The stages selected for a run. -/
structure Plan where
  goal : Goal
  stages : List Stage
  deriving DecidableEq, Repr

namespace Plan

/-- The stages of a goal, in the order of the catalog. -/
def ofGoal (goal : Goal) (stages : List Stage) : Plan :=
  ⟨goal, stages.filter fun stage => goal.stages.contains stage.id⟩

/-- The names of the stages. -/
def ids (p : Plan) : List StageId := p.stages.map Stage.id

/-- Whether a stage is planned. -/
def contains (p : Plan) (id : StageId) : Bool := p.ids.contains id

/-- Names, separated by commas. -/
def commas (ids : List StageId) : String := ", ".intercalate (ids.map StageId.name)

/-- The lines about a stage; `number` counts from one. -/
def describeStage (number : Nat) (stage : Stage) : List String :=
  let dependencies := if stage.dependencies.isEmpty then "none" else commas stage.dependencies
  let duplicates := if stage.policy.creates then "; duplicates: " ++ stage.policy.name else ""
  ("  " ++ toString number ++ ". " ++ stage.id.name ++ " - " ++ stage.id.description ++ " (after: " ++
      dependencies ++ duplicates ++ ")") ::
    stage.readiness.map fun c => "       wait for " ++ c.describe

/-- The lines about some stages. -/
def describeStages (number : Nat) : List Stage → List String
  | [] => []
  | stage :: rest => describeStage number stage ++ describeStages (number + 1) rest

/-- The plan in words. -/
def describe (p : Plan) : List String :=
  ("Plan for '" ++ p.goal.token ++ "': " ++ toString p.stages.length ++ " stage(s)") ::
    describeStages 1 p.stages

end Plan

end Rollout
