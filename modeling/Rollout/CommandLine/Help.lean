/-!
# Help

What the operator is told of the commands, and how much detail the log has.
-/

namespace Rollout.CommandLine

/-- The commands in words. -/
def commandsHelp : String :=
  "Commands:\n" ++
  "  check          Check required tools and gcloud authentication\n" ++
  "  cluster        Validate, check, prepare the project, create the cluster\n" ++
  "  images         Validate, check, prepare the project, build and push images\n" ++
  "  deploy-boa     Validate, check, deploy Bank of Anthos and wait for it\n" ++
  "  deploy-agents  Validate, check, deploy the agent swarm and wait for it\n" ++
  "  all            Everything above in order (default)\n" ++
  "\n" ++
  "Configuration is read from the environment and the .env file.\n" ++
  "Required: PROJECT_ID, GOOGLE_API_KEY."

/-- The filter of the log at a verbosity. -/
def logFilter : Nat → String
  | 0 => "info"
  | 1 => "debug"
  | 2 => "trace"
  | _ => "trace,hyper=debug,tower=debug"

end Rollout.CommandLine
