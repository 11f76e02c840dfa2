import Connector.Config.Loading

/-!
# The listing of a configuration

What the program prints of a configuration, line by line.
-/

namespace Connector.Cli

open Config (Manifest Environment)

/-- Stands for a value that is not there. -/
def notSet : String := "(not set)"

/-- The places where the configuration is looked for. -/
def placesListing (env : Environment) (config : Option String) : List String :=
  ["Configuration discovery paths:",
   "  1. --config flag: " ++ config.getD notSet,
   "  2. " ++ Config.pathVariable ++ ": " ++ (Table.get? Config.pathVariable env).getD notSet,
   "  3. " ++ Config.workingPath,
   "  4. ~/.dsconnector/config.yaml",
   "  5. " ++ Config.machinePath,
   ""]

/-- Who the connector is. -/
def identityListing (c : Config.Identity) : List String :=
  ["Connector:", "  ID: " ++ c.id]
    ++ (c.callbackAddress.map fun a => "  Callback: " ++ a).toList ++ [""]

/-- How the workers behave. -/
def orchestrationListing (o : Config.Orchestration) : List String :=
  ["Orchestrator:",
   "  Workers: " ++ toString o.workers,
   "  Batch size: " ++ toString o.batchSize,
   "  Poll interval: " ++ o.pollInterval.brief,
   "  Lease: " ++ o.leaseDuration.brief,
   "  Dispatch timeout: " ++ o.dispatchTimeout.brief,
   "  Retry: " ++ toString o.retry.maxAttempts ++ " attempts, " ++ o.retry.baseDelay.brief
     ++ " base, " ++ o.retry.maxDelay.brief ++ " max",
   ""]

/-- The data planes. -/
def registryListing (r : Config.Registry) : List String :=
  ["Data Planes:",
   "  Liveness timeout: " ++ (r.livenessTimeout.map Span.brief).getD "(disabled)"]
    ++ (r.dataPlanes.flatMap fun d =>
      ["  " ++ d.id ++ " → " ++ d.url,
       "    Transfer types: " ++ ", ".intercalate d.transferTypes])
    ++ [""]

/-- The policies. -/
def policiesListing (bindings : List Config.PolicyBinding) : List String :=
  ["Policies:"]
    ++ (if bindings.isEmpty then ["  (none bound; every transfer will be denied)"]
        else bindings.map fun b => "  " ++ b.agreementId)
    ++ [""]

/-- A configuration. -/
def listing (m : Manifest) : List String :=
  ["Current configuration:", ""]
    ++ identityListing m.spec.connector ++ orchestrationListing m.spec.orchestrator
    ++ registryListing m.spec.dataPlanes ++ policiesListing m.spec.policies
    ++ ["Storage:", "  Backend: " ++ m.spec.storage.backend.word, ""]

end Connector.Cli
