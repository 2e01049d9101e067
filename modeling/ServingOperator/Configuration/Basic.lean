-- The configuration of a run, and what follows from it for the parts of
-- the operator.
import ServingOperator.Cluster.Controller
import ServingOperator.Configuration.Setting

namespace ServingOperator

structure Configuration where
  kubeconfig : Option String := none
  ns : Option String := none
  cpuImage : String := PolicyTable.cpuImage
  gpuImage : String := PolicyTable.gpuImage
  conflictRequeueSecs : UInt64 := 1
  errorRequeueSecs : UInt64 := 15
  logFile : Option String := none
  deriving DecidableEq, Repr, Inhabited

namespace Configuration

/-- The configuration by given settings. What the command line does not give
comes from the environment, and what neither gives has a default. -/
def ofGiven (g : Given) (env : Environment) : Except BadValue Configuration := do
  let standard : Configuration := {}
  let kubeconfig ← Setting.fallback g env .kubeconfig
  let ns ← Setting.fallback g env .ns
  let cpuImage ← Setting.fallback g env .cpuImage
  let gpuImage ← Setting.fallback g env .gpuImage
  let conflictRequeueSecs ← Setting.fallback g env .conflictRequeueSecs
  let errorRequeueSecs ← Setting.fallback g env .errorRequeueSecs
  let logFile ← Setting.fallback g env .logFile
  return {
    kubeconfig
    ns
    cpuImage := cpuImage.getD standard.cpuImage
    gpuImage := gpuImage.getD standard.gpuImage
    conflictRequeueSecs := conflictRequeueSecs.getD standard.conflictRequeueSecs
    errorRequeueSecs := errorRequeueSecs.getD standard.errorRequeueSecs
    logFile }

/-- The policies that serve models with the configured images. -/
def policies (c : Configuration) : PolicyTable := .withImages c.cpuImage c.gpuImage

def delays (c : Configuration) : RequeueDelays := ⟨c.conflictRequeueSecs, c.errorRequeueSecs⟩

/-- The controller that is configured. It looks in the configured namespace. -/
def setup (c : Configuration) : Cluster.Setup := ⟨c.ns, c.policies, c.delays⟩

end Configuration

end ServingOperator
