-- Runtime policies: which image serves a runtime, what taints its pods put
-- up with and what they may use.
import ServingOperator.Failure

namespace ServingOperator

/-- A way to serve a model. -/
inductive Flavor where
  | cpu
  | gpu
  deriving DecidableEq, Repr, Inhabited

namespace Flavor

def name : Flavor → String
  | cpu => "cpu"
  | gpu => "gpu"

/-- The flavor that a selector asks for. The empty selector asks for the
same one as `cpu`. -/
def ofSelector? (selector : String) : Option Flavor :=
  if selector = "" ∨ selector = "cpu" then some cpu
  else if selector = "gpu" then some gpu
  else none

end Flavor

structure RuntimePolicy where
  image : String
  tolerations : List Toleration
  limits : TextMap
  deriving DecidableEq, Repr

namespace RuntimePolicy

/-- The resource that stands for an accelerator. -/
def gpuResource : String := "nvidia.com/gpu"

/-- The pods of this policy put up with the taint of accelerator nodes. -/
def gpuToleration : Toleration :=
  { key := some gpuResource, operator := some "Exists", effect := some "NoSchedule" }

def cpu (image : String) : RuntimePolicy := ⟨image, [], .empty⟩

/-- One accelerator for each replica. -/
def gpu (image : String) : RuntimePolicy := ⟨image, [gpuToleration], .singleton gpuResource "1"⟩

end RuntimePolicy

/-- A policy for each flavor. -/
structure PolicyTable where
  cpu : RuntimePolicy
  gpu : RuntimePolicy
  deriving DecidableEq, Repr

namespace PolicyTable

def cpuImage : String := "patnaikshekhar/vllm-cpu:1"

def gpuImage : String := "vllm/vllm-openai:latest"

def withImages (cpuImage gpuImage : String) : PolicyTable := ⟨.cpu cpuImage, .gpu gpuImage⟩

def standard : PolicyTable := withImages cpuImage gpuImage

def entry (t : PolicyTable) : Flavor → RuntimePolicy
  | .cpu => t.cpu
  | .gpu => t.gpu

/-- The policy that a selector asks for. -/
def resolve (t : PolicyTable) (selector : String) : Except (Report PolicyError) RuntimePolicy :=
  match Flavor.ofSelector? selector with
  | some flavor => .ok (t.entry flavor)
  | none => .error (.of (.unknownRuntime selector))

variable {t : PolicyTable} {selector : String}

theorem resolve_eq_error {r : Report PolicyError} (h : t.resolve selector = .error r) :
    Flavor.ofSelector? selector = none ∧ r = .of (.unknownRuntime selector) := by
  unfold resolve at h
  cases hflavor : Flavor.ofSelector? selector with
  | none =>
    rw [hflavor] at h
    cases h
    exact ⟨rfl, rfl⟩
  | some flavor =>
    rw [hflavor] at h
    cases h

theorem ofSelector?_of_resolve {policy : RuntimePolicy} (h : t.resolve selector = .ok policy) :
    Flavor.ofSelector? selector ≠ none := by
  intro hnone
  rw [resolve, hnone] at h
  cases h

end PolicyTable

end ServingOperator
