-- The settings of the operator: what each is called on the command line,
-- which variable of the environment gives it, and which texts are values
-- of it.
import ServingOperator.Json.Decode

namespace ServingOperator

inductive Setting where
  | kubeconfig
  | ns
  | cpuImage
  | gpuImage
  | conflictRequeueSecs
  | errorRequeueSecs
  | logFile
  deriving DecidableEq, Repr

namespace Setting

def all : List Setting :=
  [kubeconfig, ns, cpuImage, gpuImage, conflictRequeueSecs, errorRequeueSecs, logFile]

/-- The option that gives a setting, less the two hyphens. -/
def option : Setting → String
  | kubeconfig => "kubeconfig"
  | ns => "namespace"
  | cpuImage => "cpu-image"
  | gpuImage => "gpu-image"
  | conflictRequeueSecs => "conflict-requeue-secs"
  | errorRequeueSecs => "error-requeue-secs"
  | logFile => "log-file"

def ofOption? (name : String) : Option Setting := all.find? fun s => s.option = name

/-- The variable that gives a setting which the command line does not. -/
def envName? : Setting → Option String
  | kubeconfig => some "KUBECONFIG"
  | ns => some "WATCH_NAMESPACE"
  | cpuImage => some "MODEL_OPERATOR_CPU_IMAGE"
  | gpuImage => some "MODEL_OPERATOR_GPU_IMAGE"
  | conflictRequeueSecs => none
  | errorRequeueSecs => none
  | logFile => some "MODEL_OPERATOR_LOG_FILE"

end Setting

/-! ## Values -/

/-- Why a text is no value. -/
inductive BadValue where
  /-- A path must not be empty. -/
  | empty
  /-- A count of seconds must be a natural number that fits 64 bits. -/
  | noSeconds
  deriving DecidableEq, Repr

/-- A natural number of 64 bits: decimal digits, perhaps after a plus sign. -/
def seconds? (cs : List Char) : Option UInt64 :=
  let digits := match cs with
    | '+' :: rest => rest
    | rest => rest
  let n := Nat.ofDigitChars 10 digits 0
  if digits ≠ [] ∧ digits.all Char.isDigit ∧ n < UInt64.size then some (UInt64.ofNat n) else none

namespace Setting

/-- The values of a setting. -/
abbrev Value : Setting → Type
  | conflictRequeueSecs => UInt64
  | errorRequeueSecs => UInt64
  | _ => String

def pathOf (text : String) : Except BadValue String :=
  if text = "" then .error .empty else .ok text

def secondsOf (text : String) : Except BadValue UInt64 :=
  match seconds? text.toList with
  | some n => .ok n
  | none => .error .noSeconds

/-- The value that a text stands for. -/
def read : (s : Setting) → String → Except BadValue s.Value
  | kubeconfig, text => pathOf text
  | logFile, text => pathOf text
  | conflictRequeueSecs, text => secondsOf text
  | errorRequeueSecs, text => secondsOf text
  | ns, text => .ok text
  | cpuImage, text => .ok text
  | gpuImage, text => .ok text

end Setting

/-! ## Given settings -/

/-- Some settings with their values. -/
abbrev Given := (s : Setting) → Option s.Value

namespace Given

def nothing : Given := fun _ => none

/-- One more setting. -/
def set (g : Given) (s : Setting) (v : s.Value) : Given :=
  fun t => if h : s = t then some (h ▸ v) else g t

end Given

/-- The variables of the environment that are set. -/
abbrev Environment := String → Option String

/-- The value of a setting: the one given, else the one in the variable of
the setting, if it is set. -/
def Setting.fallback (g : Given) (env : Environment) (s : Setting) :
    Except BadValue (Option s.Value) :=
  match g s, s.envName?.bind env with
  | some v, _ => .ok (some v)
  | none, some text => (s.read text).map some
  | none, none => .ok none

end ServingOperator
