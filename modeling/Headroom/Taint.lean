import Headroom.Text.Quoted
/-!
# Taints and tolerations

A taint keeps workloads away from a node unless they tolerate it. A toleration without a key
tolerates every taint if it asks for no value, and a toleration without an effect every effect.
-/

namespace Headroom

/-- What a taint does to workloads that do not tolerate it. -/
inductive TaintEffect where
  | noSchedule
  | preferNoSchedule
  | noExecute
deriving DecidableEq

namespace TaintEffect

/-- The written name of an effect. -/
def text : TaintEffect → String
  | noSchedule => "NoSchedule"
  | preferNoSchedule => "PreferNoSchedule"
  | noExecute => "NoExecute"

/-- All effects. -/
def all : List TaintEffect := [noSchedule, preferNoSchedule, noExecute]

/-- The effect with a written name. -/
def ofString? (name : String) : Option TaintEffect := all.find? (·.text = name)

/-- Whether the effect keeps workloads off a node, and is not merely a preference. -/
def isBlocking : TaintEffect → Bool
  | noSchedule | noExecute => true
  | preferNoSchedule => false

end TaintEffect

/-- A mark on a node. -/
structure Taint where
  key : String
  value : String := ""
  effect : TaintEffect
deriving DecidableEq

/-- The written form `key=value:effect`, or `key:effect` for an empty value. -/
def Taint.text (taint : Taint) : String :=
  if taint.value = "" then taint.key ++ ":" ++ taint.effect.text
  else taint.key ++ "=" ++ taint.value ++ ":" ++ taint.effect.text

/-- Whether a toleration asks for the value of the taint. -/
inductive TolerationOperator where
  | anyValue
  | equal
deriving DecidableEq

namespace TolerationOperator

/-- The written name of an operator. -/
def text : TolerationOperator → String
  | anyValue => "Exists"
  | equal => "Equal"

/-- All operators. -/
def all : List TolerationOperator := [anyValue, equal]

/-- The operator with a written name. -/
def ofString? (name : String) : Option TolerationOperator := all.find? (·.text = name)

end TolerationOperator

/-- Leave to ignore certain taints. -/
structure Toleration where
  key : String := ""
  operator : TolerationOperator := .equal
  value : String := ""
  effect : Option TaintEffect := none
deriving DecidableEq

/-- Why a toleration is malformed. -/
inductive TolerationFault where
  | valueWithoutComparison (key : String)
  | comparisonWithoutKey
deriving DecidableEq

/-- The fault in words. -/
def TolerationFault.message : TolerationFault → String
  | valueWithoutComparison key =>
      "toleration " ++ Text.quoted key ++ ": value must be empty when operator is Exists"
  | comparisonWithoutKey => "toleration operator must be Exists when key is empty"

namespace Toleration

/-- The toleration of one value under a key. -/
def ofValue (key value : String) : Toleration := { key, operator := .equal, value }

/-- The toleration of any value under a key. -/
def ofKey (key : String) : Toleration := { key, operator := .anyValue }

/-- The written form `key[=value][:effect]`; the value is written if it is asked for. -/
def text (toleration : Toleration) : String :=
  let subject := match toleration.operator with
    | .anyValue => toleration.key
    | .equal => toleration.key ++ "=" ++ toleration.value
  match toleration.effect with
  | none => subject
  | some effect => subject ++ ":" ++ effect.text

/-- Checks the form of a toleration. -/
def validate (toleration : Toleration) : Except TolerationFault Unit :=
  match toleration.operator with
  | .anyValue =>
      if toleration.value = "" then .ok () else .error (.valueWithoutComparison toleration.key)
  | .equal => if toleration.key = "" then .error .comparisonWithoutKey else .ok ()

/-- Whether a toleration lets a workload ignore a taint. -/
def tolerates (toleration : Toleration) (taint : Taint) : Bool :=
  toleration.effect.all (· = taint.effect) &&
    if toleration.key = "" then toleration.operator = .anyValue
    else toleration.key = taint.key &&
      (toleration.operator = .anyValue || toleration.value = taint.value)

end Toleration

end Headroom
