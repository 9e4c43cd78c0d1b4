import Headroom.Taint
import Headroom.Text.Split
/-!
# Values of command line options

A toleration is written `key[=value][:effect]` and a label `key=value`. The effect of a toleration
follows the last colon and its value the first equals sign, so keys hold no equals sign.
-/

namespace Headroom

/-- Why a text is not a toleration. -/
inductive TolerationTextFault where
  | unknownEffect (effect : String)
  | malformed (fault : TolerationFault)
deriving DecidableEq

/-- The fault in words. -/
def TolerationTextFault.message : TolerationTextFault → String
  | unknownEffect effect => "unknown taint effect " ++ Text.quoted effect
  | malformed fault => fault.message

namespace Toleration

/-- The key of a toleration, and the value that it asks for. -/
def readSubject (subject : List Char) : Toleration :=
  match Text.splitFirst? '=' subject with
  | some (key, value) => ofValue (String.ofList key) (String.ofList value)
  | none => ofKey (String.ofList subject)

/-- Reads a toleration without an effect, and checks its form. -/
def checkSubject (subject : List Char) : Except TolerationTextFault Toleration := do
  let toleration := readSubject subject
  toleration.validate.mapError .malformed
  return toleration

/-- Reads a toleration. -/
def read (text : String) : Except TolerationTextFault Toleration :=
  match Text.splitLast? ':' text.toList with
  | none => checkSubject text.toList
  | some (subject, name) =>
      match TaintEffect.ofString? (String.ofList name) with
      | none => .error (.unknownEffect (String.ofList name))
      | some effect => do return { ← checkSubject subject with effect := some effect }

end Toleration

/-- A text that is not a label. -/
structure LabelTextFault where
  text : String
deriving DecidableEq

/-- The fault in words. -/
def LabelTextFault.message (fault : LabelTextFault) : String :=
  "expected KEY=VALUE, got " ++ Text.quoted fault.text

/-- Reads a label; its key may not be empty. -/
def readLabel (text : String) : Except LabelTextFault (String × String) :=
  match Text.splitFirst? '=' text.toList with
  | some (c :: key, value) => .ok (String.ofList (c :: key), String.ofList value)
  | _ => .error { text }

end Headroom
