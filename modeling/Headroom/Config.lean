import Headroom.Failure
/-!
# Configuration

How long the cluster may take to answer, and where the topology index comes from. A configuration
starts from defaults and is changed by the environment; what cannot be read there is passed over.
-/

namespace Headroom

/-- Where the topology index comes from. -/
inductive TopologyMode where
  /-- The pods that were listed for the snapshot. -/
  | snapshot
  /-- A watch of the pods. -/
  | live
deriving DecidableEq

namespace TopologyMode

/-- The written name of a mode. -/
def text : TopologyMode → String
  | snapshot => "snapshot"
  | live => "live"

/-- All modes. -/
def all : List TopologyMode := [snapshot, live]

/-- The mode with a written name. -/
def ofString? (name : String) : Option TopologyMode := all.find? (·.text = name)

/-- Reads a mode in any case; `watch` is another name for the live mode. No letter outside ASCII has
a lower case that occurs in these names. -/
def read? (name : String) : Option TopologyMode :=
  let lower := String.ofList (name.toList.map Char.toLower)
  if lower = "watch" then some live else ofString? lower

end TopologyMode

/-- How the cluster is read. -/
structure Config where
  /-- Seconds for listing nodes and pods. -/
  listLimit : UInt64 := 30
  /-- Seconds for filling the topology index. -/
  syncLimit : UInt64 := 30
  mode : TopologyMode := .snapshot
  /-- A label selector for the pods that are watched. -/
  podSelector : Option String := none
deriving DecidableEq

namespace Config

/-- Checks that both limits are positive. -/
def validate (config : Config) : Except ConfigFault Unit :=
  if config.listLimit = 0 then .error .listLimit
  else if config.syncLimit = 0 then .error .syncLimit
  else .ok ()

/-- Reads a number of seconds. -/
def readSeconds? (text : String) : Option UInt64 :=
  (Text.readUnsigned? 18446744073709551615 text.toList).map UInt64.ofNat

/-- The configuration that environment variables ask for. -/
def ofEnvironment (lookup : String → Option String) : Config :=
  let default : Config := {}
  { listLimit :=
      ((lookup "CASSCTL_LIST_TIMEOUT_SECS").bind readSeconds?).getD default.listLimit
    syncLimit :=
      ((lookup "CASSCTL_SYNC_TIMEOUT_SECS").bind readSeconds?).getD default.syncLimit
    mode := ((lookup "CASSCTL_TOPOLOGY_MODE").bind TopologyMode.read?).getD default.mode
    podSelector := (lookup "CASSCTL_POD_LABEL_SELECTOR").filter (· ≠ "") }

end Config

end Headroom
