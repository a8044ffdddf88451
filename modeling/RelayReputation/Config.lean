import RelayReputation.Numeral.Decimal
import RelayReputation.Numeral.Integer
import RelayReputation.Text.Blank
import RelayReputation.Text.Quoted

/-!
# Configuration

The settings of a checker, and how they are read from environment variables.
-/

namespace RelayReputation

open RelayReputation.Text RelayReputation.Numeral

structure Config where
  cacheExpiry : Float := 3600.0
  resolver : String := "dnspython"
  /-- The name servers to ask; if there are none, those of the host. -/
  dnsServers : List String := []
  dnsTimeout : Float := 5.0
  dnsLifetime : Float := 10.0
  maxWorkers : Int := 20
  /-- The path of the preference file; if it is empty, preferences are kept in memory. -/
  preferencesFile : String := ""
deriving Repr

/-! ### Reading settings -/

inductive ConfigFault
  | notReal (text : String)
  | notInteger (fault : IntegerFault)
deriving DecidableEq, Repr

def ConfigFault.message : ConfigFault → String
  | notReal text => Numeral.notReal (quote text)
  | notInteger fault => fault.message

/-- The servers in a list with commas, without blanks around them and blank entries. -/
def serversIn (text : String) : List String :=
  (((pieces (· = ',') text.toList).map trim).filter (!·.isEmpty)).map String.ofList

def readRealSetting (text : String) : Except ConfigFault Float :=
  match readFloat text with
  | some x => .ok x
  | none => .error (.notReal text)

def readIntegerSetting (text : String) : Except ConfigFault Int :=
  (readInteger 10 text).mapError .notInteger

abbrev Environment := String → Option String

/-- What stands before the name of a setting in the name of its variable. -/
def variableMark : String := "JUNKCHECK_"

/-- The setting with a name, read if its variable is there. -/
def Environment.setting {α : Type} (env : Environment) (name : String) (usual : α)
    (read : String → Except ConfigFault α) : Except ConfigFault α :=
  match env (variableMark ++ name) with
  | none => .ok usual
  | some text => read text

/-- The settings in an environment; of several that cannot be read, the first counts in the
order of expiry, timeout, lifetime and workers. -/
def Config.ofEnvironment (env : Environment) : Except ConfigFault Config := do
  let usual : Config := {}
  let cacheExpiry ← env.setting "CACHE_EXPIRY" usual.cacheExpiry readRealSetting
  let resolver ← env.setting "RESOLVER" usual.resolver .ok
  let dnsServers ← env.setting "DNS_SERVERS" usual.dnsServers (.ok ∘ serversIn)
  let dnsTimeout ← env.setting "DNS_TIMEOUT" usual.dnsTimeout readRealSetting
  let dnsLifetime ← env.setting "DNS_LIFETIME" usual.dnsLifetime readRealSetting
  let maxWorkers ← env.setting "MAX_WORKERS" usual.maxWorkers readIntegerSetting
  let preferencesFile ← env.setting "PREFERENCES_FILE" usual.preferencesFile .ok
  return {
    cacheExpiry, resolver, dnsServers, dnsTimeout, dnsLifetime, maxWorkers, preferencesFile }

end RelayReputation
