import RelayReputation.BlockList.Service
import RelayReputation.Checker.Basic
import RelayReputation.Config
import RelayReputation.Resolution.Backend
import RelayReputation.Resolution.NameServer

/-!
# Setting a checker up

From settings to a resolver and a checker with all its parts.
-/

namespace RelayReputation

open RelayReputation.Text

/-! ### Resolvers -/

inductive ResolverSetup
  /-- By records from name servers, with the time for one answer and for all of them. -/
  | records (servers : List String) (timeout lifetime : Float)
  | library
deriving Repr

def ResolverSetup.backend : ResolverSetup → Backend
  | records _ _ _ => .records
  | library => .library

/-- The resolver that settings ask for, with what there is to say of them. `hostServers` are
the name servers of the host. -/
def ResolverSetup.ofConfig (hostServers : List String) (c : Config) :
    Except NameServer.BadServer (ResolverSetup × List Notice) :=
  let name := lower c.resolver
  if name = "system" then
    .ok (.library, if c.dnsServers.isEmpty then [] else [.serversIgnored])
  else
    let servers := if c.dnsServers.isEmpty then .ok hostServers else NameServer.readAll c.dnsServers
    servers.map fun servers =>
      (.records servers c.dnsTimeout c.dnsLifetime,
        if name = "dnspython" then [] else [.unknownBackend c.resolver])

/-! ### Checkers -/

inductive SetupFault
  | config (fault : ConfigFault)
  | store (fault : StoreFault)
  | names (fault : DuplicateNames)
  | server (fault : NameServer.BadServer)
  | making (fault : Checker.MakingFault)
deriving DecidableEq, Repr

/-- The store for settings: the preferences that are given, or else the file that the settings
name, or else an empty memory store. `disk` is what there is at the path of the file. -/
def storeFor (c : Config) (given : Option Switches) (disk : Disk) :
    Except StoreFault (Store × List Notice) :=
  match given with
  | some values => .ok (.memory values, [])
  | none =>
    if c.preferencesFile = "" then .ok (.memory [], [])
    else
      let (notices, opened) := FileStore.opening c.preferencesFile disk
      opened.map fun s => (.file s, notices)

/-- A registry of the block lists of services, with what there is to say of it. -/
def Registry.ofServices (services : List BlockListService) (store : Store) (expiry : Float) :
    Except DuplicateNames (Registry × List Notice) :=
  (buildBlockLists services).map fun (lists, notices) =>
    let registry : Registry := ⟨lists, store, { expiry }⟩
    (registry, notices ++ [registry.greeting])

structure Assembly where
  checker : Checker
  resolver : ResolverSetup
  notices : List Notice
deriving Repr

def Assembly.ofConfig (hostServers : List String) (c : Config) (given : Option Switches)
    (disk : Disk) : Except SetupFault Assembly := do
  let (store, storeNotices) ← (storeFor c given disk).mapError .store
  let (registry, registryNotices) ←
    (Registry.ofServices knownServices store c.cacheExpiry).mapError .names
  let (resolver, resolverNotices) ← (ResolverSetup.ofConfig hostServers c).mapError .server
  let checker ← (Checker.make registry .shared c.maxWorkers).mapError .making
  return {
    checker, resolver
    notices := storeNotices ++ registryNotices ++ resolverNotices ++
      [.ready registry.enabledNames] }

def Assembly.ofEnvironment (hostServers : List String) (env : Environment)
    (given : Option Switches) (disk : Disk) : Except SetupFault Assembly := do
  let c ← (Config.ofEnvironment env).mapError .config
  Assembly.ofConfig hostServers c given disk

end RelayReputation
