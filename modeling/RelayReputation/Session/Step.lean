import RelayReputation.Checker.Batch

/-!
# Steps

What can be asked of a checker and its parts, one step at a time, and what comes back.
-/

namespace RelayReputation

open RelayReputation.Text

/-! ### Questions -/

inductive CacheStep
  | get (host : String)
  | put (host : String) (junk : Bool)
  | clear
  | purge
  /-- Whether there is a verdict; without a host there is none. -/
  | contains (host : Option String)
  | size
deriving DecidableEq, Repr

inductive StoreStep
  | get (key : CodePoints)
  | set (key : CodePoints) (value : Bool)
  | remove (key : CodePoints)
  | keys
  | fileText
  /-- Another hand writes the file. -/
  | overwrite (text : String)
  /-- What a new store on the same file holds. -/
  | reopen
  /-- A directory takes the place of the file. -/
  | toDirectory
deriving DecidableEq, Repr

inductive Step
  | advance (seconds : Float)
  | answer (question : Question) (reply : Reply)
  | cache (step : CacheStep)
  | store (step : StoreStep)
  | isJunk (received : List HeaderValue)
  | checkHost (host : String) (lists : Option (List BlockList))
  | checkList (host : String) (list : BlockList)
  | lookUp (query : String) (list : BlockList)
  | queries (host : String) (list : BlockList) (limit : Option Nat)
  | checkAll (messages : Keyed String (List HeaderValue))
  | setEnabled (list : BlockList) (switch : Switch)
  | isEnabled (list : BlockList)
  | reset
  | enabledNames
  | find (name : String)
deriving Repr

/-! ### Answers -/

inductive Answer
  | done
  | truth (value : Bool)
  | verdict (value : Option Bool)
  | count (value : Nat)
  | text (value : Option String)
  | names (value : List String)
  | keys (value : List CodePoints)
  | switches (value : List (CodePoints × Bool))
  | result (value : LookupResult)
  | queries (names : List String) (failure : Option Failure)
  | verdicts (value : List (String × Option Bool))
  | list (value : Option BlockList)
deriving DecidableEq, Repr

inductive StepFault
  | store (fault : StoreFault)
  | header (fault : HeaderFault)
  | network (fault : Fault)
  | batch (fault : Checker.BatchFault)
deriving DecidableEq, Repr

/-! ### Steps on parts -/

def CacheStep.apply (c : VerdictCache) (now : Float) :
    CacheStep → VerdictCache × List Notice × Answer
  | get host => let (c, found) := c.get now host; (c, [], .verdict found)
  | put host junk => (c.put now host junk, [], .done)
  | clear => (c.clear, [.cacheCleared], .done)
  | purge => let (c, n) := c.purge now; (c, [], .count n)
  | contains (some host) => let (c, found) := c.contains now host; (c, [], .truth found)
  | contains none => (c, [], .truth false)
  | size => (c, [], .count c.size)

/-- A change of what there is at the path of a store. -/
def Store.changeDisk (s : Store) (change : Disk → Except StoreFault Disk) :
    Except StoreFault Store :=
  match s.disk? with
  | none => .ok s
  | some disk => (change disk).map s.withDisk

/-- What a new store on the same file holds, with what there is to say of it. A memory store
has no file, so a new one is empty. -/
def Store.reopened : Store → List Notice × Except StoreFault Switches
  | memory _ => ([], .ok [])
  | file s =>
    let (notices, opened) := FileStore.opening s.path s.disk
    (notices, opened.map (·.values))

def StoreStep.apply (s : Store) (step : StoreStep) :
    Store × List Notice × Except StoreFault Answer :=
  let changed : Except StoreFault Store → Store × List Notice × Except StoreFault Answer
    | .ok s => (s, [], .ok .done)
    | .error f => (s, [], .error f)
  match step with
  | get key => (s, [], .ok (.verdict (s.get? key)))
  | set key value => changed (s.set key value)
  | remove key => changed (s.remove key)
  | keys => (s, [], .ok (.keys s.keys))
  | fileText => (s, [], .ok (.text (s.disk?.bind Disk.lines?)))
  | overwrite text => changed (s.changeDisk (Disk.overwrite text))
  | reopen =>
    let (notices, values) := s.reopened
    (s, notices, values.map fun values => .switches values.sorted)
  | toDirectory => changed (s.changeDisk Disk.toDirectory)

end RelayReputation
