import RelayReputation.Resolution.Resolver

/-!
# Resolver backends

Three ways to resolve over a network: a plain one that puts each question as it is, one that
asks a name service for the records of a type, and one that asks the system library. They
differ in which faults mean that a name is not found and which are failures of their own.
-/

namespace RelayReputation

inductive Backend
  | plain
  | records
  | library
deriving DecidableEq, Repr

/-! ### The plain backend -/

namespace Plain

def ask (net : Network) (service : Service) (name : String) : Asked (List Address) :=
  ⟨[⟨service, name⟩],
    match net ⟨service, name⟩ with
    | .addresses texts => readAnswers texts
    | .absent => .error (.notFound name)
    | .fault f => .error (.ofFault f)⟩

def resolver (net : Network) : Resolver := ⟨ask net .listings, ask net .hosts⟩

end Plain

/-! ### The record backend -/

namespace Records

inductive RecordType
  | a
  | aaaa
deriving DecidableEq, Repr

def RecordType.service : RecordType → Service
  | a => .recordsA
  | aaaa => .recordsAAAA

def RecordType.text : RecordType → String
  | a => "A"
  | aaaa => "AAAA"

def failure (type : RecordType) (name : String) (f : Fault) : Failure :=
  let failed := .failed (type.text ++ " lookup for " ++ name ++ " failed: " ++ f.text)
  match f with
  | .noSuchDomain => .notFound name
  | .noRecords _ => .notFound name
  | .nameService _ => failed
  | .noNameServers _ => failed
  | .nameServiceTimeout => failed
  | f => .ofFault f

def ask (net : Network) (type : RecordType) (name : String) : Asked (List Address) :=
  ⟨[⟨type.service, name⟩],
    match net ⟨type.service, name⟩ with
    | .addresses texts => readAnswers texts
    | .absent => .error (.notFound name)
    | .fault f => .error (failure type name f)⟩

/-- The addresses of a host: its own, if it is one, and otherwise its records of both types. -/
def resolve (net : Network) (host : String) : Asked (List Address) :=
  match Address.parse? host with
  | some address => .pure [address]
  | none =>
    ((ask net .a host).orIfNotFound []).bind fun four =>
      ((ask net .aaaa host).orIfNotFound []).bind fun six =>
        ⟨[], someAnswers host (four ++ six)⟩

def resolver (net : Network) : Resolver := ⟨ask net .a, resolve net⟩

end Records

/-! ### The library backend -/

namespace Library

/-- What a fault of the system library means. -/
def failure (name : String) (f : Fault) : Failure :=
  let failed := .failed ("Lookup for " ++ name ++ " failed: " ++ f.text)
  match f with
  | .library .noName _ => .notFound name
  | .library .noData _ => .notFound name
  | .library .tryAgain _ => failed
  | .library .failure _ => failed
  | .hostDatabase _ => .notFound name
  | .inputOutput _ => failed
  | .connectionTimeout _ => failed
  | .encoding _ => failed
  | f => .ofFault f

def ask (net : Network) (service : Service) (name : String)
    (read : List String → Except Failure (List Address)) : Asked (List Address) :=
  ⟨[⟨service, name⟩],
    match net ⟨service, name⟩ with
    | .addresses texts => read texts
    | .absent => .error (.notFound name)
    | .fault f => .error (failure name f)⟩

def lookup (net : Network) (name : String) : Asked (List Address) :=
  ask net .libraryNames name fun texts =>
    if texts.isEmpty then .error (.notFound name) else readAnswers texts

/-- A socket address without its scope. -/
def unscoped (text : String) : String := String.ofList (Address.beforeScope text.toList)

/-- The addresses of a list, each where it first occurs. -/
def distinct : List Address → List Address
  | [] => []
  | a :: rest => a :: (distinct rest).filter (· ≠ a)

def resolve (net : Network) (host : String) : Asked (List Address) :=
  ask net .libraryHosts host fun texts =>
    (readAnswers (texts.map unscoped)).bind fun answers => someAnswers host (distinct answers)

def resolver (net : Network) : Resolver := ⟨lookup net, resolve net⟩

end Library

def Backend.resolver : Backend → Network → Resolver
  | plain => Plain.resolver
  | records => Records.resolver
  | library => Library.resolver

end RelayReputation
