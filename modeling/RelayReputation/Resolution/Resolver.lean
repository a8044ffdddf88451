import RelayReputation.Address.Parser
import RelayReputation.Resolution.Network

/-!
# Resolvers

A resolver looks query names up and finds the addresses of hosts, by putting questions to the
network. Its failures are sorted into three: the name is not found, the resolution failed, or
something unexpected happened that the resolver does not account for.
-/

namespace RelayReputation

/-! ### Failures -/

inductive Failure
  | notFound (name : String)
  | failed (text : String)
  | unexpected (fault : Fault)
deriving DecidableEq, Repr

def Failure.text : Failure → String
  | notFound name => name
  | failed text => text
  | unexpected fault => fault.text

/-- What a fault is to a resolver that accounts for none of its own. -/
def Failure.ofFault : Fault → Failure
  | .unknownName name => .notFound name
  | .failedLookup text => .failed text
  | fault => .unexpected fault

/-! ### Questions asked on the way to an outcome -/

structure Asked (α : Type) where
  questions : List Question
  outcome : Except Failure α
deriving Repr

namespace Asked

variable {α β : Type}

def pure (a : α) : Asked α := ⟨[], .ok a⟩

def fail (f : Failure) : Asked α := ⟨[], .error f⟩

/-- Goes on with what was found; a failure ends the questions. -/
def bind (x : Asked α) (f : α → Asked β) : Asked β :=
  match x.outcome with
  | .ok a => ⟨x.questions ++ (f a).questions, (f a).outcome⟩
  | .error e => ⟨x.questions, .error e⟩

/-- Takes a value for a name that is not found. -/
def orIfNotFound (x : Asked α) (a : α) : Asked α :=
  match x.outcome with
  | .error (.notFound _) => ⟨x.questions, .ok a⟩
  | _ => x

end Asked

structure Resolver where
  lookup : String → Asked (List Address)
  resolve : String → Asked (List Address)

/-! ### Answers in text form -/

def readAnswer (text : String) : Except Failure Address :=
  match Address.parse? text with
  | some a => .ok a
  | none => .error (.unexpected (.notAnAddress text))

/-- The addresses of answers; the first that is no address decides. -/
def readAnswers (texts : List String) : Except Failure (List Address) := texts.mapM readAnswer

/-- The addresses of answers, unless there are none. -/
def someAnswers (name : String) (answers : List Address) : Except Failure (List Address) :=
  if answers.isEmpty then .error (.notFound name) else .ok answers

end RelayReputation
