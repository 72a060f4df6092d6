import ExchangeMetrics.Script.Syntax
import ExchangeMetrics.Timer.Store

/-!
# What a script has made

The steps of a script share what they make: registries, interceptors and layers, expanded URIs,
samples and futures. A registry goes on existing for whatever uses it when its name is given to
another one, so registries are numbered, and names lead to numbers.

The module also holds what steps answer.
-/

namespace ExchangeMetrics.Script

/-! ### Answers -/

/-- What a delegate or service notes of the request it was handed. -/
structure Seen where
  /-- The request. -/
  request : Request
  /-- The depth of the route stack at that time. -/
  depth : Nat

mutual

/-- What a step answers. -/
inductive StepResult where
  /-- Nothing in particular. -/
  | done
  /-- It succeeded. -/
  | ok
  /-- The steps it ran answered. -/
  | inner (answers : List Answer)
  /-- A template was expanded, and given along if that was asked for. -/
  | expanded (uri : Uri) (route : Option String)
  /-- It failed. -/
  | failed (error : MetricsError)
  /-- A described message is no message. -/
  | refused (error : MessageError)
  /-- A name is not known. -/
  | unknownName (name : String)
  /-- The series that were found, and whether their durations are not to be shown. -/
  | found (series : List Series) (hidden : Bool)
  /-- The series that have the tags, and whether their durations are not to be shown. -/
  | matching (series : List Series) (hidden : Bool)
  /-- A number of observations. -/
  | count (n : Nat)
  /-- How long a sample took. -/
  | elapsed (d : Duration)
  /-- There is no sample or future of that name. -/
  | missing
  /-- How something is shown. -/
  | shown (text : String)
  /-- What the delegate of an exchange noted, and how the exchange ended. -/
  | exchanged (seen : Option Seen) (inner : Option (List Answer)) (ending : Ending Result)
  /-- What a service noted, and the panic of the call if there was one. -/
  | called (seen : Option Seen) (inner : Option (List Answer)) (panic : Option String)
  /-- A future is pending. -/
  | pending
  /-- The result of a future. -/
  | polled (result : Result)
  /-- Whether a service is ready. -/
  | readiness (r : Readiness)
  /-- It panicked. -/
  | panicked (message : String)

/-- The answer to a step. -/
inductive Answer where
  /-- What came of the step, and the depth of the thread's route stack after it. -/
  | mk (outcome : StepResult) (depth : Nat)

end

/-- What a delegate or service has noted so far. -/
structure Account where
  /-- The request it was handed. -/
  seen : Option Seen := none
  /-- The answers to the steps it ran. -/
  inner : Option (List Answer) := none

/-! ### Registries, interceptors and layers, futures -/

/-- A registry with what has happened to it. -/
structure RegistryState where
  /-- The description of the registry. -/
  spec : RegistrySpec
  /-- The readings of its clock so far. -/
  reads : Nat := 0
  /-- The observations given to it so far. -/
  records : Nat := 0
  /-- The observations kept in memory. -/
  store : TimerStore := {}
  /-- The histograms built so far. -/
  exporter : HistogramExporter

/-- A described registry before anything has happened to it. -/
def RegistryState.start (spec : RegistrySpec) : RegistryState :=
  { spec := spec,
    exporter := ⟨match spec.backend with
      | .memory => ""
      | .histograms scope => scope, []⟩ }

/-- Registries are known by their number. -/
abbrev RegistryId := Nat

/-- An instrumentation as a script makes it. -/
abbrev Built := Instrumentation RegistryId Provider

/-- A future of a described service. -/
structure Pending where
  /-- How many more polls find it pending. -/
  polls : Nat
  /-- The steps it runs then. -/
  awaited : List Step
  /-- How it concludes. -/
  conclusion : Conclusion

/-- A future that was kept, with the instrumentation that measures it. -/
structure Kept where
  /-- The instrumentation. -/
  built : Built
  /-- The future. -/
  flight : Flight Pending

/-! ### The shared state -/

/-- Everything that the steps of a script share. -/
structure Shared where
  /-- The registries by their numbers. -/
  registries : List RegistryState := []
  /-- The numbers of registries by name. -/
  registryNames : Table String RegistryId := {}
  /-- The interceptors and layers by name. -/
  built : Table (Wrapping × String) Built := {}
  /-- The expanded URIs by name, each with the template if it was given along. -/
  expansions : Table String (Uri × Option String) := {}
  /-- The samples by name, each with the registry that started it. -/
  samples : Table String (RegistryId × Sample) := {}
  /-- The futures by name. -/
  futures : Table String Kept := {}
  /-- What delegates and services noted, by number. -/
  accounts : List Account := []
  /-- The answers to steps run by tags providers, template handlers and futures, in groups, the
  last group to be finished first. -/
  side : List (List Answer) := []
  /-- Whether durations in reports are not to be shown. -/
  hidden : Bool := false

namespace Shared

/-- The number and the state of a named registry. -/
def registryNamed? (s : Shared) (name : String) : Option (RegistryId × RegistryState) := do
  let id ← s.registryNames.find? name
  pure (id, ← s.registries[id]?)

/-- Change the state of a registry. -/
def setRegistry (s : Shared) (id : RegistryId) (r : RegistryState) : Shared :=
  { s with registries := s.registries.set id r }

/-- Add a registry under a name. -/
def addRegistry (s : Shared) (name : String) (spec : RegistrySpec) : Shared :=
  { s with
    registries := s.registries ++ [.start spec],
    registryNames := s.registryNames.insert name s.registries.length,
    hidden := s.hidden || spec.hidden }

/-- A named interceptor or layer; an interceptor comes before a layer of the same name. -/
def anyBuilt? (s : Shared) (name : String) : Option (Wrapping × Built) :=
  (s.built.find? (.interceptor, name)).map ((.interceptor, ·)) <|>
    (s.built.find? (.layer, name)).map ((.layer, ·))

/-- Change an account. -/
def modifyAccount (s : Shared) (id : Nat) (f : Account → Account) : Shared :=
  { s with accounts := s.accounts.modify id f }

end Shared

end ExchangeMetrics.Script
