import ExchangeMetrics.Exchange.Interceptor
import ExchangeMetrics.Script.Live

/-!
# Running scripts

Steps are run one after another, each of them guarded, so that a panic ends no more than the
step it arises in. Steps run within steps by the same rule, up to a limit on how deeply they
are nested; the limit is there because a tags provider may contain exchanges that ask the same
provider for tags.

## Main definitions

* `Step.run`: one step, given how the steps within it are run.
* `runSteps`: steps within steps, up to a limit.
* `run`: a whole script, step by step, with what people and meters were told during each.
-/

namespace ExchangeMetrics.Script

/-- Use something that a name leads to. -/
def withNamed {α : Type} (name : String) (found : Option α) (use : α → Exec Shared StepResult) :
    Exec Shared StepResult :=
  match found with
  | some a => use a
  | none => pure (.unknownName name)

/-- The outcome of something that may fail. -/
def resultOf {α : Type} (f : α → StepResult) : Except MetricsError α → StepResult
  | .ok a => f a
  | .error e => .failed e

/-! ### Expansions -/

/-- Expand a template, and give the template along if that is asked of a capturing handler. -/
def expandWith (nested : RunSteps) (handler : Handler) (explicit : Bool) (template : String)
    (vars : Variables) : Exec Shared (Except MetricsError (Uri × Option String)) := do
  match explicit, handler with
  | true, .capturing inner => do
      let expanded ← TemplateHandler.withTemplate (inner.live nested) template vars
      pure (expanded.map fun (uri, route) => (uri, some route))
  | _, handler => do
      let expanded ← handler.live nested template vars
      pure (expanded.map fun uri => (uri, none))

/-- Expand a template and keep the URI. -/
def runExpand (nested : RunSteps) (saveAs template : String) (vars : Variables)
    (handler : Handler) (explicit : Bool) : Exec Shared StepResult := do
  match ← expandWith nested handler explicit template vars with
  | .error e => pure (.failed e)
  | .ok (uri, route) => do
      Exec.modifyShared fun s => { s with expansions := s.expansions.insert saveAs (uri, route) }
      pure (.expanded uri route)

/-! ### Building -/

/-- Make an instrumentation in one of the three manners. -/
def makeBuilt (registry : RegistryId) (manner : Manner) (provider : Option Provider)
    (config : Option Config) (propagate : Option Bool) : Except MetricsError Built :=
  let b : Builder RegistryId Provider := { registry := registry }
  match manner with
  | .plain => .ok (b.assemble .standard)
  | .withProvider =>
      .ok ((b.withProvider (provider.getD (.standard unknownUri))).assemble .standard)
  | .builder =>
      let b := provider.elim b b.withProvider
      let b := config.elim b b.withConfig
      let b := propagate.elim b b.propagating
      b.build .standard

/-- Make an interceptor or a layer and keep it. -/
def runBuild (saveAs : String) (wrapping : Wrapping) (registry : String) (manner : Manner)
    (provider : Option Provider) (config : Option Config) (propagate : Option Bool) :
    Exec Shared StepResult := do
  withNamed registry ((← Exec.shared).registryNamed? registry) fun (id, _) =>
    match makeBuilt id manner provider config propagate with
    | .error e => pure (.failed e)
    | .ok b => do
        Exec.modifyShared fun s => { s with built := s.built.insert (wrapping, saveAs) b }
        pure .ok

/-! ### Exchanges -/

/-- Make a described request and conclusion, and go on with them. -/
def withMessages (request : RequestSpec) (conclusion : ConclusionSpec)
    (use : Request → Conclusion → Exec Shared StepResult) : Exec Shared StepResult := do
  let s ← Exec.shared
  match request.build s.expansions.find? with
  | .error e => pure (.refused e)
  | .ok request =>
      match conclusion.build with
      | .error e => pure (.refused e)
      | .ok conclusion => use request conclusion

/-- Run an exchange through an interceptor. -/
def runExchange (nested : RunSteps) (via : String) (request : RequestSpec)
    (inner : Option (List Step)) (conclusion : ConclusionSpec) : Exec Shared StepResult := do
  withNamed via ((← Exec.shared).built.find? (.interceptor, via)) fun b =>
    withMessages request conclusion fun request conclusion => do
      let id ← newAccount
      let delegate (request : Request) : Exec Shared Result := do
        attend nested id inner request
        conclusion.conclude
      let ending ← ((liveInstrumentation nested b).intercept request delegate).guarded
      let noted ← account id
      pure (.exchanged noted.seen noted.inner ending)

/-- Call a service through a layer and keep the future; a future kept before under the same
name is dropped afterwards. -/
def runCall (nested : RunSteps) (saveAs via : String) (request : RequestSpec)
    (inner : Option (List Step)) (panicInCall : Option String) (pending : Nat)
    (awaited : List Step) (conclusion : ConclusionSpec) : Exec Shared StepResult := do
  withNamed via ((← Exec.shared).built.find? (.layer, via)) fun b =>
    withMessages request conclusion fun request conclusion => do
      let id ← newAccount
      let service : Service Shared Pending :=
        { ready := pure .ready,
          call := fun request => do
            attend nested id inner request
            match panicInCall with
            | some message => Exec.panic message
            | none => pure ⟨pending, awaited, conclusion⟩ }
      let ending ← (((liveInstrumentation nested b).wrap service).call request).guarded
      match ending with
      | .panicked message => do
          let noted ← account id
          pure (.called noted.seen noted.inner (some message))
      | .returned flight => do
          let before := (← Exec.shared).futures.find? saveAs
          Exec.modifyShared fun s => { s with futures := s.futures.insert saveAs ⟨b, flight⟩ }
          match before with
          | some k => dropKept nested k
          | none => pure ()
          let noted ← account id
          pure (.called noted.seen noted.inner none)

/-- Take a future from those that are kept. -/
def takeFuture (name : String) : Exec Shared (Option Kept) := do
  let s ← Exec.shared
  Exec.setShared { s with futures := s.futures.erase name }
  pure (s.futures.find? name)

/-- Poll a future once, and keep it only if it is pending. -/
def runPoll (nested : RunSteps) (future : String) : Exec Shared StepResult := do
  match ← takeFuture future with
  | none => pure .missing
  | some k => do
      match ← k.flight.poll (liveInstrumentation nested k.built) (pendingFutures nested) with
      | .pending flight => do
          Exec.modifyShared fun s =>
            { s with futures := s.futures.insert future { k with flight := flight } }
          pure .pending
      | .done result => pure (.polled result)

/-- Drop a future. -/
def runDrop (nested : RunSteps) (future : String) : Exec Shared StepResult := do
  match ← takeFuture future with
  | none => pure .done
  | some k => do
      dropKept nested k
      pure .done

/-- Panic while owning a future, which is dropped while the thread unwinds. -/
def runDropPanicking (nested : RunSteps) (future message : String) : Exec Shared StepResult := do
  match ← takeFuture future with
  | none => Exec.panic message
  | some k => (Exec.panic message).onPanic (dropKept nested k)

/-! ### Samples -/

/-- Start a sample and keep it. -/
def runSampleStart (saveAs registry : String) : Exec Shared StepResult := do
  withNamed registry ((← Exec.shared).registryNamed? registry) fun (id, _) => do
    let sample ← Sample.start (liveRegistry id)
    Exec.modifyShared fun s => { s with samples := s.samples.insert saveAs (id, sample) }
    pure .done

/-- Stop a sample, which is not kept any longer. -/
def runSampleStop (sample : String) (timer : TimerId) (tags : List (String × String)) :
    Exec Shared StepResult := do
  let s ← Exec.shared
  match s.samples.find? sample with
  | none => pure .missing
  | some (id, started) => do
      Exec.setShared { s with samples := s.samples.erase sample }
      pure (resultOf .elapsed (← started.stop (liveRegistry id) timer (Tags.ofPairs tags)))

/-! ### Steps -/

/-- Run a step, given how the steps within it are run. -/
def Step.run (nested : RunSteps) : Step → Exec Shared StepResult
  | depth => pure .done
  | clear => do
      Route.clear
      pure .done
  | thread steps => do
      match ← Exec.onNewThread (nested steps) with
      | .returned answers => pure (.inner answers)
      | .panicked message => Exec.panic message
  | propagator headers => do
      Exec.setPropagated headers
      pure .done
  | expand saveAs template vars handler explicit =>
      runExpand nested saveAs template vars handler explicit
  | registry saveAs spec => do
      Exec.modifyShared (·.addRegistry saveAs spec)
      pure .done
  | record into id tags elapsed => do
      withNamed into ((← Exec.shared).registryNamed? into) fun (n, _) => do
        pure (resultOf (fun _ => .ok) (← (liveRegistry n).observe id (Tags.ofPairs tags) elapsed))
  | find among name => do
      withNamed among ((← Exec.shared).registryNamed? among) fun (_, r) =>
        pure (.found (r.store.findSorted name) r.spec.hidden)
  | timer among name tags => do
      withNamed among ((← Exec.shared).registryNamed? among) fun (_, r) =>
        pure (.matching (r.store.matching name tags) r.spec.hidden)
  | count among name => do
      withNamed among ((← Exec.shared).registryNamed? among) fun (_, r) =>
        pure (.count (r.store.count name))
  | reset name => do
      withNamed name ((← Exec.shared).registryNamed? name) fun (n, r) => do
        setRegistryState n { r with store := r.store.clear }
        pure .done
  | sampleStart saveAs among => runSampleStart saveAs among
  | sampleStop sample id tags => runSampleStop sample id tags
  | sampleDrop sample => do
      Exec.modifyShared fun s => { s with samples := s.samples.erase sample }
      pure .done
  | build saveAs wrapping upon manner provider config propagate =>
      runBuild saveAs wrapping upon manner provider config propagate
  | debug name => do
      withNamed name ((← Exec.shared).anyBuilt? name) fun (wrapping, b) =>
        pure (.shown (wrapping.shown b))
  | debugFunction => pure (.shown shownFunctionProvider)
  | exchange via request inner conclusion => runExchange nested via request inner conclusion
  | call saveAs via request inner panicInCall pending awaited conclusion =>
      runCall nested saveAs via request inner panicInCall pending awaited conclusion
  | poll future => runPoll nested future
  | drop future => runDrop nested future
  | dropPanicking future message => runDropPanicking nested future message
  | ready via readiness => do
      withNamed via ((← Exec.shared).built.find? (.layer, via)) fun b => do
        let service : Service Shared Pending :=
          { ready := pure readiness, call := fun _ => Exec.panic "not called" }
        pure (.readiness (← ((liveInstrumentation nested b).wrap service).ready))

/-- Run a step guarded, and answer it. -/
def Step.answer (nested : RunSteps) (step : Step) : Exec Shared Answer := do
  let outcome ←
    match ← (step.run nested).guarded with
    | .returned outcome => pure outcome
    | .panicked message => pure (.panicked message)
  pure ⟨outcome, ← Route.depth⟩

/-- Run steps, with at most so many levels of steps within steps. -/
def runSteps : Nat → RunSteps
  | 0, _ => Exec.panic "nested too deeply"
  | limit + 1, steps => steps.mapM (Step.answer (runSteps limit))

/-! ### Scripts -/

/-- The answer to a step of a script, with what else came of it. -/
structure StepReport where
  /-- The answer. -/
  answer : Answer
  /-- What people were told meanwhile, in order. -/
  logs : List LogEvent
  /-- What meters were told meanwhile, in order. -/
  meters : List MeterEvent
  /-- The answers to the steps run aside meanwhile, in the order in which their groups were
  finished. -/
  side : List Answer
  /-- Whether durations are not to be shown. -/
  hidden : Bool

/-- Run a step of a script and report on it. -/
def reportStep (limit : Nat) (step : Step) : Exec Shared StepReport := do
  let before := (← Exec.journal).length
  let answer ← step.answer (runSteps limit)
  let journal ← Exec.journal
  let events := ((journal.take (journal.length - before)).reverse).map (·.event)
  let s ← Exec.shared
  Exec.setShared { s with side := [] }
  pure ⟨answer, events.filterMap Event.log?, events.filterMap Event.meter?,
    s.side.reverse.flatten, s.hidden⟩

/-- Run a script on a fresh thread, and report on its steps. -/
def run (limit : Nat) (steps : List Step) : List StepReport :=
  match ((steps.mapM (reportStep limit)).run {} { shared := {} }).1 with
  | .returned reports => reports
  | .panicked _ => []

/-- Ask a described provider for the tags of an exchange, on a fresh thread. -/
def deriveTags (limit : Nat) (provider : Provider) (request : RequestView) (reply : Reply) :
    Ending (Except MetricsError Tags) :=
  ((provider.live (runSteps limit) request reply).run {} { shared := {} }).1

end ExchangeMetrics.Script
