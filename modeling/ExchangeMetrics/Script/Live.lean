import ExchangeMetrics.Script.State

/-!
# Descriptions brought to life

What a script describes by data is turned here into what the library works with: registries,
template handlers, tags providers, delegates and services. Descriptions contain steps; how
these are run is left open, and given to every definition as `nested`.
-/

namespace ExchangeMetrics.Script

/-- Run steps and answer them. -/
abbrev RunSteps : Type := List Step → Exec Shared (List Answer)

/-- Run steps whose answers are put aside as a group once the last of them is done. -/
def runAside (nested : RunSteps) (steps : List Step) : Exec Shared Unit := do
  let answers ← nested steps
  Exec.modifyShared fun s => { s with side := answers :: s.side }

/-! ### Registries -/

/-- Hand an observation to the backend of a registry. -/
def RegistryState.take (r : RegistryState) (timer : TimerId) (tags : Tags)
    (elapsed : Duration) : Except MetricsError Unit × RegistryState × List MeterEvent :=
  match r.spec.backend with
  | .memory =>
      let (answer, store) := r.store.take timer tags elapsed
      (answer, { r with store := store }, [])
  | .histograms _ =>
      let (exporter, events) := r.exporter.record timer tags elapsed
      (.ok (), { r with exporter := exporter }, events)

/-- The state of a registry. -/
def registryState (id : RegistryId) : Exec Shared RegistryState := do
  match (← Exec.shared).registries[id]? with
  | some r => pure r
  | none => Exec.panic "no such registry"

/-- Change the state of a registry. -/
def setRegistryState (id : RegistryId) (r : RegistryState) : Exec Shared Unit :=
  Exec.modifyShared (·.setRegistry id r)

/-- A described registry. Its readings and observations are counted before they panic. -/
def liveRegistry (id : RegistryId) : MeterRegistry Shared where
  now := do
    let r ← registryState id
    setRegistryState id { r with reads := r.reads + 1 }
    if r.spec.clockPanics.contains r.reads then Exec.panic "clock bug"
    else pure (r.spec.reading r.reads)
  record timer tags elapsed := do
    let r ← registryState id
    setRegistryState id { r with records := r.records + 1 }
    if r.spec.recordPanics.contains r.records then Exec.panic "registry bug"
    else if r.spec.refusals.contains r.records then pure (.error r.spec.refusal)
    else do
      let (answer, r, events) := { r with records := r.records + 1 }.take timer tags elapsed
      setRegistryState id r
      events.forM fun event => Exec.note (.metered event)
      pure answer

/-! ### Handlers and providers -/

/-- A described template handler. -/
def Handler.live (nested : RunSteps) : Handler → TemplateHandler Shared
  | standard => .standard
  | capturing inner => .capturing (inner.live nested)
  | fails error => fun _ _ => pure (.error error)
  | panics message => fun _ _ => Exec.panic message
  | after steps next => fun template vars => do
      runAside nested steps
      next.live nested template vars

/-- A described tags provider. -/
def Provider.live (nested : RunSteps) : Provider → TagsProvider Shared
  | standard unknown => .standard unknown
  | fails error => fun _ _ => pure (.error error)
  | panics message => fun _ _ => Exec.panic message
  | sources list => fun request reply => pure (.ok (sourceTags list request reply))
  | after steps next => fun request reply => do
      runAside nested steps
      next.live nested request reply

/-- A described instrumentation. -/
def liveInstrumentation (nested : RunSteps) (b : Built) : LiveInstrumentation Shared :=
  b.map liveRegistry (·.live nested)

/-! ### Delegates, services and futures -/

/-- Begin an account of what a delegate or service notes. -/
def newAccount : Exec Shared Nat := do
  let s ← Exec.shared
  Exec.setShared { s with accounts := s.accounts ++ [{}] }
  pure s.accounts.length

/-- What was noted in an account. -/
def account (id : Nat) : Exec Shared Account := do
  pure (((← Exec.shared).accounts[id]?).getD {})

/-- Note the request that was handed on, and run steps if there are any to be run. -/
def attend (nested : RunSteps) (id : Nat) (inner : Option (List Step)) (request : Request) :
    Exec Shared Unit := do
  let depth ← Route.depth
  Exec.modifyShared (·.modifyAccount id fun a => { a with seen := some ⟨request, depth⟩ })
  match inner with
  | none => pure ()
  | some steps => do
      let answers ← nested steps
      Exec.modifyShared (·.modifyAccount id fun a => { a with inner := some answers })

/-- What can be done with the futures of a described service. -/
def pendingFutures (nested : RunSteps) : Futures Shared Pending where
  poll f :=
    match f.polls with
    | n + 1 => pure (.pending { f with polls := n })
    | 0 => do
        runAside nested f.awaited
        pure (.done (← f.conclusion.conclude))
  drop _ := pure ()

/-- Drop a future that was kept. -/
def dropKept (nested : RunSteps) (k : Kept) : Exec Shared Unit :=
  k.flight.drop (liveInstrumentation nested k.built) (pendingFutures nested)

end ExchangeMetrics.Script
