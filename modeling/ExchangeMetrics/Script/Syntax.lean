import ExchangeMetrics.Exchange.Builder
import ExchangeMetrics.Exchange.Service

/-!
# Scripts

A script is a list of steps that use the library the way a program would: they expand
templates, build interceptors and layers, run exchanges through them, and look at what was
recorded. Whatever a program would supply in code (tags providers, template handlers,
delegates, futures) is described by data, and each of these descriptions may contain steps of
its own, to any depth.

What steps make is kept under names; a step that uses a name finds what was last kept under it.
-/

namespace ExchangeMetrics.Script

/-! ### Messages -/

/-- A request as it is described in a script. -/
structure RequestSpec where
  /-- The text of the method. -/
  method : String := "GET"
  /-- The text of the URI. -/
  uri : String := "/"
  /-- The name of an expansion whose URI is used in place of `uri`, if it was kept. -/
  uriOf : Option String := none
  /-- The headers in the order in which they are added. -/
  headers : List (String × List UInt8) := []
  /-- The name of an expansion whose template is attached, if it was kept with one. -/
  routeOf : Option String := none
  /-- Templates attached afterwards, one after another. -/
  routes : List String := []
  /-- The body. -/
  body : String := ""

/-- A response as it is described in a script. -/
structure ResponseSpec where
  /-- The status code. -/
  status : Nat
  /-- The headers in the order in which they are added. -/
  headers : List (String × List UInt8) := []
  /-- The body. -/
  body : String := ""

/-- Why a described message is no message. -/
inductive MessageError where
  /-- The text of the method is not that of a method. -/
  | invalidMethod
  /-- The status code is out of range. -/
  | invalidStatus
  /-- The URI or a header is not well formed. -/
  | metrics (error : MetricsError)
deriving DecidableEq

/-- Add described headers, one after another. Of each the name is looked at before the
value. -/
def addHeaders (h : Headers) : List (String × List UInt8) → Except MessageError Headers
  | [] => .ok h
  | (name, value) :: rest =>
      match HeaderName.ofText? name with
      | none => .error (.metrics .invalidHeaderName)
      | some n =>
          match HeaderValue.ofBytes? value with
          | none => .error (.metrics .invalidHeaderValue)
          | some v => addHeaders (h.append n v) rest

/-- Make a described request, given the expansions that were kept. The method is looked at
first, then the URI, then the headers. -/
def RequestSpec.build (r : RequestSpec)
    (expansion? : String → Option (Uri × Option String)) : Except MessageError Request := do
  let some method := Method.ofText? r.method | .error .invalidMethod
  let uri ←
    match r.uriOf.bind expansion? with
    | some (uri, _) => .ok uri
    | none =>
        match Uri.parse r.uri with
        | .ok uri => .ok uri
        | .error e => .error (.metrics (.invalidUri e))
  let headers ← addHeaders {} r.headers
  let attached := (r.routeOf.bind expansion?).bind (·.2)
  .ok ⟨method, uri, headers, r.routes.getLast? <|> attached, r.body⟩

/-- Make a described response. The status is looked at before the headers. -/
def ResponseSpec.build (r : ResponseSpec) : Except MessageError Response := do
  let some status := Status.ofNat? r.status | .error .invalidStatus
  .ok ⟨status, ← addHeaders {} r.headers, r.body⟩

/-- How a delegate or a future of a service concludes. -/
inductive Conclusion where
  /-- With a response. -/
  | responds (response : Response)
  /-- With an error. -/
  | fails (failure : Failure)
  /-- With a panic. -/
  | panics (message : String)

/-- A conclusion as it is described in a script. -/
inductive ConclusionSpec where
  /-- With a response. -/
  | responds (response : ResponseSpec)
  /-- With an error. -/
  | fails (failure : Failure)
  /-- With a panic. -/
  | panics (message : String)

/-- Make a described conclusion. -/
def ConclusionSpec.build : ConclusionSpec → Except MessageError Conclusion
  | responds response => do .ok (.responds (← response.build))
  | fails failure => .ok (.fails failure)
  | panics message => .ok (.panics message)

/-- Conclude. -/
def Conclusion.conclude {σ : Type} : Conclusion → Exec σ Result
  | responds response => pure (.ok response)
  | fails failure => pure (.error failure)
  | panics message => Exec.panic message

/-! ### Registries -/

/-- What a described registry does with observations. -/
inductive Backend where
  /-- It keeps them in memory. -/
  | memory
  /-- It hands them to a meter in the name of a scope. -/
  | histograms (scope : String)
deriving DecidableEq

/-- A registry as it is described in a script. Readings of its clock and observations given to
it are counted from zero. -/
structure RegistrySpec where
  /-- What it does with observations. -/
  backend : Backend := .memory
  /-- The readings of its clock in nanoseconds; after the last one each reading is a
  millisecond later than the one before it. -/
  clock : List Nat := []
  /-- The readings that panic. -/
  clockPanics : List Nat := []
  /-- The observations at which it panics. -/
  recordPanics : List Nat := []
  /-- The observations that it refuses. -/
  refusals : List Nat := []
  /-- The error with which it refuses them. -/
  refusal : MetricsError := .registry ""
  /-- Whether its durations are not to be shown. -/
  hidden : Bool := false

/-- The nanoseconds in a millisecond. -/
def nanosPerMilli : Nat := 1000000

/-- A reading of the described clock. -/
def RegistrySpec.reading (r : RegistrySpec) (i : Nat) : Instant :=
  match r.clock[i]? with
  | some nanos => ⟨nanos⟩
  | none =>
      match r.clock.getLast? with
      | some last => ⟨last + (i + 1 - r.clock.length) * nanosPerMilli⟩
      | none => ⟨i * nanosPerMilli⟩

/-! ### Tags -/

/-- What the value of a tag is taken from. -/
inductive Source where
  | method
  | path
  | url
  | route
  | uri
  | host
  | names
  | status
  | present
  | replyNames
  | replyMethod
  | errorKind
  | errorMessage
  | error
  | header (name : String)
  | replyHeader (name : String)
  | const (text : String)
deriving DecidableEq

/-- The value taken from a source, if there is one. -/
def Source.value? (request : RequestView) (reply : Reply) : Source → Option String
  | method => some request.method.text
  | path => some request.path
  | url => request.url?
  | route => request.route
  | uri => some request.uri.text
  | host => request.uri.host
  | names => some (",".intercalate request.headers.sortedNames)
  | status => some (String.ofList (Nat.toDigits 10 reply.statusCode))
  | present => some (if reply.isPresent then "true" else "false")
  | replyNames => some (",".intercalate reply.headers.sortedNames)
  | replyMethod => some request.method.text
  | errorKind => reply.fault?.map (·.kind)
  | errorMessage => reply.fault?.map (·.message)
  | error => reply.fault?.map (·.text)
  | header name => request.header? name
  | replyHeader name => reply.header? name
  | const text => some text

/-- The tags taken from sources; a dash stands for a value that is not there. -/
def sourceTags (sources : List (String × Source)) (request : RequestView) (reply : Reply) :
    Tags :=
  Tags.ofPairs (sources.map fun (key, source) => (key, (source.value? request reply).getD "-"))

/-! ### Steps -/

/-- How an interceptor or a layer is made. -/
inductive Manner where
  /-- From a registry. -/
  | plain
  /-- From a registry and a tags provider. -/
  | withProvider
  /-- By a builder. -/
  | builder
deriving DecidableEq

mutual

/-- A step of a script. -/
inductive Step where
  /-- Do nothing. -/
  | depth
  /-- Clear the route stack. -/
  | clear
  /-- Run steps on a new thread and wait for them. -/
  | thread (steps : List Step)
  /-- Choose the headers of the global propagator. -/
  | propagator (headers : List (String × String))
  /-- Expand a template and keep the URI; a capturing handler may be asked to give the template
  along with it. -/
  | expand (saveAs : String) (template : String) (vars : Variables) (handler : Handler)
      (explicit : Bool)
  /-- Make a registry. -/
  | registry (saveAs : String) (spec : RegistrySpec)
  /-- Give a registry an observation. -/
  | record (registry : String) (timer : TimerId) (tags : List (String × String))
      (elapsed : Duration)
  /-- Look up the series under a name. -/
  | find (registry name : String)
  /-- Look for a series under a name that has some tags. -/
  | timer (registry name : String) (tags : List (String × String))
  /-- Count the observations under a name. -/
  | count (registry name : String)
  /-- Forget the observations of a registry. -/
  | reset (registry : String)
  /-- Start a sample. -/
  | sampleStart (saveAs registry : String)
  /-- Stop a sample. -/
  | sampleStop (sample : String) (timer : TimerId) (tags : List (String × String))
  /-- Drop a sample. -/
  | sampleDrop (sample : String)
  /-- Make an interceptor or a layer. -/
  | build (saveAs : String) (wrapping : Wrapping) (registry : String) (manner : Manner)
      (provider : Option Provider) (config : Option Config) (propagate : Option Bool)
  /-- Show an interceptor or a layer. -/
  | debug (name : String)
  /-- Show a provider made from a function. -/
  | debugFunction
  /-- Run an exchange through an interceptor; the delegate runs steps and concludes. -/
  | exchange (via : String) (request : RequestSpec) (inner : Option (List Step))
      (conclusion : ConclusionSpec)
  /-- Call a service through a layer and keep the future. The service runs steps and may panic;
  the future is pending for a while, then runs steps and concludes. -/
  | call (saveAs via : String) (request : RequestSpec) (inner : Option (List Step))
      (panicInCall : Option String) (pending : Nat) (awaited : List Step)
      (conclusion : ConclusionSpec)
  /-- Poll a future once. -/
  | poll (future : String)
  /-- Drop a future. -/
  | drop (future : String)
  /-- Panic while owning a future. -/
  | dropPanicking (future message : String)
  /-- Ask a service behind a layer whether it is ready. -/
  | ready (via : String) (readiness : Readiness)

/-- A template handler as it is described in a script. -/
inductive Handler where
  /-- The standard one. -/
  | standard
  /-- One that captures what another one expands. -/
  | capturing (inner : Handler)
  /-- One that fails. -/
  | fails (error : MetricsError)
  /-- One that panics. -/
  | panics (message : String)
  /-- One that runs steps and then does as another one. -/
  | after (steps : List Step) (next : Handler)

/-- A tags provider as it is described in a script. -/
inductive Provider where
  /-- The standard one. -/
  | standard (unknown : String)
  /-- One that fails. -/
  | fails (error : MetricsError)
  /-- One that panics. -/
  | panics (message : String)
  /-- One that takes tags from sources. -/
  | sources (sources : List (String × Source))
  /-- One that runs steps and then does as another one. -/
  | after (steps : List Step) (next : Provider)

end

end ExchangeMetrics.Script
