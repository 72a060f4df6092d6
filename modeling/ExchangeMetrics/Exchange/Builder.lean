import ExchangeMetrics.Config.Basic
import ExchangeMetrics.Exchange.Instrumentation
import ExchangeMetrics.Text.Quoted

/-!
# Building instrumentations

An instrumentation is put together from a registry, a tags provider and a configuration. Only
the registry is needed: without a provider the standard one is used, with the text that the
configuration has for unknown routes, and without a configuration the one by default.

## Main results

* `Builder.build_eq_ok_iff`, `Builder.build_eq_error_iff`: building fails exactly if the name
  of the timer is blank.
-/

namespace ExchangeMetrics

variable {ρ π : Type}

/-- What an instrumentation is built from. -/
structure Builder (ρ π : Type) where
  /-- The registry. -/
  registry : ρ
  /-- The tags provider, if it is not the standard one. -/
  provider : Option π := none
  /-- The configuration. -/
  config : Config := {}

namespace Builder

/-- Choose the tags provider. -/
def withProvider (b : Builder ρ π) (provider : π) : Builder ρ π :=
  { b with provider := some provider }

/-- Choose the configuration as a whole. -/
def withConfig (b : Builder ρ π) (config : Config) : Builder ρ π :=
  { b with config := config }

/-- Choose whether headers are propagated. -/
def propagating (b : Builder ρ π) (enabled : Bool) : Builder ρ π :=
  { b with config := { b.config with propagates := enabled } }

/-- Put the instrumentation together without looking at the configuration; `standard` is the
standard provider for a given text for unknown routes. -/
def assemble (standard : String → π) (b : Builder ρ π) : Instrumentation ρ π where
  registry := b.registry
  provider := b.provider.getD (standard b.config.unknownUri)
  timer := ⟨b.config.metricName, some b.config.description⟩
  propagates := b.config.propagates

/-- Put the instrumentation together if the configuration is acceptable. -/
def build (standard : String → π) (b : Builder ρ π) :
    Except MetricsError (Instrumentation ρ π) := do
  b.config.validate
  pure (b.assemble standard)

/-- An instrumentation is built exactly if the name of the timer has something visible, and then it
is the one that was put together. -/
theorem build_eq_ok_iff {standard : String → π} {b : Builder ρ π} {i : Instrumentation ρ π} :
    b.build standard = .ok i ↔
      Text.isAllBlank b.config.metricName = false ∧ i = b.assemble standard := by
  unfold build Config.validate
  cases h : Text.isAllBlank b.config.metricName <;>
    simp [bind, Except.bind, pure, Except.pure, eq_comm]

/-- Nothing is built exactly if the name of the timer has nothing but white space, and the error
says so. -/
theorem build_eq_error_iff {standard : String → π} {b : Builder ρ π} {e : MetricsError} :
    b.build standard = .error e ↔
      Text.isAllBlank b.config.metricName = true ∧
        e = .invalidConfig "metric_name must not be empty" := by
  unfold build Config.validate
  cases h : Text.isAllBlank b.config.metricName <;>
    simp [bind, Except.bind, pure, Except.pure, eq_comm]

end Builder

/-! ### Showing instrumentations -/

/-- The two things that an instrumentation is built into. -/
inductive Wrapping where
  /-- An interceptor of calls. -/
  | interceptor
  /-- A layer around services. -/
  | layer
deriving DecidableEq

/-- The name under which a wrapping is shown. -/
def Wrapping.name : Wrapping → String
  | interceptor => "MetricsInterceptor"
  | layer => "MetricsLayer"

/-- A record as it is shown: its name, its fields in braces, and two dots if there is more in
it. -/
def shownRecord (name : String) (fields : List (String × String)) (more : Bool) : String :=
  let shown := fields.map fun (field, value) => field ++ ": " ++ value
  name ++ " \x7b " ++ ", ".intercalate (shown ++ if more then [".."] else []) ++ " \x7d"

/-- An optional text as it is shown. -/
def shownOption : Option String → String
  | some s => "Some(" ++ Text.quoted s ++ ")"
  | none => "None"

/-- A timer as it is shown. -/
def TimerId.shown (t : TimerId) : String :=
  shownRecord "TimerId"
    [("name", Text.quoted t.name), ("description", shownOption t.description)] false

/-- An instrumentation as it is shown: its timer and whether it propagates headers. -/
def Instrumentation.shown (i : Instrumentation ρ π) : String :=
  shownRecord "Instrumentation"
    [("timer", i.timer.shown),
      ("propagate_trace_context", if i.propagates then "true" else "false")] true

/-- What an instrumentation was built into, as it is shown. -/
def Wrapping.shown (w : Wrapping) (i : Instrumentation ρ π) : String :=
  shownRecord w.name [("instrumentation", i.shown)] false

/-- A tags provider made from a function, as it is shown. -/
def shownFunctionProvider : String :=
  shownRecord "TagsProviderFn" [] true

end ExchangeMetrics
