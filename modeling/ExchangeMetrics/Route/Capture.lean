import ExchangeMetrics.Exec.Basic
import ExchangeMetrics.Route.Template

/-!
# Capturing routes

A template handler expands templates to URIs. A capturing handler wraps another one and leaves
on the thread's route stack which template a URI came from, for the exchange that will use the
URI. Exchanges open a scope on their thread; when the outermost scope of a thread is closed,
whatever is left on its route stack is discarded, so that no route outlives the exchange after
it.

## Main definitions

* `TemplateHandler.standard`, `TemplateHandler.capturing`: the two handlers.
* `Route.inScope`: run a computation within an exchange scope, which is closed however the
  computation ends.
* `Route.resolve`: the route of a request.
-/

namespace ExchangeMetrics

variable {σ α : Type}

namespace Route

/-! ### The route stack of the thread -/

/-- Push an entry for a template that is about to be expanded, and give its token. -/
def push (template : String) : Exec σ UInt64 :=
  Exec.onThread fun t =>
    (t.routes.next, { t with routes := t.routes.push template },
      .captured t.routes.next template)

/-- Bind the entry with a token to a URI. -/
def bind (token : UInt64) (uri : Uri) : Exec σ Unit :=
  Exec.onThread fun t => ((), { t with routes := t.routes.bind token uri }, .bound token uri)

/-- Remove the entry with a token. -/
def discard (token : UInt64) : Exec σ Unit :=
  Exec.onThread fun t => ((), { t with routes := t.routes.discard token }, .discarded token)

/-- Take off the entry that belongs to a URI, and give its template. -/
def claim (uri : Uri) : Exec σ (Option String) :=
  Exec.onThread fun t =>
    match t.routes.claim uri with
    | some (entry, routes) =>
        (some entry.template, { t with routes := routes }, .claimed uri (some entry))
    | none => (none, t, .claimed uri none)

/-- Discard every entry. -/
def clear : Exec σ Unit :=
  Exec.onThread fun t => ((), { t with routes := t.routes.clear }, .cleared)

/-- The number of entries. -/
def depth : Exec σ Nat := do
  let t ← Exec.thread
  pure t.routes.depth

/-! ### Scopes -/

/-- A thread with one more scope open. -/
def opened (t : Thread) : Thread :=
  { t with active := t.active + 1 }

/-- A thread with one scope less open; without any scope left, its route stack is cleared. -/
def closed (t : Thread) : Thread :=
  if t.active - 1 = 0 then { active := 0, routes := t.routes.clear }
  else { t with active := t.active - 1 }

/-- Closing the outermost scope leaves no exchange active and clears the route stack. -/
theorem closed_outermost {t : Thread} (h : t.active - 1 = 0) :
    closed t = { active := 0, routes := t.routes.clear } :=
  if_pos h

/-- Closing any other scope leaves the route stack as it is. -/
theorem closed_inner {t : Thread} (h : t.active - 1 ≠ 0) :
    closed t = { t with active := t.active - 1 } :=
  if_neg h

/-- The route stack after a scope was closed. -/
theorem routes_closed (t : Thread) :
    (closed t).routes = if t.active - 1 = 0 then t.routes.clear else t.routes := by
  rw [closed]
  split <;> rfl

/-- Open a scope. -/
def openScope : Exec σ Unit :=
  Exec.onThread fun t => ((), opened t, .scopeOpened)

/-- Close a scope. -/
def closeScope : Exec σ Unit :=
  Exec.onThread fun t => ((), closed t, .scopeClosed)

/-- Run a computation within a scope, which is closed however the computation ends. -/
def inScope (m : Exec σ α) : Exec σ α := do
  openScope
  m.andThen closeScope

/-! ### The route of a request -/

/-- The route of a request: the template attached to it, and if there is none, the one captured
for its URI. What was captured for it is claimed in either case. -/
def resolve (request : Request) : Exec σ (Option String) := do
  let captured ← claim request.uri
  pure (request.route <|> captured)

end Route

/-! ### Template handlers -/

/-- Whoever expands templates. -/
abbrev TemplateHandler (σ : Type) : Type :=
  String → Variables → Exec σ (Except MetricsError Uri)

namespace TemplateHandler

/-- The handler that fills the placeholders of a template and does nothing else. -/
def standard : TemplateHandler σ :=
  fun template vars => pure (Template.expand template vars)

/-- The handler that leaves on the route stack which template a URI came from. The entry is
pushed before the template is expanded, bound to the URI when there is one, and discarded when
the expansion fails. -/
def capturing (handler : TemplateHandler σ) : TemplateHandler σ :=
  fun template vars => do
    let token ← Route.push template
    match ← handler template vars with
    | .ok uri => do
        Route.bind token uri
        pure (.ok uri)
    | .error reason => do
        Route.discard token
        pure (.error reason)

/-- Expand a template and give it along with the URI, to be attached to a request; the route
stack is left alone. -/
def withTemplate (handler : TemplateHandler σ) (template : String) (vars : Variables) :
    Exec σ (Except MetricsError (Uri × String)) := do
  match ← handler template vars with
  | .ok uri => pure (.ok (uri, template))
  | .error reason => pure (.error reason)

end TemplateHandler

end ExchangeMetrics
