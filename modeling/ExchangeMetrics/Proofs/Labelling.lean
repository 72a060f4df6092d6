import ExchangeMetrics.Proofs.Newest
import ExchangeMetrics.Proofs.Serving

/-!
# Routes as tags

The standard tags name the route of an exchange by the normalised template. A template gets there
in two ways: it was captured when it was expanded, and claimed by the exchange for the URI, or it
was attached to the request. Both ways give the same tag, which depends on nothing but the
template, and the exchange is recorded as if the tags provider had known the template all along.

## Main results

* `Labels.of_route`: an exchange whose route is known is recorded under it.
* `Pool.labelled_by_template`: captured and attached templates as tags.
-/

namespace ExchangeMetrics

variable {σ : Type}

/-- The provider of the standard tags that takes a given text for the route of every request. -/
def TagsProvider.labelling (unknown text : String) : TagsProvider σ :=
  fun view reply => pure (.ok ((standardTags unknown view reply).insert "uri" text))

/-- What is guaranteed about an exchange that is recorded under a text for its route. -/
structure Labels (i : LiveInstrumentation σ) (unknown : String) (request : Request) (c : Context)
    (w : World σ) (text : String) : Prop where
  /-- Whatever comes of the exchange, this text is among its tags. -/
  tagged : ∀ (o : Observation) (r : Request) (w' : World σ),
    (i.start request).run c (Route.openScope.run c w).2 = (.returned (o, r), w') →
      ∀ reply, ∃ tags, o.tags i reply = pure (.ok tags) ∧ tags.get? "uri" = some text
  /-- An interceptor runs as if the provider had been told the text. -/
  intercepted : ∀ delegate : Request → Exec σ Result,
    (i.intercept request delegate).run c w =
      (Instrumentation.intercept { i with provider := .labelling unknown text } request
        delegate).run c w
  /-- So does the call of a measured service. -/
  called : ∀ {φ : Type} (inner : Request → Exec σ φ),
    (i.call inner request).run c w =
      (Instrumentation.call { i with provider := .labelling unknown text } inner request).run c w
  /-- And so do the futures that the call gives, wherever they are polled and dropped. -/
  flown : ∀ {φ : Type} (inner : Request → Exec σ φ) (futures : Futures σ φ) (flight : Flight φ)
    (w' : World σ), (i.call inner request).run c w = (.returned flight, w') → ∀ future,
      let flight' : Flight φ := { flight with inner := future }
      flight'.poll i futures =
          flight'.poll { i with provider := .labelling unknown text } futures ∧
        flight'.drop i futures =
          flight'.drop { i with provider := .labelling unknown text } futures

/-! ### The route as a tag -/

/-- Telling the provider the route that it knows makes no difference. -/
theorem insert_standardTags {unknown route : String} {view : RequestView} (reply : Reply)
    (h : view.route = some route) :
    (standardTags unknown view reply).insert "uri" (Route.normal route) =
      standardTags unknown view reply := by
  refine Tags.ext_get? fun k => ?_
  rw [Tags.get?_insert]
  split
  · rename_i hk
    subst hk
    rw [standardTags_get?, uriText, h]
    rfl
  · rfl

/-- A view with a template is labelled by it in the same way as by the standard tags. -/
theorem TagsProvider.labelling_eq_standard {unknown route : String} {view : RequestView}
    (h : view.route = some route) :
    (labelling unknown (Route.normal route) : TagsProvider σ) view = standard unknown view := by
  funext reply
  rw [labelling, standard, insert_standardTags reply h]

section

variable {i : LiveInstrumentation σ} {unknown route : String} {request : Request} {c : Context}
  {w : World σ}

/-- An exchange whose route is known is recorded under the route. -/
theorem Labels.of_route (hi : i.provider = .standard unknown)
    (h : ∀ o r w', (i.start request).run c (Route.openScope.run c w).2 = (.returned (o, r), w') →
      o.request.route = some route) :
    Labels i unknown request c w (Route.normal route) := by
  have hagree {o : Observation} (ho : o.request.route = some route) :
      (TagsProvider.labelling unknown (Route.normal route) : TagsProvider σ) o.request =
        i.provider o.request := by
    rw [hi]
    exact TagsProvider.labelling_eq_standard ho
  refine ⟨fun o r w' hstart reply => ?_, fun delegate => ?_, fun inner => ?_, ?_⟩
  · refine ⟨standardTags unknown o.request reply, ?_, ?_⟩
    · rw [Observation.tags, hi]
      rfl
    · rw [standardTags_get?, uriText, h o r w' hstart]
      rfl
  · refine Route.run_inScope_congr (Exec.run_bind_congr ?_)
    rintro ⟨o, r⟩ w' hstart
    have ho := hagree (h o r w' hstart)
    simp only [Observation.complete_congr ho, Observation.forsake_congr ho]
  · refine Route.run_inScope_congr (Exec.run_bind_congr ?_)
    rintro ⟨o, r⟩ w' hstart
    have ho := hagree (h o r w' hstart)
    simp only [Observation.forsake_congr ho]
  · intro φ inner futures flight w' hcall future
    obtain ⟨r, w₁, hstart⟩ := i.start_of_call hcall
    have ho := hagree (h _ r w₁ hstart)
    constructor
    · rw [Flight.poll, Flight.poll, Observation.forsake_congr ho, Observation.complete_congr ho]
    · rw [Flight.drop, Flight.drop, Observation.forsake_congr ho]

/-- An exchange is recorded under the template that was attached to its request. -/
theorem Labels.of_attached (hi : i.provider = .standard unknown)
    (hroute : request.route = some route) : Labels i unknown request c w (Route.normal route) := by
  refine .of_route hi fun o r w' hstart => ?_
  rw [i.route_of_start hstart, hroute]
  rfl

/-- An exchange is recorded under the template of the entry that it claims. -/
theorem Labels.of_claim {entry : Route.Entry} {routes : Route.Stack}
    (hi : i.provider = .standard unknown) (hroute : request.route = none)
    (hclaim : (w.thread c.thread).routes.claim request.uri = some (entry, routes)) :
    Labels i unknown request c w (Route.normal entry.template) := by
  have hopened : ((Route.openScope.run c w).2.thread c.thread).routes =
      (w.thread c.thread).routes := by
    rw [Route.openScope, Exec.onThread, Exec.run_atomically, World.thread_note,
      World.thread_setThread, if_pos rfl]
    rfl
  refine .of_route hi fun o r w' hstart => ?_
  rw [i.route_of_start hstart, hroute, hopened, hclaim]
  rfl

end

/-! ### Captured templates -/

/-- An expansion by the capturing standard handler pushes the template and binds it at once. -/
theorem TemplateHandler.capturing_standard {template : String} {vars : Variables} {uri : Uri}
    (h : Template.expand template vars = .ok uri) :
    (standard.capturing template vars : Exec σ (Except MetricsError Uri)) = (do
      let token ← Route.push template
      Route.bind token uri
      pure (.ok uri)) := by
  rw [capturing]
  simp only [standard, h, pure_bind]

/-- A template that was expanded on a thread, by the capturing standard handler, and nothing has
disturbed since, is the tag of the exchange that is made there for the URI: by an interceptor or
a measured service with the standard tags provider, for a request without a template. It is the
same tag as that of every exchange to whose request the template is attached. -/
theorem Pool.labelled_by_template {kept : σ → Multiset Observation} {p q : Pool σ}
    (hp : p.Fresh kept) (h : p.Reaches q) {t : ThreadId}
    (hfew : pushes t q.world.journal ≤ 2 ^ 64)
    {template : String} {vars : Variables} {uri : Uri}
    (hexpand : Template.expand template vars = .ok uri)
    {newer mid older : List Moment} {k : UInt64} {b₁ b₂ : Thread}
    (hj : q.world.journal =
      newer ++ ⟨t, .bound k uri, b₁⟩ :: (mid ++ ⟨t, .captured k template, b₂⟩ :: older))
    (hmid : ∀ m ∈ mid, m.thread ≠ t)
    (hquiet : Undisturbed t uri newer
      (⟨t, .bound k uri, b₁⟩ :: (mid ++ ⟨t, .captured k template, b₂⟩ :: older)))
    {c : Context} (hc : c.thread = t) {w : World σ} (hw : w.thread t = q.world.thread t)
    {i : LiveInstrumentation σ} {unknown : String} (hi : i.provider = .standard unknown)
    {request : Request} (huri : request.uri = uri) (hroute : request.route = none) :
    Labels i unknown request c w (Route.normal template) ∧
      (TemplateHandler.standard.capturing template vars : Exec σ (Except MetricsError Uri)) = (do
        let token ← Route.push template
        Route.bind token uri
        pure (.ok uri)) ∧
      (TemplateHandler.standard.withTemplate template vars :
        Exec σ (Except MetricsError (Uri × String))) = pure (.ok (uri, template)) ∧
      ∀ (c' : Context) (w' : World σ),
        Labels i unknown { request with route := some template } c' w' (Route.normal template) := by
  refine ⟨?_, TemplateHandler.capturing_standard hexpand, ?_, fun c' w' => .of_attached hi rfl⟩
  · obtain ⟨nestings, -, hreplays⟩ : q.Nests :=
      h.invariant hp.nests fun _ _ _ hr hs => hr.step hs
    have hr := hreplays t
    have hone := hr.captures_le_one hfew k
    have hended : 0 < countOn t (Event.concludes k)
        (⟨t, .bound k uri, b₁⟩ :: (mid ++ ⟨t, .captured k template, b₂⟩ :: older)) := by
      rw [countOn_turn]
      simp [Event.concludes]
    rw [hj] at hr hone
    have hnewest : (q.world.thread t).routes.Newest ⟨k, template, some uri⟩ uri := by
      refine hr.newest rfl hquiet hone hended fun b₀ n₀ hr₀ => ?_
      refine hr₀.newest_of_bound hmid (Nat.le_trans ?_ hone)
      exact ((List.sublist_cons_self _ _).trans (List.sublist_append_right newer _)).countP_le
    obtain ⟨routes, hclaim⟩ := hnewest.claim rfl
    rw [← hw, ← hc, ← huri] at hclaim
    have hlabels := Labels.of_claim hi hroute hclaim
    exact hlabels
  · rw [TemplateHandler.withTemplate, TemplateHandler.standard, hexpand]
    rfl

/-! ### Three expansions -/

/-- Expand a template, then one for another path, and then one for which a value is missing. -/
def threeExpansions : Exec Unit Unit := do
  let _ ← TemplateHandler.standard.capturing "http://example.com/hotels/\x7bhotel\x7d"
    (.positional ["1"])
  let _ ← TemplateHandler.standard.capturing "http://example.com/rooms" (.positional [])
  let _ ← TemplateHandler.standard.capturing "/\x7broom\x7d" (.positional [])
  pure ()

/-- The program owns nothing, since its exchange begins and ends within it. -/
theorem program_threeExpansions : Program (fun _ => 0) 0 threeExpansions fun _ => 0 := by
  refine .bind (.expand (.pure _ fun _ => 0)) fun _ => ?_
  refine .bind (.expand (.pure _ fun _ => 0)) fun _ => ?_
  exact .bind (.expand (.pure _ fun _ => 0)) fun _ => .pure () fun _ => 0

/-- The request for the URI of the first expansion is tagged with the first template. -/
theorem labelled_by_template_threeExpansions :
    ∃ q : Pool Unit, Pool.Reaches ⟨{ shared := () }, [threeExpansions]⟩ q ∧
      Labels (.plain false) "UNKNOWN"
        { Request.plain with uri := ⟨some "http", some "example.com", "/hotels/1", none⟩ }
        { thread := 0 } q.world
        (Route.normal "http://example.com/hotels/\x7bhotel\x7d") := by
  have hfresh : Pool.Fresh (fun _ => 0) ⟨{ shared := () }, [threeExpansions]⟩ :=
    ⟨rfl, rfl, rfl, rfl, fun m hm => List.mem_singleton.mp hm ▸ program_threeExpansions⟩
  have hreaches := Pool.reaches_run (p := ⟨{ shared := () }, [threeExpansions]⟩) (t := 0) rfl
  have hhotel : Template.expand "http://example.com/hotels/\x7bhotel\x7d" (.positional ["1"]) =
      .ok ⟨some "http", some "example.com", "/hotels/1", none⟩ := by decide +kernel
  have hrooms : Template.expand "http://example.com/rooms" (.positional []) =
      .ok ⟨some "http", some "example.com", "/rooms", none⟩ := by decide +kernel
  have hfails : Template.expand "/\x7broom\x7d" (.positional []) =
      .error (.uriTemplate "/\x7broom\x7d" (.missing "room")) := by decide +kernel
  have hprogram : threeExpansions = (do
      let first ← Route.push "http://example.com/hotels/\x7bhotel\x7d"
      Route.bind first ⟨some "http", some "example.com", "/hotels/1", none⟩
      let second ← Route.push "http://example.com/rooms"
      Route.bind second ⟨some "http", some "example.com", "/rooms", none⟩
      let third ← Route.push "/\x7broom\x7d"
      Route.discard third) := by
    simp only [threeExpansions, TemplateHandler.capturing, TemplateHandler.standard, hhotel,
      hrooms, hfails, pure_bind, bind_assoc]
    rfl
  obtain ⟨b₁, b₂, b₃, b₄, b₅, b₆, hj⟩ : ∃ b₁ b₂ b₃ b₄ b₅ b₆,
      (threeExpansions.run { thread := 0 } { shared := () }).2.journal =
        [⟨0, .discarded 2, b₆⟩, ⟨0, .captured 2 "/\x7broom\x7d", b₅⟩,
          ⟨0, .bound 1 ⟨some "http", some "example.com", "/rooms", none⟩, b₄⟩,
          ⟨0, .captured 1 "http://example.com/rooms", b₃⟩] ++
        ⟨0, .bound 0 ⟨some "http", some "example.com", "/hotels/1", none⟩, b₂⟩ :: ([] ++
          ⟨0, .captured 0 "http://example.com/hotels/\x7bhotel\x7d", b₁⟩ :: []) := by
    rw [hprogram]
    exact ⟨_, _, _, _, _, _, rfl⟩
  have hfew : pushes 0 (threeExpansions.run { thread := 0 } { shared := () }).2.journal ≤
      2 ^ 64 := by
    rw [hj]
    simp [pushes, countOn, Event.isCapture]
  have hother (older : List Moment) :
      ¬ Disturbs 0 ⟨some "http", some "example.com", "/hotels/1", none⟩ older
        ⟨0, .bound 1 ⟨some "http", some "example.com", "/rooms", none⟩, b₄⟩ := by
    rintro (_ | _ | ⟨_, _, hsame⟩)
    exact absurd hsame (by decide)
  refine ⟨_, hreaches, (Pool.labelled_by_template hfresh hreaches hfew hhotel hj
    (List.forall_mem_nil _) ?_ rfl rfl rfl rfl rfl).1⟩
  have hpushed (older : List Moment) (token : UInt64) (template : String) (b : Thread) :
      ¬ Disturbs 0 ⟨some "http", some "example.com", "/hotels/1", none⟩ older
        ⟨0, .captured token template, b⟩ := by
    rintro ⟨⟩
  have hdiscarded (older : List Moment) :
      ¬ Disturbs 0 ⟨some "http", some "example.com", "/hotels/1", none⟩ older
        ⟨0, .discarded 2, b₆⟩ := by
    rintro ⟨⟩
  refine Undisturbed.cons ?_ (hdiscarded _)
  exact ((Undisturbed.nil.cons (hpushed _ _ _ _)).cons (hother _)).cons (hpushed _ _ _ _)

end ExchangeMetrics
