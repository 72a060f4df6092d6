import ExchangeMetrics.Exchange.Builder
import ExchangeMetrics.Proofs.Entering
import ExchangeMetrics.Proofs.ObjectText
import ExchangeMetrics.Proofs.Serving

/-!
# From the text of a configuration to what is recorded

The members of an object fit a configuration if their keys are those of fields, no key is given
twice, and each value is of the kind of its field. Then, and only then, a configuration is read: it
has the values that are written, and where none is written those it has by default. The order of the
members does not matter, for a field is set once at most.

What is built from a configuration follows it. Its timer has the name and the description that were
chosen, and every exchange without a route is recorded with the text that was chosen for it. Only a
configuration whose name is blank is refused.

## Main results

* `Config.read_eq_ok_iff`: which configuration is read from the text of an object.
* `Config.builds`: what is built from a configuration.
* `Config.from_text`: from a text to what is recorded.
-/

namespace ExchangeMetrics

/-! ### What members say -/

/-- What a member of an object says about a configuration: the value of one of its fields. -/
inductive Config.Says (c : Config) : Json.Member → Prop where
  | metricName : Says c ⟨some "metric_name", .string (some c.metricName)⟩
  | description : Says c ⟨some "description", .string (some c.description)⟩
  | unknownUri : Says c ⟨some "unknown_uri", .string (some c.unknownUri)⟩
  | propagates : Says c ⟨some "propagate_trace_context", .boolean c.propagates⟩

/-- The members of an object fit a configuration. -/
structure Fits (ms : List Json.Member) : Prop where
  /-- Each says something about some configuration: its key is that of a field, and its value is of
  the kind of the field. -/
  known : ∀ m ∈ ms, ∃ c : Config, c.Says m
  /-- No key is given twice. -/
  distinct : (ms.map (·.key)).Nodup

/-- A configuration is what the members of an object say, and as it is by default where they say
nothing. -/
structure Config.Chosen (c : Config) (ms : List Json.Member) : Prop where
  written : ∀ m ∈ ms, c.Says m
  metricName : some "metric_name" ∉ ms.map (·.key) → c.metricName = "http.client.requests"
  description : some "description" ∉ ms.map (·.key) →
    c.description = "Timer of HTTP client exchanges"
  unknownUri : some "unknown_uri" ∉ ms.map (·.key) → c.unknownUri = "UNKNOWN"
  propagates : some "propagate_trace_context" ∉ ms.map (·.key) → c.propagates = false

/-! ### Fields and their values -/

/-- The values that are texts. -/
theorem Json.Value.text?_eq_some_iff {v : Json.Value} {s : String} :
    v.text? = some s ↔ v = .string (some s) := by
  cases v <;> simp [text?]

/-- The values that are true or false. -/
theorem Json.Value.truth?_eq_some_iff {v : Json.Value} {b : Bool} :
    v.truth? = some b ↔ v = .boolean b := by
  cases v <;> simp [truth?]

/-- There are no other fields. -/
theorem Field.mem_all (f : Field) : f ∈ all := by
  cases f <;> decide

/-- A field is found by its key. -/
theorem Field.ofKey?_key (f : Field) : ofKey? f.key = some f := by
  cases f <;> decide

/-- A key is that of a field exactly if the field is found by it. -/
theorem Field.ofKey?_eq_some_iff {k : String} {f : Field} : ofKey? k = some f ↔ k = f.key := by
  constructor
  · intro h
    have hkey := List.find?_some (ofKey?.eq_1 k ▸ h)
    exact (of_decide_eq_true hkey).symm
  · rintro rfl
    exact f.ofKey?_key

/-- Two fields do not have the same key. -/
theorem Field.key_injective : Function.Injective Field.key := by
  intro f g h
  exact Option.some.inj ((h ▸ f.ofKey?_key).symm.trans g.ofKey?_key)

namespace Config

/-- The value of a field as it is written. -/
def value (c : Config) : Field → Json.Value
  | .metricName => .string (some c.metricName)
  | .description => .string (some c.description)
  | .unknownUri => .string (some c.unknownUri)
  | .propagates => .boolean c.propagates

section

variable {base c c' : Config} {f : Field} {m : Json.Member} {ms : List Json.Member}

/-- What a member says is the value of the field that it names. -/
theorem says_iff : c.Says m ↔ ∃ f : Field, m.key = some f.key ∧ c.value f = m.value := by
  constructor
  · rintro (_ | _ | _ | _)
    · exact ⟨.metricName, rfl, rfl⟩
    · exact ⟨.description, rfl, rfl⟩
    · exact ⟨.unknownUri, rfl, rfl⟩
    · exact ⟨.propagates, rfl, rfl⟩
  · obtain ⟨key, value⟩ := m
    rintro ⟨f, rfl, rfl⟩
    cases f <;> constructor

/-- Configurations with the same values in all fields are equal. -/
theorem ext_value (h : ∀ f, c.value f = c'.value f) : c = c' := by
  obtain ⟨name, description, unknown, propagates⟩ := c
  obtain rfl := Option.some.inj (Json.Value.string.inj (h .metricName))
  obtain rfl := Option.some.inj (Json.Value.string.inj (h .description))
  obtain rfl := Option.some.inj (Json.Value.string.inj (h .unknownUri))
  obtain rfl := Json.Value.boolean.inj (h .propagates)
  rfl

/-- The value that a field has in one configuration can be given to it in any other. -/
theorem exists_put (base c : Config) (f : Field) : ∃ c', base.put? f (c.value f) = some c' := by
  cases f <;> exact ⟨_, rfl⟩

/-- Giving a field a value leaves the other fields as they are. -/
theorem value_of_put {v : Json.Value} (h : c.put? f v = some c') :
    c'.value f = v ∧ ∀ g, g ≠ f → c'.value g = c.value g := by
  cases f with
  | propagates =>
      obtain ⟨b, hb, rfl⟩ := Option.map_eq_some_iff.mp h
      refine ⟨(Json.Value.truth?_eq_some_iff.mp hb).symm, fun g hg => ?_⟩
      cases g <;> first | rfl | exact absurd rfl hg
  | _ =>
      obtain ⟨s, hs, rfl⟩ := Option.map_eq_some_iff.mp h
      refine ⟨(Json.Value.text?_eq_some_iff.mp hs).symm, fun g hg => ?_⟩
      cases g <;> first | rfl | exact absurd rfl hg

/-! ### What the members of an object make -/

/-- A configuration is made from another one by the members of an object. -/
structure Made (base c : Config) (ms : List Json.Member) : Prop where
  /-- It is what they say. -/
  written : ∀ m ∈ ms, c.Says m
  /-- Where they say nothing it is the other one. -/
  unwritten : ∀ f : Field, some f.key ∉ ms.map (·.key) → c.value f = base.value f

/-- A configuration is chosen by members exactly if it is made by them from the default one. -/
theorem chosen_iff_made : c.Chosen ms ↔ Made {} c ms := by
  constructor
  · intro h
    refine ⟨h.written, fun f hf => ?_⟩
    cases f with
    | metricName => rw [value, h.metricName hf]; rfl
    | description => rw [value, h.description hf]; rfl
    | unknownUri => rw [value, h.unknownUri hf]; rfl
    | propagates => rw [value, h.propagates hf]; rfl
  · intro h
    refine ⟨h.written, fun hf => ?_, fun hf => ?_, fun hf => ?_, fun hf => ?_⟩
    · exact Option.some.inj (Json.Value.string.inj (h.unwritten .metricName hf))
    · exact Option.some.inj (Json.Value.string.inj (h.unwritten .description hf))
    · exact Option.some.inj (Json.Value.string.inj (h.unwritten .unknownUri hf))
    · exact Json.Value.boolean.inj (h.unwritten .propagates hf)

/-- A field whose key is written has the value that is written with it. -/
theorem Made.value_of_mem (h : base.Made c ms) (hm : m ∈ ms) (hkey : m.key = some f.key) :
    c.value f = m.value := by
  obtain ⟨g, hg, hvalue⟩ := says_iff.mp (h.written m hm)
  obtain rfl := Field.key_injective (Option.some.inj (hg.symm.trans hkey))
  exact hvalue

/-- The members of an object make one configuration at most. -/
theorem Made.unique (h : base.Made c ms) (h' : base.Made c' ms) : c = c' := by
  refine ext_value fun f => ?_
  by_cases hf : some f.key ∈ ms.map (·.key)
  · obtain ⟨m, hm, hkey⟩ := List.mem_map.mp hf
    exact (h.value_of_mem hm hkey).trans (h'.value_of_mem hm hkey).symm
  · exact (h.unwritten f hf).trans (h'.unwritten f hf).symm

end

section

variable {remaining : List Field} {base c c' : Config} {k : Option String} {v : Json.Value}
  {ms : List Json.Member}

/-- A field that remains is found by its key. -/
theorem fieldOf?_eq_some_iff {f : { f : Field // f ∈ remaining }} :
    fieldOf? remaining k = some f ↔ k = some f.1.key := by
  obtain ⟨f, hf⟩ := f
  constructor
  · intro h
    obtain ⟨g, hg, hfound⟩ := Option.bind_eq_some_iff.mp h
    obtain ⟨key, rfl, hkey⟩ := Option.bind_eq_some_iff.mp hg
    split at hfound
    · cases hfound
      rw [Field.ofKey?_eq_some_iff.mp hkey]
    · cases hfound
  · rintro rfl
    rw [fieldOf?, Option.bind_some, f.ofKey?_key, Option.bind_some, dif_pos hf]

/-- What a member says is still so when the others, which say nothing about its field, have made
the rest of the configuration. -/
theorem Made.of_put {m : Json.Member} {f : Field} (h : c.Made c' ms) (hkey : m.key = some f.key)
    (hput : base.put? f m.value = some c) (hnew : some f.key ∉ ms.map (·.key)) :
    base.Made c' (m :: ms) := by
  obtain ⟨hvalue, hothers⟩ := value_of_put hput
  refine ⟨fun m' hm' => ?_, fun g hg => ?_⟩
  · rcases List.mem_cons.mp hm' with rfl | hm'
    · exact says_iff.mpr ⟨f, hkey, (h.unwritten f hnew).trans hvalue⟩
    · exact h.written m' hm'
  · have hgf : g ≠ f := by
      rintro rfl
      exact List.ne_of_not_mem_cons hg hkey.symm
    exact (h.unwritten g (List.not_mem_of_not_mem_cons hg)).trans (hothers g hgf)

/-- Members that fit make a configuration, as long as their fields were not given before. -/
theorem exists_settled (h : Fits ms)
    (hremaining : ∀ m ∈ ms, ∀ f : Field, m.key = some f.key → f ∈ remaining) :
    ∃ c', settle? remaining c ms = some c' ∧ c.Made c' ms := by
  induction ms generalizing remaining c with
  | nil => exact ⟨c, rfl, fun _ hm => absurd hm List.not_mem_nil, fun _ _ => rfl⟩
  | cons m ms ih =>
      obtain ⟨c₀, hsays⟩ := h.known m List.mem_cons_self
      obtain ⟨f, hkey, hvalue⟩ := says_iff.mp hsays
      obtain ⟨hhead, hdistinct⟩ := List.nodup_cons.mp h.distinct
      have hnew : some f.key ∉ ms.map (·.key) := by
        rw [← hkey]
        exact hhead
      have hrest : ∀ m' ∈ ms, ∀ g : Field, m'.key = some g.key → g ∈ remaining.erase f := by
        intro m' hm' g hg
        have hgf : g ≠ f := by
          rintro rfl
          exact hnew (List.mem_map.mpr ⟨m', hm', hg⟩)
        exact (List.mem_erase_of_ne hgf).mpr (hremaining m' (List.mem_cons_of_mem m hm') g hg)
      obtain ⟨c₁, hput⟩ := c.exists_put c₀ f
      rw [hvalue] at hput
      obtain ⟨c', hsettle, hmade⟩ := ih (c := c₁)
        ⟨fun m' hm' => h.known m' (List.mem_cons_of_mem m hm'), hdistinct⟩ hrest
      have hfield : fieldOf? remaining m.key =
          some ⟨f, hremaining m List.mem_cons_self f hkey⟩ := fieldOf?_eq_some_iff.mpr hkey
      refine ⟨c', ?_, hmade.of_put hkey hput hnew⟩
      rw [settle?, hfield]
      simp only [Option.bind_eq_bind, Option.bind_some, hput]
      exact hsettle

/-- Only members that fit make a configuration. -/
theorem fits_of_settled (hremaining : remaining.Nodup) (h : settle? remaining c ms = some c') :
    Fits ms ∧ ∀ m ∈ ms, ∃ f ∈ remaining, m.key = some f.key := by
  induction ms generalizing remaining c with
  | nil =>
      exact ⟨⟨fun _ hm => absurd hm List.not_mem_nil, List.nodup_nil⟩,
        fun _ hm => absurd hm List.not_mem_nil⟩
  | cons m ms ih =>
      obtain ⟨⟨f, hf⟩, hfield, h⟩ := Option.bind_eq_some_iff.mp h
      obtain ⟨c₁, hput, h⟩ := Option.bind_eq_some_iff.mp h
      have hkey := fieldOf?_eq_some_iff.mp hfield
      obtain ⟨hvalue, -⟩ := value_of_put hput
      obtain ⟨hfits, hrest⟩ := ih (hremaining.erase f) h
      have hnew : m.key ∉ ms.map (·.key) := by
        intro hmem
        obtain ⟨m', hm', hkey'⟩ := List.mem_map.mp hmem
        obtain ⟨g, hg, hkeyg⟩ := hrest m' hm'
        obtain rfl := Field.key_injective
          (Option.some.inj (hkeyg.symm.trans (hkey'.trans hkey)))
        exact hremaining.not_mem_erase hg
      refine ⟨⟨fun m' hm' => ?_, List.nodup_cons.mpr ⟨hnew, hfits.distinct⟩⟩, fun m' hm' => ?_⟩
      · rcases List.mem_cons.mp hm' with rfl | hm'
        · exact ⟨c₁, says_iff.mpr ⟨f, hkey, hvalue⟩⟩
        · exact hfits.known m' hm'
      · rcases List.mem_cons.mp hm' with rfl | hm'
        · exact ⟨f, hf, hkey⟩
        · obtain ⟨g, hg, hkeyg⟩ := hrest m' hm'
          exact ⟨g, List.mem_of_mem_erase hg, hkeyg⟩

/-- Members that fit make a configuration from the one by default. -/
theorem exists_chosen (h : Fits ms) :
    ∃ c : Config, settle? Field.all {} ms = some c ∧ c.Chosen ms := by
  obtain ⟨c, hsettle, hmade⟩ := exists_settled h fun _ _ f _ => f.mem_all
  exact ⟨c, hsettle, chosen_iff_made.mpr hmade⟩

/-- Members choose one configuration at most. -/
theorem Chosen.unique (h : c.Chosen ms) (h' : c'.Chosen ms) : c = c' :=
  (chosen_iff_made.mp h).unique (chosen_iff_made.mp h')

/-- The members of an object make a configuration exactly if they fit, and they make one only. -/
theorem settle?_eq_some_iff : settle? Field.all {} ms = some c ↔ Fits ms ∧ c.Chosen ms := by
  constructor
  · intro h
    obtain ⟨hfits, -⟩ := fits_of_settled (by decide) h
    obtain ⟨c', hsettle, hchosen⟩ := exists_chosen hfits
    obtain rfl := Option.some.inj (hsettle.symm.trans h)
    exact ⟨hfits, hchosen⟩
  · rintro ⟨hfits, hchosen⟩
    obtain ⟨c', hsettle, hchosen'⟩ := exists_chosen hfits
    rw [hsettle, hchosen.unique hchosen']

/-- A text is read as a configuration exactly if the members of its object fit and make it. -/
theorem read_eq_ok_iff {text : String} (h : Json.ObjectText text.toList ms) :
    read text = .ok c ↔ Fits ms ∧ c.Chosen ms := by
  rw [← settle?_eq_some_iff, ← read_toOption h]
  cases read text with
  | error e => constructor <;> rintro ⟨⟩
  | ok c' => exact ⟨fun h => congrArg some (Except.ok.inj h),
      fun h => congrArg Except.ok (Option.some.inj h)⟩

end

end Config

section

variable {ms ms' : List Json.Member}

/-- Whether members fit does not depend on their order. -/
theorem Fits.of_perm (h : Fits ms) (hms : ms.Perm ms') : Fits ms' where
  known m hm := h.known m (hms.mem_iff.mpr hm)
  distinct := (hms.map (·.key)).nodup_iff.mp h.distinct

/-- The order of the members does not matter. -/
theorem Config.Chosen.of_perm {c : Config} (h : c.Chosen ms) (hms : ms.Perm ms') :
    c.Chosen ms' := by
  have hkey : ∀ k : Option String, k ∉ ms'.map (·.key) → k ∉ ms.map (·.key) :=
    fun k hk hmem => hk ((hms.map (·.key)).mem_iff.mp hmem)
  exact ⟨fun m hm => h.written m (hms.mem_iff.mpr hm), fun hk => h.metricName (hkey _ hk),
    fun hk => h.description (hkey _ hk), fun hk => h.unknownUri (hkey _ hk),
    fun hk => h.propagates (hkey _ hk)⟩

end

/-! ### What is built -/

section

variable {σ : Type}

/-- Build an instrumentation from a configuration and a registry, without a tags provider of one's
own. -/
def Config.instrument (c : Config) (registry : MeterRegistry σ) :
    Except MetricsError (LiveInstrumentation σ) :=
  Builder.build .standard { registry := registry, config := c }

/-- An instrumentation follows a configuration. -/
structure Instrumentation.Follows (i : LiveInstrumentation σ) (config : Config) : Prop where
  /-- Its timer has the name and the description that were chosen. -/
  timer : i.timer = { name := config.metricName, description := some config.description }
  /-- It propagates headers if that was chosen. -/
  propagates : i.propagates = config.propagates
  /-- Exchanges are entered under the timer, with the standard tags for the text that was chosen. -/
  booked : EveryBooked i config.unknownUri
  /-- An exchange has no route if no template is attached to its request and none is claimed. -/
  route : ∀ (request r : Request) (c : Context) (w w' : World σ) (o : Observation),
    (i.start request).run c w = (.returned (o, r), w') →
      o.request.route =
        (request.route <|> ((w.thread c.thread).routes.claim request.uri).map (·.1.template))
  /-- Without a route, the tag in place of the URI is the text that was chosen. -/
  uri : ∀ (request : RequestView) (reply : Reply), request.route = none →
    (standardTags config.unknownUri request reply).get? "uri" = some config.unknownUri

/-- What is built from a configuration. -/
structure Config.Builds (config : Config) (registry : MeterRegistry σ) : Prop where
  /-- A configuration is refused exactly if the name of its timer has nothing but white space. -/
  invalid : (∃ message, config.instrument registry = .error (.invalidConfig message)) ↔
    ∀ c ∈ config.metricName.toList, Text.isBlank c = true
  /-- Otherwise there is an instrumentation that follows it. -/
  valid : (∃ c ∈ config.metricName.toList, Text.isBlank c = false) →
    ∃ i, config.instrument registry = .ok i ∧ i.registry = registry ∧ i.Follows config

/-- An instrumentation is built from every configuration whose timer has a name, and it follows the
configuration. -/
theorem Config.builds (config : Config) (registry : MeterRegistry σ) : config.Builds registry := by
  have hblank : Text.isAllBlank config.metricName = true ↔
      ∀ c ∈ config.metricName.toList, Text.isBlank c = true := List.all_eq_true
  refine ⟨⟨fun ⟨message, h⟩ => ?_, fun h => ?_⟩, fun ⟨c, hc, hvisible⟩ => ?_⟩
  · exact hblank.mp (Builder.build_eq_error_iff.mp h).1
  · exact ⟨_, Builder.build_eq_error_iff.mpr ⟨hblank.mpr h, rfl⟩⟩
  · have hname : Text.isAllBlank config.metricName = false := by
      refine eq_false_of_ne_true fun h => ?_
      rw [hblank.mp h c hc] at hvisible
      cases hvisible
    refine ⟨_, Builder.build_eq_ok_iff.mpr ⟨hname, rfl⟩, rfl, rfl, rfl,
      Instrumentation.every_booked rfl, fun _ _ _ _ _ _ => Instrumentation.route_of_start,
      fun request reply hroute => ?_⟩
    rw [standardTags_get?, uriText, hroute]
    rfl

end

/-! ### From the text to what is recorded -/

/-- What is guaranteed about the text of an object. -/
structure FromText (text : String) (ms : List Json.Member) : Prop where
  /-- If its members fit, it is read as the configuration that they choose. -/
  chosen : Fits ms → ∃ c, Config.read text = .ok c ∧ c.Chosen ms
  /-- If they do not fit, it is not read. -/
  refused : ¬ Fits ms → ∃ e, Config.read text = .error e
  /-- Another text with the same members in any order is read as the same configuration. -/
  ordered : ∀ (text' : String) (ms' : List Json.Member), Json.ObjectText text'.toList ms' →
    ms'.Perm ms → ∀ c, Config.read text' = .ok c ↔ Config.read text = .ok c
  /-- What is built from the configuration follows it. -/
  built : ∀ {σ : Type} (c : Config) (registry : MeterRegistry σ), Config.read text = .ok c →
    c.Builds registry

/-- From the text of a configuration to what is recorded. -/
theorem Config.from_text {text : String} {ms : List Json.Member}
    (h : Json.ObjectText text.toList ms) : FromText text ms := by
  refine ⟨fun hfits => ?_, fun hfits => ?_, fun text' ms' h' hms c => ?_,
    fun c registry _ => c.builds registry⟩
  · obtain ⟨c, -, hchosen⟩ := exists_chosen hfits
    exact ⟨c, (read_eq_ok_iff h).mpr ⟨hfits, hchosen⟩, hchosen⟩
  · cases hread : read text with
    | error e => exact ⟨e, rfl⟩
    | ok c => exact absurd ((read_eq_ok_iff h).mp hread).1 hfits
  · rw [read_eq_ok_iff h, read_eq_ok_iff h']
    exact ⟨fun ⟨hfits, hchosen⟩ => ⟨hfits.of_perm hms, hchosen.of_perm hms⟩,
      fun ⟨hfits, hchosen⟩ => ⟨hfits.of_perm hms.symm, hchosen.of_perm hms.symm⟩⟩

/-! ### A text -/

namespace Config

/-- The text of an object with two members. -/
def chosenText : String :=
  "\x7b\"unknown_uri\" : \"\\u00e9\",\n \"propagate_trace_context\":true\x7d\n"

/-- The members of the object. -/
def chosenMembers : List Json.Member :=
  [⟨some "unknown_uri", .string (some "é")⟩, ⟨some "propagate_trace_context", .boolean true⟩]

/-- The text of the example is that of an object with these members. -/
theorem objectText_chosenText : Json.ObjectText chosenText.toList chosenMembers := by
  let flag := ":true\x7d\n".toList
  let second := ",\n \"propagate_trace_context\"".toList ++ flag
  let first := " : \"\\u00e9\"".toList ++ second
  have blank {t r : List Char} (h : Json.Ws t r) : Json.Ws (' ' :: t) r := .space (by decide) h
  have newline {t r : List Char} (h : Json.Ws t r) : Json.Ws ('\n' :: t) r := .space (by decide) h
  have hunknown : Json.Quoted ("\"unknown_uri\"".toList ++ first) (some "unknown_uri") first :=
    .spelled (Json.spells_of_plain first (by decide : "unknown_uri".toList.all Json.isPlain = true))
  have htext : Json.Quoted ("\"\\u00e9\"".toList ++ second) (some "é") second :=
    .spelled (.unit ⟨0, 0, 14, 9, by decide⟩ .close)
  have hflag : Json.Quoted ("\"propagate_trace_context\"".toList ++ flag)
      (some "propagate_trace_context") flag :=
    .spelled (Json.spells_of_plain flag
      (by decide : "propagate_trace_context".toList.all Json.isPlain = true))
  have hsecond : Json.Members Json.Written false second chosenMembers.tail ['\n'] :=
    .member (.later .none (newline (blank .none))) hflag .none .none .yes (.close .none)
  have hmembers : Json.Members Json.Written true ("\"unknown_uri\"".toList ++ first)
      chosenMembers ['\n'] :=
    .member (.first .none) hunknown (blank .none) (blank .none) (.string htext) hsecond
  exact ⟨_, _, .none, hmembers, newline .none⟩

/-- White space and escapes make no difference, and what is not written is as it is by default. -/
theorem from_text_chosenText : Json.ObjectText chosenText.toList chosenMembers ∧
    read chosenText = .ok { unknownUri := "é", propagates := true } := by
  have hchosen : Fits chosenMembers ∧
      Chosen { unknownUri := "é", propagates := true } chosenMembers := settle?_eq_some_iff.mp rfl
  obtain ⟨c, hread, hc⟩ := (from_text objectText_chosenText).chosen hchosen.1
  obtain rfl := hc.unique hchosen.2
  exact ⟨objectText_chosenText, hread⟩

end Config

end ExchangeMetrics
