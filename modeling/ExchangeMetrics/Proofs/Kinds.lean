import Mathlib.Data.List.TakeWhile
import ExchangeMetrics.Proofs.Entering

/-!
# The kind of an error

The kind of an error is the bare name of its type. The full name has a path in front of the bare
name, and may have arguments behind it, in which there are paths again, and arguments again. Two
cuts find the bare name: what begins at the first angle bracket is cut off, and then what goes
before the last double colon. Whatever the arguments are, they are gone after the first cut, so the
last double colon is the one in front of the bare name.

## Main results

* `TypeName.bareTypeName_text`: the bare name is found.
* `Fault.bare_name`: what an error is described by, and what is recorded of it.
-/

namespace ExchangeMetrics

/-! ### Names of types -/

/-- The full name of a type, by its parts. -/
structure TypeName where
  /-- The names of what the type is in, from the outside to the inside. -/
  path : List (List Char)
  /-- The bare name of the type. -/
  bare : List Char
  /-- What stands between the angle brackets behind the bare name, if there are any. -/
  arguments : Option (List Char)
  /-- No name in the path has a mark that belongs to the whole. -/
  path_plain : ∀ name ∈ path, ':' ∉ name ∧ '<' ∉ name
  /-- Nor has the bare name. -/
  bare_plain : ':' ∉ bare ∧ '<' ∉ bare

namespace TypeName

/-- The path, with a double colon behind each name. -/
def front (t : TypeName) : List Char :=
  t.path.flatMap (· ++ [':', ':'])

/-- The full name as a text. -/
def text (t : TypeName) : String :=
  String.ofList (t.front ++ t.bare ++ t.arguments.elim [] fun inside => '<' :: inside ++ ['>'])

/-- What stands in front of the arguments has no bracket. -/
theorem bracket_not_mem_front (t : TypeName) : '<' ∉ t.front := by
  intro h
  obtain ⟨name, hname, hmem⟩ := List.mem_flatMap.mp h
  rcases List.mem_append.mp hmem with hmem | hmem
  · exact (t.path_plain name hname).2 hmem
  · simp at hmem

/-- The path is empty, or a double colon ends it. -/
theorem front_eq (t : TypeName) : t.front = [] ∨ ∃ outer, t.front = outer ++ [':', ':'] := by
  rw [front]
  cases t.path using List.reverseRecOn with
  | nil => exact .inl rfl
  | append_singleton names name _ =>
      refine .inr ⟨names.flatMap (· ++ [':', ':']) ++ name, ?_⟩
      rw [List.flatMap_append, List.flatMap_singleton, List.append_assoc]

end TypeName

/-! ### Finding the bare name -/

namespace Fault

/-- What stands before a double colon is the name in front of it. -/
theorem beforeDoubleColon_append {cs : List Char} (h : ':' ∉ cs) (rest : List Char) :
    beforeDoubleColon (cs ++ ':' :: ':' :: rest) = cs := by
  induction cs with
  | nil => rfl
  | cons c cs ih =>
      rw [List.cons_append, beforeDoubleColon, ih (List.not_mem_of_not_mem_cons h)]
      rintro _ rfl
      exact absurd rfl (List.ne_of_not_mem_cons h)

/-- A name without a colon stands before any double colon. -/
theorem beforeDoubleColon_eq_self {cs : List Char} (h : ':' ∉ cs) : beforeDoubleColon cs = cs := by
  induction cs with
  | nil => rfl
  | cons c cs ih =>
      rw [beforeDoubleColon, ih (List.not_mem_of_not_mem_cons h)]
      rintro _ rfl
      exact absurd rfl (List.ne_of_not_mem_cons h)

/-- What stands before a double colon is how the text begins. -/
theorem isPrefix_beforeDoubleColon (cs : List Char) : beforeDoubleColon cs <+: cs := by
  induction cs using beforeDoubleColon.induct with
  | case1 rest => exact List.nil_prefix
  | case2 c cs hc ih =>
      rw [beforeDoubleColon.eq_2 c cs hc]
      exact (List.prefix_cons_inj c).mpr ih
  | case3 => exact List.nil_prefix

/-- There is no double colon before the first one. -/
theorem not_infix_beforeDoubleColon (cs : List Char) :
    ¬ [':', ':'] <:+: beforeDoubleColon cs := by
  induction cs using beforeDoubleColon.induct with
  | case1 rest => simp [beforeDoubleColon]
  | case2 c cs hc ih =>
      rw [beforeDoubleColon.eq_2 c cs hc, List.infix_cons_iff, not_or]
      refine ⟨fun h => ?_, ih⟩
      obtain ⟨rfl, htail⟩ := List.cons_prefix_cons.mp h
      obtain ⟨rest, rfl⟩ := htail.trans (isPrefix_beforeDoubleColon cs)
      exact hc rest rfl rfl
  | case3 => simp [beforeDoubleColon]

/-- Whatever the full name is, there is neither an angle bracket nor a double colon in the bare
name. -/
theorem bareTypeName_plain (full : String) :
    '<' ∉ (bareTypeName full).toList ∧ ¬ [':', ':'] <:+: (bareTypeName full).toList := by
  rw [bareTypeName, String.toList_ofList]
  refine ⟨fun h => ?_, fun h => ?_⟩
  · have hmem := (isPrefix_beforeDoubleColon _).subset (List.mem_reverse.mp h)
    simpa using List.mem_takeWhile_imp (List.mem_reverse.mp hmem)
  · exact not_infix_beforeDoubleColon (full.toList.takeWhile (· ≠ '<')).reverse
      (List.reverse_infix.mp h)

end Fault

/-- The bare name of a type is found in its full name. -/
theorem TypeName.bareTypeName_text (t : TypeName) :
    Fault.bareTypeName t.text = String.ofList t.bare := by
  have hfront : ∀ c ∈ t.front ++ t.bare, decide (c ≠ '<') = true := by
    intro c hc
    refine decide_eq_true fun heq => ?_
    rcases List.mem_append.mp (heq ▸ hc) with hmem | hmem
    · exact t.bracket_not_mem_front hmem
    · exact t.bare_plain.2 hmem
  have hcut : t.text.toList.takeWhile (· ≠ '<') = t.front ++ t.bare := by
    rw [text, String.toList_ofList, List.takeWhile_append_of_pos hfront]
    cases t.arguments with
    | none => exact List.append_nil _
    | some inside => exact List.append_nil _
  have hbare : ':' ∉ t.bare.reverse := fun h => t.bare_plain.1 (List.mem_reverse.mp h)
  have hname : Fault.beforeDoubleColon (t.front ++ t.bare).reverse = t.bare.reverse := by
    rcases t.front_eq with hnone | ⟨outer, hsome⟩
    · rw [hnone, List.nil_append]
      exact Fault.beforeDoubleColon_eq_self hbare
    · rw [hsome, List.reverse_append, List.reverse_append]
      exact Fault.beforeDoubleColon_append hbare outer.reverse
  rw [Fault.bareTypeName, hcut, hname, List.reverse_reverse]

example : Fault.bareTypeName "alloc::sync::Arc<dyn a::Wrapper<[b::C; -7]>>" = "Arc" := by decide

/-! ### What is recorded -/

/-- What a kind is good for: the errors whose types have the full name are described by it, and it
is the value of their tag. -/
structure KindOf (full kind : String) : Prop where
  /-- An error that gives its text is described by its kind and the text. -/
  described : ∀ {σ : Type} (s : String) (c : Context) (w : World σ),
    (Failure.describe ⟨full, .text s⟩).run c w = (.returned ⟨kind, s⟩, w)
  /-- An interceptor with the standard tags enters an exchange whose delegate gave the error under
  its kind, and the caller gets the error. -/
  intercepted : ∀ {σ : Type} (i : LiveInstrumentation σ) (unknown : String),
    i.provider = .standard unknown →
    ∀ (request : Request) (delegate : Request → Exec σ Result) (c : Context) (w : World σ)
      (o : Observation) (r : Request) (w₁ w₂ : World σ) (s : String),
    (i.start request).run c (Route.openScope.run c w).2 = (.returned (o, r), w₁) →
    (delegate r).run c (w₁.note c.thread (.dispatched o.exchange)) =
      (.returned (.error ⟨full, .text s⟩), w₂) →
      ∃ tags w₃, Entered i o c tags (.failed ⟨kind, s⟩)
          (w₂.note c.thread (.settled o.exchange (.result (.error ⟨full, .text s⟩)))) w₃ ∧
        tags.get? "exception" = some kind ∧
        (i.intercept request delegate).run c w = (.returned (.error ⟨full, .text s⟩),
          (Route.closeScope.run c (w₃.note c.thread (.ended o.exchange))).2)
  /-- The future of a measured service with the standard tags does the same. -/
  polled : ∀ {σ φ : Type} (i : LiveInstrumentation σ) (unknown : String),
    i.provider = .standard unknown →
    ∀ (futures : Futures σ φ) (f : Flight φ) (c : Context) (w w₁ : World σ) (s : String),
    (futures.poll f.inner).run c w = (.returned (.done (.error ⟨full, .text s⟩)), w₁) →
      ∃ tags w₂, Entered i f.observation c tags (.failed ⟨kind, s⟩)
          (w₁.note c.thread
            (.settled f.observation.exchange (.result (.error ⟨full, .text s⟩)))) w₂ ∧
        tags.get? "exception" = some kind ∧
        (f.poll i futures).run c w = (.returned (.done (.error ⟨full, .text s⟩)),
          w₂.note c.thread (.ended f.observation.exchange))

/-- An error is recorded under its kind. -/
theorem standardTags_get?_exception (unknown : String) (view : RequestView) (fault : Fault) :
    (standardTags unknown view (.failed fault)).get? "exception" = some fault.kind := by
  rw [standardTags_get?, if_pos rfl]
  rfl

/-- An exchange that gave an error with a text is entered under the kind of the error. -/
theorem Concluded.entered_failed {σ : Type} {i : LiveInstrumentation σ} {o : Observation}
    {c : Context} {w w' : World σ} {full s unknown : String} {e : Ending Result}
    (hi : i.provider = .standard unknown)
    (h : Concluded i o c w (.returned (.error ⟨full, .text s⟩)) e w') :
    e = .returned (.error ⟨full, .text s⟩) ∧
      Entered i o c
        (standardTags unknown o.request (.failed ⟨Fault.bareTypeName full, s⟩))
        (.failed ⟨Fault.bareTypeName full, s⟩)
        (w.note c.thread (.settled o.exchange (.result (.error ⟨full, .text s⟩)))) w' := by
  cases h with
  | failed hd hr =>
      obtain rfl := Rendering.text.inj hd
      exact ⟨rfl, hr.entered hi⟩
  | mute hm => exact absurd rfl (hm s)

/-- The kind of an error is what the form of its type's name says, and only that. -/
theorem KindOf.bareTypeName (full : String) : KindOf full (Fault.bareTypeName full) := by
  refine ⟨fun s c w => rfl, ?_, ?_⟩
  · intro σ i unknown hi request delegate c w o r w₁ w₂ s hstart hdelegate
    obtain ⟨e, w₃, hc, hrun⟩ := i.run_intercept delegate hstart hdelegate
    obtain ⟨rfl, hentered⟩ := hc.entered_failed hi
    exact ⟨_, w₃, hentered, standardTags_get?_exception .., hrun⟩
  · intro σ φ i unknown hi futures f c w w₁ s hpoll
    obtain ⟨e, w₂, hc, hrun⟩ := f.run_poll_done (i := i) hpoll
    obtain ⟨rfl, hentered⟩ := hc.entered_failed hi
    exact ⟨_, w₂, hentered, standardTags_get?_exception .., hrun⟩

/-- The kind of an error is the bare name of its type, and is so recorded. Whatever the full name of
the type is, there is a kind, without an angle bracket and without a double colon. -/
theorem Fault.bare_name :
    (∀ t : TypeName, KindOf t.text (String.ofList t.bare)) ∧
      ∀ full, ∃ kind, KindOf full kind ∧ '<' ∉ kind.toList ∧ ¬ [':', ':'] <:+: kind.toList := by
  refine ⟨fun t => ?_, fun full => ?_⟩
  · rw [← t.bareTypeName_text]
    exact .bareTypeName t.text
  · exact ⟨bareTypeName full, .bareTypeName full, bareTypeName_plain full⟩

end ExchangeMetrics
