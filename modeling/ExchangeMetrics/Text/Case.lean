/-!
# Letter case

Schemes, authorities and header names are compared without regard to the case of ASCII
letters. Every other character, accented letters included, is compared as it is.
-/

namespace ExchangeMetrics.Text

/-- A text with its ASCII capital letters replaced by small ones. -/
def lower (s : String) : String :=
  String.ofList (s.toList.map Char.toLower)

/-- Whether two texts differ at most in the case of ASCII letters. -/
def sameIgnoringCase (a b : String) : Bool :=
  lower a = lower b

/-- A text is the same as itself. -/
theorem sameIgnoringCase_refl (a : String) : sameIgnoringCase a a = true := by
  simp [sameIgnoringCase]

/-- Two texts are the same whichever is named first. -/
theorem sameIgnoringCase_symm {a b : String} (h : sameIgnoringCase a b = true) :
    sameIgnoringCase b a = true := by
  simpa [sameIgnoringCase, eq_comm] using h

/-- Texts that are the same as a third one are the same. -/
theorem sameIgnoringCase_trans {a b c : String} (h : sameIgnoringCase a b = true)
    (h' : sameIgnoringCase b c = true) : sameIgnoringCase a c = true := by
  simp only [sameIgnoringCase, decide_eq_true_eq] at h h' ⊢
  exact h.trans h'

end ExchangeMetrics.Text
