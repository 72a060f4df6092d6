import ExchangeMetrics.Error
import ExchangeMetrics.Text.Blank
import ExchangeMetrics.Text.Percent
import ExchangeMetrics.Uri.Parser

/-!
# URI templates

A template is a text with placeholders in braces, such as `/hotels/{hotel}`. A placeholder runs
from an opening brace to the next closing brace, whatever lies between; a closing brace outside
of placeholders stands for itself. The name in a placeholder is what comes before its first
colon, without the white space around it; what follows the colon is a pattern and is ignored.

Expanding a template puts a percent-encoded value in place of each placeholder, from left to
right, and reads the result as a URI. The values are given either in order, or by name.

## Main definitions

* `Variables.next?`: the value of one placeholder.
* `Template.fill`: the text of a template with its placeholders filled.
* `Template.expand`: that text as a URI.
-/

namespace ExchangeMetrics

/-- The values with which a template is expanded. -/
inductive Variables where
  /-- Values used up from left to right, one for each placeholder. -/
  | positional (values : List String)
  /-- Values looked up by the name in a placeholder; the first pair with the name counts. -/
  | named (pairs : List (String × String))
deriving DecidableEq

/-- The value for the next placeholder, which has the given name, and the values left for the
placeholders after it. -/
def Variables.next? (name : String) : Variables → Option (String × Variables)
  | positional [] => none
  | positional (value :: rest) => some (value, positional rest)
  | named pairs => (pairs.find? (·.1 = name)).map fun p => (p.2, named pairs)

namespace Template

/-- The name in a placeholder, given the text between its braces. -/
def placeholderName (cs : List Char) : String :=
  String.ofList (Text.trimChars (cs.takeWhile (· ≠ ':')))

/-- What follows the first occurrence of a character, if it occurs. -/
def after? (c : Char) (cs : List Char) : Option (List Char) :=
  match cs.dropWhile (· ≠ c) with
  | [] => none
  | _ :: rest => some rest

/-- What stands behind a character is shorter than the text, so that reading on comes to an end. -/
theorem length_of_after? {c : Char} {cs rest : List Char} (h : after? c cs = some rest) :
    rest.length < cs.length := by
  unfold after? at h
  split at h
  · simp at h
  · rename_i d ds heq
    obtain rfl : ds = rest := by simpa using h
    have hle : (cs.dropWhile (· ≠ c)).length ≤ cs.length :=
      (List.dropWhile_sublist _).length_le
    rw [heq, List.length_cons] at hle
    omega

/-- The characters of a template with its placeholders filled from left to right. The first
placeholder that is not closed or has no value decides how filling fails. -/
def fill (vars : Variables) (cs : List Char) : Except TemplateFault (List Char) :=
  match _hopen : after? '\x7b' cs with
  | none => .ok cs
  | some inside =>
      match _hclose : after? '\x7d' inside with
      | none => .error .unclosed
      | some rest =>
          let name := placeholderName (inside.takeWhile (· ≠ '\x7d'))
          match vars.next? name with
          | none => .error (.missing name)
          | some (value, vars') =>
              match fill vars' rest with
              | .error fault => .error fault
              | .ok filled =>
                  .ok (cs.takeWhile (· ≠ '\x7b') ++ Text.percentEncode value ++ filled)
termination_by cs.length
decreasing_by
  have := length_of_after? _hopen
  have := length_of_after? _hclose
  omega

/-- Expand a template to a URI. -/
def expand (template : String) (vars : Variables) : Except MetricsError Uri :=
  match fill vars template.toList with
  | .error fault => .error (.uriTemplate template fault)
  | .ok filled =>
      match Uri.parse (String.ofList filled) with
      | .error error => .error (.invalidUri error)
      | .ok uri => .ok uri

end Template

end ExchangeMetrics
