import ExchangeMetrics.Config.Basic
import ExchangeMetrics.Decimal.Text
import ExchangeMetrics.Json.Literal
import ExchangeMetrics.Json.Number
import ExchangeMetrics.Text.Quoted

/-!
# Reading configurations

A configuration is read from a JSON text: an object whose keys are names of fields, each at
most once, or an array of the fields' values in a fixed order. Fields that are not given keep
the values they have by default.

The text is read from left to right, and the first problem ends the reading. A text that is
not well formed and one whose content does not fit are told apart, and of the latter the
misfit is named.

## Main definitions

* `Config.read`: the reader.
* `Misfit.message`: the wording of a misfit.
-/

namespace ExchangeMetrics

/-- The fields of a configuration, in the order in which an array gives them. -/
inductive Field where
  | metricName
  | description
  | unknownUri
  | propagates
deriving DecidableEq

namespace Field

/-- Every field, in order. -/
def all : List Field := [metricName, description, unknownUri, propagates]

/-- The key of a field. -/
def key : Field → String
  | metricName => "metric_name"
  | description => "description"
  | unknownUri => "unknown_uri"
  | propagates => "propagate_trace_context"

/-- The field of a key, if it is one. -/
def ofKey? (k : String) : Option Field :=
  all.find? (·.key = k)

end Field

/-- What was found in place of what was expected. -/
inductive Found where
  | null
  | boolean (b : Bool)
  | number (n : Json.Number)
  | string (s : String)
  | array
  | object

/-- What was expected. -/
inductive Expected where
  /-- A string. -/
  | string
  /-- A truth value. -/
  | boolean
  /-- A configuration. -/
  | configuration
deriving DecidableEq

/-- Why the content of a text does not fit a configuration. -/
inductive Misfit where
  /-- A key is not that of a field. -/
  | unknownField (key : String)
  /-- A field is given a second time. -/
  | duplicateField (field : Field)
  /-- A value is of another kind than expected. -/
  | invalidType (found : Found) (expected : Expected)

/-- Why a text is not read as a configuration. -/
inductive ConfigTextError where
  /-- The text is not well formed. -/
  | malformed
  /-- Its content does not fit. -/
  | misfit (m : Misfit)

/-- The words for what was found. -/
def Found.text : Found → String
  | null => "null"
  | boolean b => "boolean `" ++ (if b then "true" else "false") ++ "`"
  | number (.integer n) => "integer `" ++ String.ofList (Decimal.intChars n) ++ "`"
  | number (.decimal x) => "floating point `" ++ Decimal.text x ++ "`"
  | string s => "string " ++ Text.quoted s
  | array => "sequence"
  | object => "map"

/-- The words for what was expected. -/
def Expected.text : Expected → String
  | string => "a string"
  | boolean => "a boolean"
  | configuration => "struct ClientMetricsConfig"

/-- The wording of a misfit. -/
def Misfit.message : Misfit → String
  | unknownField key =>
      "unknown field `" ++ key ++ "`, expected one of " ++
        ", ".intercalate (Field.all.map fun f => "`" ++ f.key ++ "`")
  | duplicateField field => "duplicate field `" ++ field.key ++ "`"
  | invalidType found expected =>
      "invalid type: " ++ found.text ++ ", expected " ++ expected.text

namespace Config

/-- The outcome of a reader where characters that are not well formed end the reading. -/
def wellFormed {α : Type} : Option α → Except ConfigTextError α
  | some a => .ok a
  | none => .error .malformed

/-! ### Values -/

/-- What is found where something else was expected. Numbers, words and strings are read to
their ends; of an array or object the opening bracket is enough. -/
def found (cs : List Char) : Except ConfigTextError Found :=
  match cs with
  | 'n' :: rest => (wellFormed (Json.word? "ull".toList rest)).map fun _ => .null
  | 't' :: rest => (wellFormed (Json.word? "rue".toList rest)).map fun _ => .boolean true
  | 'f' :: rest => (wellFormed (Json.word? "alse".toList rest)).map fun _ => .boolean false
  | '"' :: rest => (wellFormed (Json.stringBody rest)).map fun r => .string (String.ofList r.1)
  | '[' :: _ => .ok .array
  | '\x7b' :: _ => .ok .object
  | '-' :: rest => (wellFormed (Json.number? true rest)).map fun r => .number r.1
  | cs => (wellFormed (Json.number? false cs)).map fun r => .number r.1

/-- The error for characters that are not what was expected. -/
def misfit {α : Type} (expected : Expected) (cs : List Char) : Except ConfigTextError α := do
  .error (.misfit (.invalidType (← found cs) expected))

/-- Read a string. -/
def readString (cs : List Char) : Except ConfigTextError (String × List Char) :=
  match Json.skipSpace cs with
  | '"' :: rest => do
      let (s, rest) ← wellFormed (Json.stringBody rest)
      .ok (String.ofList s, rest)
  | cs => misfit .string cs

/-- Read a truth value. -/
def readBool (cs : List Char) : Except ConfigTextError (Bool × List Char) :=
  match Json.skipSpace cs with
  | 't' :: rest => do .ok (true, ← wellFormed (Json.word? "rue".toList rest))
  | 'f' :: rest => do .ok (false, ← wellFormed (Json.word? "alse".toList rest))
  | cs => misfit .boolean cs

/-- Read the value of a field into a configuration. -/
def readField (c : Config) (f : Field) (cs : List Char) :
    Except ConfigTextError (Config × List Char) :=
  match f with
  | .metricName => do
      let (s, rest) ← readString cs
      .ok ({ c with metricName := s }, rest)
  | .description => do
      let (s, rest) ← readString cs
      .ok ({ c with description := s }, rest)
  | .unknownUri => do
      let (s, rest) ← readString cs
      .ok ({ c with unknownUri := s }, rest)
  | .propagates => do
      let (b, rest) ← readBool cs
      .ok ({ c with propagates := b }, rest)

/-! ### Arrays -/

/-- Read the values of fields from an array. What follows the last field must be the end of the
array, and so must what follows any other value that no comma follows. -/
def readItems (c : Config) (first : Bool) : List Field → List Char →
    Except ConfigTextError (Config × List Char)
  | fields, cs =>
      match Json.skipSpace cs with
      | ']' :: rest => .ok (c, rest)
      | cs =>
          match fields with
          | [] => .error .malformed
          | f :: fields =>
              if first then do
                let (c, rest) ← readField c f cs
                readItems c false fields rest
              else
                match cs with
                | ',' :: rest =>
                    match Json.skipSpace rest with
                    | [] => .error .malformed
                    | ']' :: _ => .error .malformed
                    | rest => do
                        let (c, rest) ← readField c f rest
                        readItems c false fields rest
                | _ => .error .malformed

/-! ### Objects -/

/-- Read the key of a member and the colon behind it. The field is looked up as soon as the key
is read, and must not have been given before. -/
def readKey (remaining : List Field) (cs : List Char) :
    Except ConfigTextError ({ f : Field // f ∈ remaining } × List Char) :=
  match cs with
  | '"' :: rest => do
      let (key, rest) ← wellFormed (Json.stringBody rest)
      match Field.ofKey? (String.ofList key) with
      | none => .error (.misfit (.unknownField (String.ofList key)))
      | some f =>
          if h : f ∈ remaining then
            match Json.skipSpace rest with
            | ':' :: rest => .ok (⟨f, h⟩, rest)
            | _ => .error .malformed
          else .error (.misfit (.duplicateField f))
  | _ => .error .malformed

/-- Read the members of an object. Every member gives a field that was not given before, so
there are at most as many as there are fields. -/
def readMembers (remaining : List Field) (c : Config) (first : Bool) (cs : List Char) :
    Except ConfigTextError (Config × List Char) :=
  let member (cs : List Char) : Except ConfigTextError (Config × List Char) := do
    let (⟨f, _hf⟩, rest) ← readKey remaining cs
    let (c, rest) ← readField c f rest
    readMembers (remaining.erase f) c false rest
  match Json.skipSpace cs with
  | '\x7d' :: rest => .ok (c, rest)
  | cs =>
      if first then member cs
      else
        match cs with
        | ',' :: rest => member (Json.skipSpace rest)
        | _ => .error .malformed
termination_by remaining.length
decreasing_by
  rw [List.length_erase_of_mem _hf]
  have := List.length_pos_of_mem _hf
  omega

/-! ### Texts -/

/-- Read a text as a configuration. Nothing but white space may follow it. -/
def read (text : String) : Except ConfigTextError Config := do
  let (c, rest) ←
    match Json.skipSpace text.toList with
    | '[' :: rest => readItems {} true Field.all rest
    | '\x7b' :: rest => readMembers Field.all {} true rest
    | cs => misfit .configuration cs
  if (Json.skipSpace rest).isEmpty then .ok c else .error .malformed

end Config

end ExchangeMetrics
