import ExchangeMetrics.Exchange.Propagation
import ExchangeMetrics.Tags

/-!
# Probing single values

Shorter scripts than those of exchanges work on one value: the steps on a set of tags, and the
steps on the view of a request. Each step gives the value as it is afterwards, and an answer.
-/

namespace ExchangeMetrics.Script

/-! ### Sets of tags -/

/-- A step on a set of tags. -/
inductive TagStep where
  /-- Begin again without tags. -/
  | empty
  /-- Begin again with the tags of these pairs. -/
  | ofPairs (pairs : List (String × String))
  /-- Begin again with these tags. -/
  | collect (tags : List Tag)
  /-- Add a tag. -/
  | insert (key value : String)
  /-- Look up a key. -/
  | get (key : String)
  /-- Ask whether all of these pairs are there. -/
  | containsAll (pairs : List (String × String))
  /-- Ask whether these pairs give the same set. -/
  | equals (pairs : List (String × String))
  /-- List the tags. -/
  | list
  /-- Compare every tag with the next one. -/
  | order

/-- The answer to a step on a set of tags. -/
inductive TagAnswer where
  /-- Nothing. -/
  | nothing
  /-- The value of a key, if it is there. -/
  | value (v : Option String)
  /-- Whether something holds. -/
  | truth (b : Bool)
  /-- The tags. -/
  | tags (ts : List Tag)
  /-- How neighbours compare. -/
  | orders (os : List Ordering)

/-- Take a step on a set of tags. -/
def TagStep.run (ts : Tags) : TagStep → Tags × TagAnswer
  | empty => (.empty, .nothing)
  | ofPairs pairs => (.ofPairs pairs, .nothing)
  | collect tags => (.ofTags tags, .nothing)
  | insert key value => (ts.insert key value, .nothing)
  | get key => (ts, .value (ts.get? key))
  | containsAll pairs => (ts, .truth (ts.containsAll pairs))
  | equals pairs => (ts, .truth (ts = Tags.ofPairs pairs))
  | list => (ts, .tags ts.entries)
  | order => (ts, .orders ts.neighbourOrders)

/-! ### Views of requests -/

/-- A step on the view of a request. -/
inductive ViewStep where
  /-- Look up a header. -/
  | header (name : String)
  /-- Set a header. -/
  | set (name value : String)
  /-- Offer headers, as the propagator does. -/
  | inject (headers : List (String × String))
  /-- Take the route away. -/
  | clearRoute

/-- The answer to a step on the view of a request. -/
inductive ViewAnswer where
  /-- Nothing. -/
  | nothing
  /-- The first value of a header as text, if it has one. -/
  | value (v : Option String)
  /-- Whether the header was set. -/
  | set (result : Except MetricsError Unit)
  /-- The headers that were skipped. -/
  | skipped (headers : List (String × MetricsError))

/-- Take a step on the view of a request. -/
def ViewStep.run (v : RequestView) : ViewStep → RequestView × ViewAnswer
  | header name => (v, .value (v.header? name))
  | set name value =>
      match v.setHeader name value with
      | .ok v' => (v', .set (.ok ()))
      | .error e => (v, .set (.error e))
  | inject headers =>
      let (v', skipped) := v.offer headers
      (v', .skipped skipped)
  | clearRoute => (v.withRoute none, .nothing)

/-! ### Runs of steps -/

/-- Take steps one after another: the value after each of them, and its answer. -/
def runAll {step value answer : Type} (take : value → step → value × answer) :
    value → List step → List (value × answer)
  | _, [] => []
  | v, s :: rest =>
      let r := take v s
      r :: runAll take r.1 rest

end ExchangeMetrics.Script
