/-!
# Normalised routes

Templates of the same route may be written with or without the origin they are sent to and
with or without a leading slash. A normalised route has no origin and begins with a slash, so
that all spellings of a route are recorded under one text.

An origin is recognised by `https://` or `http://`, in lower case, and reaches to the next
slash; if there is none, it is the whole text.
-/

namespace ExchangeMetrics.Route

/-- What follows the origin of a route, or the whole route if it has none. -/
def withoutOrigin (cs : List Char) : List Char :=
  match "https://".toList.isPrefixOf? cs <|> "http://".toList.isPrefixOf? cs with
  | some rest => rest.dropWhile (· ≠ '/')
  | none => cs

/-- The characters of a route without its origin and with a leading slash. -/
def normalChars (cs : List Char) : List Char :=
  let path := withoutOrigin cs
  if path.head? = some '/' then path else '/' :: path

/-- A route without its origin and with a leading slash. -/
def normal (route : String) : String :=
  String.ofList (normalChars route.toList)

end ExchangeMetrics.Route
