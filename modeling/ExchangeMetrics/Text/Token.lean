/-!
# Tokens

The characters that methods and header names are made of: ASCII letters and digits, and
fifteen further marks. The rule is one of ASCII throughout, so no other character is admitted.
-/

namespace ExchangeMetrics.Text

/-- The characters of a token. -/
def isTokenChar (c : Char) : Bool :=
  c.isAlphanum || "!#$%&'*+-.^_`|~".toList.contains c

/-- Whether a text is a token: at least one character, and token characters only. -/
def isToken (s : String) : Bool :=
  !s.isEmpty && s.toList.all isTokenChar

end ExchangeMetrics.Text
