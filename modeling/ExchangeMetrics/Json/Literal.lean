/-!
# Literals of JSON

The white space, the words and the string literals of JSON, read from the characters of a text.
A reader gives what it read and the characters behind it, or nothing if what is there is not
well formed.

## Main definitions

* `stringBody`: the reader of string literals.
-/

namespace ExchangeMetrics.Json

/-- The white space of JSON. -/
def isSpace (c : Char) : Bool :=
  c = ' ' || c = '\n' || c = '\t' || c = '\r'

/-- The characters after leading white space. -/
def skipSpace (cs : List Char) : List Char :=
  cs.dropWhile isSpace

/-- Read exactly these characters. -/
def word? (w cs : List Char) : Option (List Char) :=
  w.isPrefixOf? cs

/-- The value of a hexadecimal digit, in either letter case. -/
def hexValue? (c : Char) : Option Nat :=
  if c.isDigit then some (c.toNat - '0'.toNat)
  else if 'a' ≤ c && c ≤ 'f' then some (c.toNat - 'a'.toNat + 10)
  else if 'A' ≤ c && c ≤ 'F' then some (c.toNat - 'A'.toNat + 10)
  else none

/-- The number that four hexadecimal digits stand for. -/
def hexWord? (a b c d : Char) : Option Nat := do
  pure ((((← hexValue? a) * 16 + (← hexValue? b)) * 16 + (← hexValue? c)) * 16 + (← hexValue? d))

/-- Whether a 16-bit unit is the first of a pair that stands for one character. -/
def isLeading (n : Nat) : Bool :=
  0xD800 ≤ n && n ≤ 0xDBFF

/-- Whether a 16-bit unit is the second of a pair that stands for one character. -/
def isTrailing (n : Nat) : Bool :=
  0xDC00 ≤ n && n ≤ 0xDFFF

/-- The character that a pair of 16-bit units stands for. -/
def pairChar (leading trailing : Nat) : Char :=
  Char.ofNat (0x10000 + (leading - 0xD800) * 0x400 + (trailing - 0xDC00))

/-- The character that a backslash and this one stand for, `u` apart. -/
def escaped? : Char → Option Char
  | '"' => some '"'
  | '\\' => some '\\'
  | '/' => some '/'
  | 'b' => some '\x08'
  | 'f' => some '\x0c'
  | 'n' => some '\n'
  | 'r' => some '\r'
  | 't' => some '\t'
  | _ => none

/-- Read the rest of a string literal behind its opening quote, up to and including the closing
one. Control characters must be escaped, and escapes of 16-bit units must form characters. -/
def stringBody : List Char → Option (List Char × List Char)
  | [] => none
  | '"' :: rest => some ([], rest)
  | '\\' :: 'u' :: a :: b :: c :: d :: rest =>
      match hexWord? a b c d with
      | none => none
      | some n =>
          if isTrailing n then none
          else if isLeading n then
            match rest with
            | '\\' :: 'u' :: e :: f :: g :: h :: rest =>
                match hexWord? e f g h with
                | none => none
                | some m =>
                    if isTrailing m then
                      (stringBody rest).map fun (cs, rest) => (pairChar n m :: cs, rest)
                    else none
            | _ => none
          else (stringBody rest).map fun (cs, rest) => (Char.ofNat n :: cs, rest)
  | '\\' :: c :: rest =>
      match escaped? c with
      | none => none
      | some x => (stringBody rest).map fun (cs, rest) => (x :: cs, rest)
  | c :: rest =>
      if c.toNat < 0x20 || c = '\\' then none
      else (stringBody rest).map fun (cs, rest) => (c :: cs, rest)

end ExchangeMetrics.Json
