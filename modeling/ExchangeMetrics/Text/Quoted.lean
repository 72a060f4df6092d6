import ExchangeMetrics.Text.Unseen

/-!
# Quoted texts

A text that is shown to people inside another text is put between quotation marks. The
quotation mark and the backslash are written behind a backslash, a few control characters as a
backslash and a letter, and every other character that cannot be seen by its code point.

## Main results

* `quotedChar_of_seen`: a character that can be seen is written as it is, but for the quotation
  mark and the backslash.
-/

namespace ExchangeMetrics.Text

/-- A character written by its code point, in hexadecimal digits. -/
def codePoint (c : Char) : List Char :=
  ['\\', 'u', '\x7b'] ++ Nat.toDigits 16 c.toNat ++ ['\x7d']

/-- A character as it is written between quotation marks. -/
def quotedChar (c : Char) : List Char :=
  if c = '"' then ['\\', '"']
  else if c = '\\' then ['\\', '\\']
  else if c = '\t' then ['\\', 't']
  else if c = '\n' then ['\\', 'n']
  else if c = '\r' then ['\\', 'r']
  else if c = '\x00' then ['\\', '0']
  else if isUnseen c then codePoint c
  else [c]

/-- A text between quotation marks. -/
def quoted (s : String) : String :=
  String.ofList ('"' :: s.toList.flatMap quotedChar ++ ['"'])

/-- A character that can be seen is quoted as it is, unless it is a quotation mark or a backslash.
-/
theorem quotedChar_of_seen {c : Char} (h : isUnseen c = false) (hq : c ≠ '"') (hb : c ≠ '\\') :
    quotedChar c = [c] := by
  have ht : c ≠ '\t' := by rintro rfl; exact absurd h (by decide)
  have hn : c ≠ '\n' := by rintro rfl; exact absurd h (by decide)
  have hr : c ≠ '\r' := by rintro rfl; exact absurd h (by decide)
  have h0 : c ≠ '\x00' := by rintro rfl; exact absurd h (by decide)
  simp [quotedChar, hq, hb, ht, hn, hr, h0, h]

end ExchangeMetrics.Text
