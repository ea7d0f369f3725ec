import SharedCounter.Text.Visible

/-!
# Quoted text

* `quote` : a text between double quotes, in which no quote, backslash or hidden character stands
  as itself;
* `quoteList` : quoted texts between brackets, a comma and a space between two of them;
* `escape` : the written form of one character: a short escape, a code point in hexadecimal
  digits, or the character itself.
-/

namespace SharedCounter.Text

/-- The short escapes. -/
def shortEscape? : Char → Option Char
  | '\x00' => some '0'
  | '\t' => some 't'
  | '\n' => some 'n'
  | '\r' => some 'r'
  | '"' => some '"'
  | '\\' => some '\\'
  | _ => none

/-- The written form of a character inside quotes. -/
def escape (c : Char) : List Char :=
  match shortEscape? c with
  | some s => ['\\', s]
  | none =>
    if isVisible c then [c]
    else ['\\', 'u', '\x7b'] ++ Nat.toDigits 16 c.toNat ++ ['\x7d']

/-- A text between double quotes. -/
def quote (s : String) : String :=
  String.ofList ('"' :: s.toList.flatMap escape ++ ['"'])

/-- A list of texts, each of them quoted. -/
def quoteList (ss : List String) : String :=
  "[" ++ ", ".intercalate (ss.map quote) ++ "]"

end SharedCounter.Text
