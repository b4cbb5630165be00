import Phrasemill.Token

/-!
# Lexeme patterns

A grammar text is a sequence of lexemes, each of one pattern. Two facts describe a pattern: how far
it reaches into a text, that is, the length of the longest prefix of its form, and what a lexeme of
it means. Comments, line breaks and blanks mean nothing; of all other lexemes only an integer that
does not fit in 64 bits has no token.
-/

namespace Phrasemill

inductive Pattern where
  | print
  /-- Decimal digits, with or without a minus sign. -/
  | integer
  /-- Characters between double quotes, where a backslash takes the next one along. -/
  | text
  /-- A letter or underscore, then letters, digits and underscores. -/
  | name
  /-- Two slashes and the rest of the line. -/
  | lineComment
  /-- From a slash and a star to the first star and slash that the scan meets. -/
  | blockComment
  /-- One character that is a token of its own. -/
  | symbol (token : Token) (char : Char)
  | lineBreak
  /-- Spaces, tabs, carriage returns and form feeds. -/
  | blank
  deriving DecidableEq

namespace Pattern

/-- All patterns. Of two that reach equally far the earlier one counts, so that `print` is no
name. -/
def all : List Pattern := [
  print, integer, text, name, lineComment, blockComment,
  symbol .openParen '(', symbol .closeParen ')', symbol .openBracket '[', symbol .closeBracket ']',
  symbol .comma ',', symbol .equals '=', symbol .dot '.', lineBreak, blank]

/-! ### How far a pattern reaches -/

def isDigit (c : Char) : Bool := '0' ≤ c && c ≤ '9'

def startsName (c : Char) : Bool := ('a' ≤ c && c ≤ 'z') || ('A' ≤ c && c ≤ 'Z') || c == '_'

def continuesName (c : Char) : Bool := startsName c || isDigit c

def isBlank (c : Char) : Bool := c == ' ' || c == '\t' || c == '\r' || c == '\x0c'

def endsLineComment (c : Char) : Bool := c == '\n' || c == '\r'

def digitsReach (cs : List Char) : Option Nat :=
  match (cs.takeWhile isDigit).length with
  | 0 => none
  | n + 1 => some (n + 1)

/-- The length up to and including the closing quote. A backslash takes any character along but a
line break. -/
def textReach : List Char → Option Nat
  | [] => none
  | '"' :: _ => some 1
  | ['\\'] => none
  | '\\' :: c :: cs => if c = '\n' then none else (textReach cs).map (· + 2)
  | _ :: cs => (textReach cs).map (· + 1)

/-- The length up to and including the star and slash that close a comment. A star before anything
but a slash takes that character along, even if it is another star. -/
def blockReach : List Char → Option Nat
  | [] => none
  | ['*'] => none
  | '*' :: c :: cs => if c = '/' then some 2 else (blockReach cs).map (· + 2)
  | _ :: cs => (blockReach cs).map (· + 1)

/-- The length of the longest prefix of a text that has the form of the pattern. -/
def reach : Pattern → List Char → Option Nat
  | print, cs => if ['p', 'r', 'i', 'n', 't'].isPrefixOf cs then some 5 else none
  | integer, '-' :: cs => (digitsReach cs).map (· + 1)
  | integer, cs => digitsReach cs
  | text, '"' :: cs => (textReach cs).map (· + 1)
  | name, c :: cs => if startsName c then some ((cs.takeWhile continuesName).length + 1) else none
  | lineComment, '/' :: '/' :: cs => some ((cs.takeWhile (!endsLineComment ·)).length + 2)
  | blockComment, '/' :: '*' :: cs => (blockReach cs).map (· + 2)
  | symbol _ char, c :: _ => if c = char then some 1 else none
  | lineBreak, c :: _ => if c = '\n' then some 1 else none
  | blank, c :: cs => if isBlank c then some ((cs.takeWhile isBlank).length + 1) else none
  | _, _ => none

/-! ### What a lexeme means -/

inductive Meaning where
  | nothing
  | token (t : Token)
  | tooLarge
  deriving DecidableEq

/-- The integer of a run of digits with or without a sign, if it fits in 64 bits. -/
def integerOf? (lexeme : List Char) : Option Int64 :=
  let value : Int := match lexeme with
    | '-' :: digits => -(Nat.ofDigitChars 10 digits 0 : Int)
    | digits => (Nat.ofDigitChars 10 digits 0 : Int)
  if Int64.minValue.toInt ≤ value ∧ value ≤ Int64.maxValue.toInt then some (Int64.ofInt value)
  else none

/-- Resolves the escapes of a quote, a backslash, a line break and a tab; any other pair stays as it
is written. -/
def unescape : List Char → List Char
  | [] => []
  | '\\' :: '"' :: cs => '"' :: unescape cs
  | '\\' :: '\\' :: cs => '\\' :: unescape cs
  | '\\' :: 'n' :: cs => '\n' :: unescape cs
  | '\\' :: 't' :: cs => '\t' :: unescape cs
  | '\\' :: c :: cs => '\\' :: c :: unescape cs
  | c :: cs => c :: unescape cs

def meaning : Pattern → List Char → Meaning
  | print, _ => .token .print
  | integer, lexeme => match integerOf? lexeme with
    | some value => .token (.integer value)
    | none => .tooLarge
  | text, lexeme => .token (.text (String.ofList (unescape (lexeme.drop 1).dropLast)))
  | name, lexeme => .token (.name (String.ofList lexeme))
  | symbol token _, _ => .token token
  | lineComment, _ | blockComment, _ | lineBreak, _ | blank, _ => .nothing

/-! ### Lexemes are not empty -/

theorem digitsReach_pos {cs : List Char} {n : Nat} (h : digitsReach cs = some n) : 0 < n := by
  unfold digitsReach at h
  split at h <;> simp_all
  omega

theorem reach_pos {p : Pattern} {cs : List Char} {n : Nat} (h : p.reach cs = some n) : 0 < n := by
  unfold reach at h
  split at h
  · split at h <;> simp_all
    omega
  · obtain ⟨m, -, rfl⟩ := Option.map_eq_some_iff.1 h
    omega
  · exact digitsReach_pos h
  · obtain ⟨m, -, rfl⟩ := Option.map_eq_some_iff.1 h
    omega
  · split at h <;> simp_all
    omega
  · simp only [Option.some.injEq] at h; omega
  · obtain ⟨m, -, rfl⟩ := Option.map_eq_some_iff.1 h
    omega
  · split at h <;> simp_all
    omega
  · split at h <;> simp_all
    omega
  · split at h <;> simp_all
    omega
  · simp at h

end Pattern

end Phrasemill
