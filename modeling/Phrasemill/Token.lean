import Phrasemill.Text.Quoted

/-!
# Tokens

The units a grammar text is made of once comments and blanks are gone. Integers are 64 bits wide;
a text token holds its characters with the escapes resolved.
-/

namespace Phrasemill

inductive Token where
  | print
  | integer (value : Int64)
  | text (value : String)
  | name (value : String)
  | openParen
  | closeParen
  | openBracket
  | closeBracket
  | comma
  | equals
  | dot
  deriving DecidableEq

/-- A token and the line it ends on. -/
abbrev LocatedToken := Token × Nat

namespace Token

def name? : Token → Option String
  | name value => some value
  | _ => none

def integer? : Token → Option Int64
  | integer value => some value
  | _ => none

def shown : Token → String
  | print => "Print"
  | integer value => "Integer(" ++ toString value.toInt ++ ")"
  | text value => "Str(" ++ Text.quoted value ++ ")"
  | name value => "Identifier(" ++ Text.quoted value ++ ")"
  | openParen => "LParen"
  | closeParen => "RParen"
  | openBracket => "LBracket"
  | closeBracket => "RBracket"
  | comma => "Comma"
  | equals => "Equals"
  | dot => "Dot"

end Token

end Phrasemill
