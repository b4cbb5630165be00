import Phrasemill.Value
import Phrasemill.Text.Lowercase

/-!
# Builtins

The functions of the grammar language. Each has a name of its own, a name as a method, a category
that owns the method and an arity. A method can be called on every value whose category supports its
owner, so text methods can be called on numbers but numeric methods not on texts.
-/

namespace Phrasemill

inductive Builtin where
  | append
  | lower
  | oneOf
  /-- A random candidate that has not been drawn before. -/
  | oneOfUnique
  | between
  /-- A random integer from zero up to another. -/
  | upto
  deriving DecidableEq, Repr

namespace Builtin

/-- All builtins, in the order in which they are listed. -/
def all : List Builtin := [append, lower, oneOf, oneOfUnique, between, upto]

/-- The name by which the builtin is called without a receiver. -/
def name : Builtin → String
  | append => "append"
  | lower => "lower"
  | oneOf => "one_of"
  | oneOfUnique => "one_of_unique"
  | between => "number.between"
  | upto => "number.upto"

/-- The name by which the builtin is called on a receiver. -/
def methodName : Builtin → String
  | append => "append"
  | lower => "lower"
  | oneOf => "one_of"
  | oneOfUnique => "one_of_unique"
  | between => "between"
  | upto => "upto"

/-- The category that the method belongs to. -/
def owner : Builtin → Category
  | append | lower | oneOf | oneOfUnique => .textual
  | between | upto => .numeric

def arity : Builtin → Arity
  | append => .atLeast 0
  | lower => .exactly 1
  | oneOf | oneOfUnique => .atLeast 1
  | between => .exactly 2
  | upto => .exactly 1

/-! ### Finding a builtin -/

def named? (name : String) : Option Builtin := all.find? (·.name == name)

/-- The method of a name that values of the category have. -/
def method? (category : Category) (method : String) : Option Builtin :=
  all.find? fun b => b.methodName == method && category.supports b.owner

/-- The method of a name that values of the category have, or the reason why there is none. -/
def resolveMethod (category : Category) (method : String) (line : Nat) : Except Fault Builtin :=
  match method? category method with
  | some b => .ok b
  | none =>
    match all.find? (·.methodName == method) with
    | some b => .error (.invalidOperand method b.owner category line)
    | none => .error (.unknownFunction (category.objectName ++ "." ++ method) line)

def resolveName (name : String) (line : Nat) : Except Fault Builtin :=
  match named? name with
  | some b => .ok b
  | none => .error (.unknownFunction name line)

/-! ### Operands -/

def checkArity (b : Builtin) (found line : Nat) : Except Fault Unit :=
  if b.arity.accepts found then .ok ()
  else .error (.arityMismatch b.name b.arity found line)

/-- The operands, if there are exactly `n`. -/
def exactly (b : Builtin) (n : Nat) (operands : List Value) (line : Nat) :
    Except Fault (Vector Value n) :=
  if h : operands.length = n then .ok ⟨operands.toArray, by simpa using h⟩
  else .error (.arityMismatch b.name (.exactly n) operands.length line)

/-- What is chosen from: the items of a single list, or the operands themselves. -/
def candidates : List Value → List Value
  | [.list items] => items
  | operands => operands

/-! ### Texts -/

def joined (values : List Value) : Value := .text (String.join (values.map Value.toText))

def lowered (value : Value) : Value := .text (Text.lowercase value.toText)

/-- The value of a call that takes no randomness and cannot fault. -/
def fold? (b : Builtin) (operands : List Value) : Option Value :=
  if b.arity.accepts operands.length then
    match b with
    | append => some (joined operands)
    | lower => operands.head?.map lowered
    | oneOf | oneOfUnique | between | upto => none
  else none

end Builtin

end Phrasemill
