import Phrasemill.Fault

/-!
# Values

What expressions stand for when they are evaluated. Integers and texts can also be written down as
literals; lists and the category objects only arise from evaluation. A value is put on a line as its
text.
-/

namespace Phrasemill

/-- A constant as a grammar writes it, escapes resolved. -/
inductive Literal where
  | integer (value : Int64)
  | text (value : String)
  deriving DecidableEq

inductive Value where
  | integer (value : Int64)
  | text (value : String)
  | list (items : List Value)
  | category (category : Category)

namespace Value

mutual

def decideEq : (a b : Value) → Decidable (a = b)
  | integer a, integer b => decidable_of_iff (a = b) (by simp)
  | text a, text b => decidable_of_iff (a = b) (by simp)
  | list a, list b => @decidable_of_iff _ (a = b) (by simp) (decideListEq a b)
  | category a, category b => decidable_of_iff (a = b) (by simp)
  | integer _, text _ | integer _, list _ | integer _, category _
  | text _, integer _ | text _, list _ | text _, category _
  | list _, integer _ | list _, text _ | list _, category _
  | category _, integer _ | category _, text _ | category _, list _ => isFalse nofun

def decideListEq : (a b : List Value) → Decidable (a = b)
  | [], [] => isTrue rfl
  | [], _ :: _ | _ :: _, [] => isFalse nofun
  | a :: as, b :: bs =>
    match decideEq a b, decideListEq as bs with
    | isTrue h, isTrue hs => isTrue (by rw [h, hs])
    | isFalse h, _ => isFalse fun e => h (List.cons.inj e).1
    | _, isFalse hs => isFalse fun e => hs (List.cons.inj e).2

end

instance : DecidableEq Value := decideEq

instance : Inhabited Value := ⟨text ""⟩

mutual

/-- The value as it stands on a line; a category object leaves no trace. -/
def toText : Value → String
  | integer value => toString value.toInt
  | text value => value
  | list items => "[" ++ ", ".intercalate (toTexts items) ++ "]"
  | category _ => ""

def toTexts : List Value → List String
  | [] => []
  | value :: values => value.toText :: toTexts values

end

/-- The category that decides which methods the value has. -/
def toCategory : Value → Category
  | integer _ => .numeric
  | text _ | list _ => .textual
  | category c => c

/-- The integer that a numeric method works on. -/
def asInteger (method : String) (line : Nat) : Value → Except Fault Int64
  | integer value => .ok value
  | other => .error (.invalidOperand method .numeric other.toCategory line)

def toLiteral? : Value → Option Literal
  | integer value => some (.integer value)
  | text value => some (.text value)
  | list _ | category _ => none

end Value

def Literal.toValue : Literal → Value
  | integer value => .integer value
  | text value => .text value

@[simp] theorem Value.toLiteral?_toValue (l : Literal) : l.toValue.toLiteral? = some l := by
  cases l <;> rfl

theorem Value.toValue_of_toLiteral? {v : Value} {l : Literal} (h : v.toLiteral? = some l) :
    l.toValue = v := by
  cases v <;> simp_all [toLiteral?] <;> subst h <;> rfl

end Phrasemill
