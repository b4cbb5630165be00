/-!
# Categories

Every value is textual or numeric, and its category decides which methods can be called on it. A
grammar names the two categories by their objects, `value` and `number`; messages name them by what
they hold.
-/

namespace Phrasemill

inductive Category where
  /-- Texts, lists and the object `value`. -/
  | textual
  /-- Integers and the object `number`. -/
  | numeric
  deriving DecidableEq, Repr

namespace Category

/-- The object by which a grammar refers to the category. -/
def objectName : Category → String
  | textual => "value"
  | numeric => "number"

/-- The category that a grammar refers to by a name. -/
def ofName? (name : String) : Option Category :=
  if name = textual.objectName then some textual
  else if name = numeric.objectName then some numeric
  else none

def word : Category → String
  | textual => "string"
  | numeric => "numeric"

/-- Whether a method owned by `owner` can be called on a value of the category: text methods on
everything, numeric methods on numeric values only. -/
def supports : Category → (owner : Category) → Bool
  | _, textual => true
  | numeric, numeric => true
  | textual, numeric => false

theorem supports_textual (c : Category) : c.supports textual = true := by
  cases c <;> rfl

theorem supports_numeric (owner : Category) : numeric.supports owner = true := by
  cases owner <;> rfl

@[simp] theorem ofName?_objectName (c : Category) : ofName? c.objectName = some c := by
  cases c <;> rfl

theorem ofName?_eq_some {name : String} {c : Category} :
    ofName? name = some c ↔ name = c.objectName := by
  constructor
  · unfold ofName?
    split
    · rintro ⟨⟩; assumption
    · split
      · rintro ⟨⟩; assumption
      · nofun
  · rintro rfl; simp

end Category

end Phrasemill
