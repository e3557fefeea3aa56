import ObfuscationMap.Text.Basic

/-!
# Primitive types

The nine primitive types, `void` among them, each with a lower-case name and a
code of one letter.
-/

namespace ObfuscationMap

/-- A primitive type. -/
inductive Primitive
  | byte
  | short
  | int
  | long
  | float
  | double
  | char
  | boolean
  | void
  deriving DecidableEq

namespace Primitive

/-- The primitive types in their customary order. -/
def all : List Primitive :=
  [byte, short, int, long, float, double, char, boolean, void]

/-- The lower-case name of a primitive type. -/
def name : Primitive -> Text
  | byte => ['b', 'y', 't', 'e']
  | short => ['s', 'h', 'o', 'r', 't']
  | int => ['i', 'n', 't']
  | long => ['l', 'o', 'n', 'g']
  | float => ['f', 'l', 'o', 'a', 't']
  | double => ['d', 'o', 'u', 'b', 'l', 'e']
  | char => ['c', 'h', 'a', 'r']
  | boolean => ['b', 'o', 'o', 'l', 'e', 'a', 'n']
  | void => ['v', 'o', 'i', 'd']

/-- The code of a primitive type in descriptors. -/
def code : Primitive -> Char
  | byte => 'B'
  | short => 'S'
  | int => 'I'
  | long => 'J'
  | float => 'F'
  | double => 'D'
  | char => 'C'
  | boolean => 'Z'
  | void => 'V'

/-- The primitive type with a given code. -/
def ofCode? (c : Char) : Option Primitive :=
  all.find? fun primitive => primitive.code == c

/-- The primitive type with a given name, in any case of its letters. -/
def ofName? (name : Text) : Option Primitive :=
  all.find? fun primitive => Text.sameIgnoringCase primitive.name name

theorem mem_all (primitive : Primitive) : primitive ∈ all := by
  cases primitive <;> decide

@[simp] theorem ofCode?_code (primitive : Primitive) :
    ofCode? primitive.code = some primitive := by
  cases primitive <;> rfl

@[simp] theorem ofName?_name (primitive : Primitive) :
    ofName? primitive.name = some primitive := by
  cases primitive <;> rfl

/-- Only its own code denotes a primitive type. -/
theorem ofCode?_eq_some_iff (c : Char) (primitive : Primitive) :
    ofCode? c = some primitive ↔ c = primitive.code := by
  constructor
  · intro found
    have matching := List.find?_some (show all.find? _ = _ from found)
    exact (beq_iff_eq.1 matching).symm
  · rintro rfl
    exact ofCode?_code primitive

/-- A name denotes a primitive type exactly if it is the name of that type up to
case. -/
theorem ofName?_eq_some_iff (name : Text) (primitive : Primitive) :
    ofName? name = some primitive ↔
      Text.sameIgnoringCase primitive.name name = true := by
  constructor
  · intro found
    have matching := List.find?_some (show all.find? _ = _ from found)
    exact matching
  · intro same
    have lower := beq_iff_eq.1 same
    have agree : ∀ other : Primitive,
        Text.sameIgnoringCase other.name name = (other == primitive) := by
      intro other
      rw [Text.sameIgnoringCase, ← lower]
      cases other <;> cases primitive <;> rfl
    simp only [ofName?, agree]
    cases primitive <;> rfl

end Primitive
end ObfuscationMap
