import ObfuscationMap.Renaming

/-!
# One renaming after another

Renaming a type only looks at the class in it, and renaming a member without an
answer of its own only looks at its types. Two renamings in a row are therefore
compared class by class, for types under any dimensions and for whole members.
-/

namespace ObfuscationMap
namespace JavaType

/-- Whether a type is a class. -/
def isClass (type : JavaType) : Bool :=
  type.className?.isSome

theorem isClass_iff (type : JavaType) :
    type.isClass = true ↔ ∃ name, type = .reference name := by
  cases type <;> simp [isClass, className?]

theorem mapClass_mapClass
    (first second : ClassName -> JavaType)
    (type : JavaType) :
    (type.mapClass first).mapClass second =
      type.mapClass fun name => (first name).mapClass second := by
  induction type with
  | reference name => rfl
  | primitive kind => rfl
  | array element step => exact congrArg array step

/-- What happens to the class in a type decides what becomes of the type. -/
theorem mapClass_congr
    {left right : ClassName -> JavaType}
    {type : JavaType}
    (agree : ∀ name, type.innermost = .reference name -> left name = right name) :
    type.mapClass left = type.mapClass right := by
  induction type with
  | reference name => exact agree name rfl
  | primitive kind => rfl
  | array element step => exact congrArg array (step agree)

end JavaType

namespace Signature

/-- The types of a signature, the return type last. -/
def types (signature : Signature) : List JavaType :=
  signature.parameters ++ [signature.result]

theorem mapTypes_mapTypes
    (first second : JavaType -> JavaType)
    (signature : Signature) :
    (signature.mapTypes first).mapTypes second =
      signature.mapTypes fun type => second (first type) := by
  simp [mapTypes]

theorem mapTypes_congr
    {left right : JavaType -> JavaType}
    {signature : Signature}
    (agree : ∀ type ∈ signature.types, left type = right type) :
    signature.mapTypes left = signature.mapTypes right := by
  have parameters : signature.parameters.map left = signature.parameters.map right :=
    List.map_congr_left fun type typeIn => agree type (by simp [types, typeIn])
  have result : left signature.result = right signature.result :=
    agree signature.result (by simp [types])
  rw [mapTypes, mapTypes, parameters, result]

end Signature

/-- A way of changing the types of a member does nothing else to it. -/
structure FollowsTypes
    {μ : Type}
    (types : μ -> List JavaType)
    (mapTypes : (JavaType -> JavaType) -> μ -> μ) : Prop where
  mapTypes_mapTypes : ∀ first second member,
    mapTypes second (mapTypes first member) =
      mapTypes (fun type => second (first type)) member
  mapTypes_congr : ∀ {left right member},
    (∀ type ∈ types member, left type = right type) ->
      mapTypes left member = mapTypes right member
  mapTypes_id : ∀ member, mapTypes id member = member

/-- A change that leaves the types of a member alone leaves the member alone. -/
theorem FollowsTypes.mapTypes_eq_self
    {μ : Type}
    {types : μ -> List JavaType}
    {mapTypes : (JavaType -> JavaType) -> μ -> μ}
    (follows : FollowsTypes types mapTypes)
    {change : JavaType -> JavaType}
    {member : μ}
    (still : ∀ type ∈ types member, change type = type) :
    mapTypes change member = member := by
  have same : ∀ type ∈ types member, change type = id type := still
  rw [follows.mapTypes_congr same, follows.mapTypes_id]

/-- Changing back what was changed restores a member. -/
theorem FollowsTypes.mapTypes_undo
    {μ : Type}
    {types : μ -> List JavaType}
    {mapTypes : (JavaType -> JavaType) -> μ -> μ}
    (follows : FollowsTypes types mapTypes)
    {change undo : JavaType -> JavaType}
    {member : μ}
    (undone : ∀ type ∈ types member, undo (change type) = type) :
    mapTypes undo (mapTypes change member) = member := by
  rw [follows.mapTypes_mapTypes]
  exact follows.mapTypes_eq_self undone

/-- A change that leaves every type alone leaves every member alone. -/
theorem FollowsTypes.mapTypes_still
    {μ : Type}
    {types : μ -> List JavaType}
    {mapTypes : (JavaType -> JavaType) -> μ -> μ}
    (follows : FollowsTypes types mapTypes)
    {change : JavaType -> JavaType}
    (still : ∀ type, change type = type)
    (member : μ) :
    mapTypes change member = member :=
  follows.mapTypes_eq_self fun type _ => still type

namespace Field

/-- The types of a field: the one that declares it. -/
def types (field : Field) : List JavaType :=
  [field.owner]

theorem followsTypes : FollowsTypes types fun rename field => field.mapTypes rename where
  mapTypes_mapTypes _ _ _ := rfl
  mapTypes_congr {left right field} agree := by
    have owner : left field.owner = right field.owner := agree field.owner (by simp [types])
    rw [mapTypes, mapTypes, owner]
  mapTypes_id _ := rfl

end Field

namespace Method

/-- The types of a method: the one that declares it and those of its signature. -/
def types (method : Method) : List JavaType :=
  method.owner :: method.signature.types

theorem followsTypes : FollowsTypes types fun rename method => method.mapTypes rename where
  mapTypes_mapTypes _ _ _ := by
    simp only [mapTypes, Signature.mapTypes_mapTypes]
  mapTypes_congr {left right method} agree := by
    have owner : left method.owner = right method.owner :=
      agree method.owner (by simp [types])
    have signature : method.signature.mapTypes left = method.signature.mapTypes right :=
      Signature.mapTypes_congr fun type typeIn => agree type (by simp [types, typeIn])
    rw [mapTypes, mapTypes, owner, signature]
  mapTypes_id method := by
    rw [mapTypes, Signature.mapTypes_id]
    rfl

end Method

namespace Renaming

/-- Two renamings in a row rename a type as they rename the class in it. -/
theorem renameType_renameType (first second : Renaming) (type : JavaType) :
    second.renameType (first.renameType type) =
      type.mapClass fun name => second.renameType (first.renameType (.reference name)) :=
  JavaType.mapClass_mapClass _ _ type

theorem renameType_of_class?_eq_some
    {answers : Renaming}
    {name : ClassName}
    {target : JavaType}
    (found : answers.class? (.reference name) = some target) :
    answers.renameType (.reference name) = target := by
  rw [renameType, JavaType.mapClass, found, Option.getD_some]

theorem renameType_of_class?_none
    {answers : Renaming}
    {name : ClassName}
    (silent : answers.class? (.reference name) = none) :
    answers.renameType (.reference name) = .reference name := by
  rw [renameType, JavaType.mapClass, silent, Option.getD_none]

end Renaming
end ObfuscationMap
