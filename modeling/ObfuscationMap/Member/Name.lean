import ObfuscationMap.MappingError
import ObfuscationMap.Name

/-!
# Member names and joined names

The name of a field or a method is an identifier. A joined name, such as
`net/example/Entity/dead`, is the internal name of a type and a member name with
a slash between them; the last slash separates them.
-/

namespace ObfuscationMap

/-- The name of a field or a method. -/
structure MemberName where
  /-- The name itself. -/
  text : Text
  /-- The name is an identifier. -/
  valid : Name.isIdentifier text = true
  deriving DecidableEq

namespace MemberName

/-- Read a member name. -/
def ofText (text : Text) : Except MappingError MemberName :=
  if valid : Name.isIdentifier text = true then
    .ok ⟨text, valid⟩
  else
    .error (.invalidName .identifier text)

/-- Split a joined name at its last slash. Neither part may be empty. -/
def splitJoined (joined : Text) : Except MappingError (Text × Text) :=
  match joined.splitAtLast? '/' with
  | some (owner, name) =>
      if owner.isEmpty || name.isEmpty then
        .error (.invalidName .member joined)
      else
        .ok (owner, name)
  | none => .error (.invalidName .member joined)

@[ext] theorem ext (left right : MemberName) (same : left.text = right.text) :
    left = right := by
  cases left
  cases right
  simpa using same

/-- Reading succeeds exactly on the text of a member name. -/
theorem ofText_eq_ok_iff (text : Text) (name : MemberName) :
    ofText text = .ok name ↔ name.text = text := by
  unfold ofText
  constructor
  · intro accepted
    split at accepted
    · cases accepted
      rfl
    · cases accepted
  · rintro rfl
    simp [name.valid]

@[simp] theorem ofText_text (name : MemberName) : ofText name.text = .ok name :=
  (ofText_eq_ok_iff name.text name).2 rfl

end MemberName
end ObfuscationMap
