import ObfuscationMap.TextFormat.Basic

/-!
# Choosing a format

A format is chosen by its identifier, or by the extension of a file name.
-/

namespace ObfuscationMap
namespace TextFormat

/-- The identifier of a format. -/
def id : TextFormat -> Text
  | .srg => ['s', 'r', 'g']
  | .csrg => ['c', 's', 'r', 'g']

/-- The format with an identifier. -/
def ofId? (text : Text) : Option TextFormat :=
  [srg, csrg].find? fun format => format.id == text

/-- The wording of a refused identifier. -/
def refusalOfId (text : Text) : Text :=
  "Invalid mappings format ".toList ++ Text.quoted text

/-- The last step of a path, if it names a file: steps that are empty or a single
dot lead nowhere, and two dots lead to a directory. -/
def fileName? (path : Text) : Option Text :=
  match ((path.splitOn '/').filter fun step => !step.isEmpty && step != ['.']).getLast? with
  | some ['.', '.'] => none
  | other => other

/-- What follows the last dot of a file name. A dot at the start of the name begins
no extension. -/
def extension? (name : Text) : Option Text :=
  match name.splitAtLast? '.' with
  | some (stem, extension) => if stem.isEmpty then none else some extension
  | none => none

/-- The format that the extension of a path names. -/
def ofPath? (path : Text) : Option TextFormat :=
  ((fileName? path).bind extension?).bind ofId?

@[simp] theorem ofId?_id (format : TextFormat) : ofId? format.id = some format := by
  cases format <;> rfl

end TextFormat
end ObfuscationMap
