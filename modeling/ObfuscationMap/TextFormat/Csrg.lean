import ObfuscationMap.TextFormat.Record
import ObfuscationMap.Text.Order

/-!
# The compact srg format

The number of words on a line gives its kind:

* two words: the internal names of two classes,
* three words: the declaring type, the name and the new name of a field,
* four words: the declaring type, the name, the signature and the new name of a
  method.

Members have their new names alone. Their types follow the class entries of the
whole text.
-/

namespace ObfuscationMap
namespace Csrg

/-- Read the words of a line. The signature of a method is read first. -/
def ofWords (line : Text) : List Text -> Except MappingError Record
  | [source, target] => Record.ofClassNames source target
  | [owner, name, newName] => do
      let owner <- JavaType.ofInternalName owner
      let name <- MemberName.ofText name
      let newName <- MemberName.ofText newName
      return .fieldName { owner, name } newName
  | [owner, name, signature, newName] => do
      let signature <- Signature.ofDescriptor signature
      let owner <- JavaType.ofInternalName owner
      let name <- MemberName.ofText name
      let newName <- MemberName.ofText newName
      return .methodName { owner, name, signature } newName
  | _ => .error (.invalidLine line .notTwoToFour)

/-- Read a line. -/
def readLine (line : Text) : Except MappingError Record :=
  match Record.content? line with
  | some content => ofWords content (Text.words content)
  | none => .ok .nothing

/-- Write words as a line. -/
def line (words : List Text) : Text :=
  [' '].intercalate words

/-- Write a class entry. -/
def classLine (entry : JavaType × JavaType) : Text :=
  line [entry.1.internalName, entry.2.internalName]

/-- Write a field entry. -/
def fieldLine (entry : Field × Field) : Text :=
  line [entry.1.owner.internalName, entry.1.name.text, entry.2.name.text]

/-- Write a method entry. -/
def methodLine (entry : Method × Method) : Text :=
  line
    [entry.1.owner.internalName, entry.1.name.text, entry.1.signature.descriptor,
      entry.2.name.text]

/-- Write a table: the classes, the fields and the methods, each sorted. -/
def lines (table : MappingTable) : List Text :=
  Text.sorted (table.classes.entries.map classLine) ++
    Text.sorted (table.fields.entries.map fieldLine) ++
    Text.sorted (table.methods.entries.map methodLine)

end Csrg
end ObfuscationMap
