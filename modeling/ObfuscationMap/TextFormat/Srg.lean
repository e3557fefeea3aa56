import ObfuscationMap.TextFormat.Record
import ObfuscationMap.Text.Order

/-!
# The srg format

Every line starts with the tag of its kind and holds both sides of an entry in
full:

* `CL:` and the internal names of two classes,
* `FD:` and the joined names of two fields,
* `MD:` and the joined names of two methods, each followed by its signature,
* `PK:` and anything; the line is read and has no effect.
-/

namespace ObfuscationMap
namespace Srg

/-- The kinds of lines. -/
inductive Tag
  | packages
  | classes
  | fields
  | methods
  deriving DecidableEq

/-- How a tag is written. -/
def Tag.text : Tag -> Text
  | packages => ['P', 'K', ':']
  | classes => ['C', 'L', ':']
  | fields => ['F', 'D', ':']
  | methods => ['M', 'D', ':']

/-- Read a tag. -/
def Tag.ofText? (text : Text) : Option Tag :=
  [Tag.packages, .classes, .fields, .methods].find? fun tag => tag.text == text

@[simp] theorem Tag.ofText?_text (tag : Tag) : ofText? tag.text = some tag := by
  cases tag <;> rfl

/-- Only its own text denotes a tag. -/
theorem Tag.text_of_ofText? {text : Text} {tag : Tag} (found : ofText? text = some tag) :
    text = tag.text := by
  have same := List.find?_some (show List.find? _ _ = _ from found)
  exact (beq_iff_eq.1 same).symm

/-- Read the words after the tag of a line. -/
def ofArguments (line : Text) (tag : Tag) (arguments : List Text) :
    Except MappingError Record :=
  match tag, arguments with
  | .packages, _ => .ok (.packageLine line)
  | .classes, [source, target] => Record.ofClassNames source target
  | .fields, [source, target] => do
      let source <- Field.ofInternalName source
      let target <- Field.ofInternalName target
      return .fieldEntry source target
  | .methods, [source, sourceSignature, target, targetSignature] => do
      let source <- Method.ofParts source sourceSignature
      let target <- Method.ofParts target targetSignature
      return .methodEntry source target
  | _, _ => .error (.invalidLine line .wrongCount)

/-- Read a line that holds a record, trimmed. -/
def ofContent (line : Text) : Except MappingError Record :=
  match Text.words line with
  | [] => .ok .nothing
  | kind :: arguments =>
      match Tag.ofText? kind with
      | some tag => ofArguments line tag arguments
      | none => .error (.unrecognizedRecord kind)

/-- Read a line. -/
def readLine (line : Text) : Except MappingError Record :=
  match Record.content? line with
  | some content => ofContent content
  | none => .ok .nothing

/-- Write a tag and words as a line. -/
def line (tag : Tag) (words : List Text) : Text :=
  [' '].intercalate (tag.text :: words)

/-- Write a class entry. -/
def classLine (entry : JavaType × JavaType) : Text :=
  line .classes [entry.1.internalName, entry.2.internalName]

/-- Write a field entry. -/
def fieldLine (entry : Field × Field) : Text :=
  line .fields [entry.1.internalName, entry.2.internalName]

/-- Write a method entry. -/
def methodLine (entry : Method × Method) : Text :=
  line .methods
    [entry.1.internalName, entry.1.signature.descriptor,
      entry.2.internalName, entry.2.signature.descriptor]

/-- Write a table: the classes, the fields and the methods, each sorted. -/
def lines (table : MappingTable) : List Text :=
  Text.sorted (table.classes.entries.map classLine) ++
    Text.sorted (table.fields.entries.map fieldLine) ++
    Text.sorted (table.methods.entries.map methodLine)

end Srg
end ObfuscationMap
