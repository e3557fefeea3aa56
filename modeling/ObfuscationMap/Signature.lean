import ObfuscationMap.JavaType.Descriptor

/-!
# Method signatures

The signature of a method is the list of its parameter types and its return
type, written as the descriptors of the parameters in parentheses followed by
the descriptor of the return type.
-/

namespace ObfuscationMap

/-- The parameter types and the return type of a method. -/
structure Signature where
  parameters : List JavaType
  result : JavaType
  deriving DecidableEq

namespace Signature

/-- The descriptor of a signature, such as `(Ljava/lang/String;I)V`. -/
def descriptor (signature : Signature) : Text :=
  '(' :: signature.parameters.flatMap JavaType.descriptor ++ ')' ::
    signature.result.descriptor

/-- Change every type of a signature. -/
def mapTypes
    (rename : JavaType -> JavaType)
    (signature : Signature) : Signature where
  parameters := signature.parameters.map rename
  result := rename signature.result

/-- Read the descriptors of the parameters of the signature `whole`. The
characters of the current descriptor that have been read are in `pending`, and
`inObject` says that an object descriptor has been entered and not yet left. An
opening parenthesis outside an object descriptor has no meaning. -/
def readParameters
    (whole : Text) :
    (pending : Text) -> (inObject : Bool) -> Text ->
      Except MappingError (List JavaType)
  | pending, false, [] =>
      if pending.isEmpty then
        .ok []
      else
        .error (.malformedDescriptor pending .arrayOfNothing)
  | _, true, [] => .error (.malformedSignature whole .unfinishedObject)
  | pending, true, c :: rest =>
      if c = ';' then do
        let parameter <- JavaType.ofDescriptor (pending ++ [c])
        let others <- readParameters whole [] false rest
        return parameter :: others
      else
        readParameters whole (pending ++ [c]) true rest
  | pending, false, c :: rest =>
      if c = '(' then
        readParameters whole pending false rest
      else if c = '[' then
        readParameters whole (pending ++ [c]) false rest
      else if c = 'L' then
        readParameters whole (pending ++ [c]) true rest
      else do
        let parameter <- JavaType.ofDescriptor (pending ++ [c])
        let others <- readParameters whole [] false rest
        return parameter :: others

/-- Read a signature. Its argument list ends at the first closing parenthesis. -/
def ofDescriptor (text : Text) : Except MappingError Signature :=
  if text.head? ≠ some '(' then
    .error (.malformedSignature text .missingOpening)
  else
    match text.dropWhile (· ≠ ')') with
    | [] => .error (.malformedSignature text .unterminatedArguments)
    | _ :: afterArguments => do
        let parameters <- readParameters text [] false (text.takeWhile (· ≠ ')'))
        let result <- JavaType.ofDescriptor afterArguments
        return { parameters, result }

@[simp] theorem mapTypes_id (signature : Signature) :
    signature.mapTypes id = signature := by
  simp [mapTypes]

end Signature
end ObfuscationMap
