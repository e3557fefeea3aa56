import ObfuscationMap.TextFormat.Csrg
import ObfuscationMap.TextFormat.Srg
import ObfuscationMap.Notice
import ObfuscationMap.Text.Lines

/-!
# Text formats of mapping tables

A table is read from the lines of a text up to the first line that is refused or
cannot be decoded, and written as sorted lines. Texts, lists of lines and encoded
bytes are read by the same rule.
-/

namespace ObfuscationMap

/-- The text formats. -/
inductive TextFormat
  | srg
  | csrg
  deriving DecidableEq

/-- A refused line: its number from one, the line as it stands, and the cause. -/
structure LineError where
  number : Nat
  line : Text
  cause : MappingError
  deriving DecidableEq

/-- The wording of a refused line. -/
def LineError.message (error : LineError) : Text :=
  "Unable to parse line ".toList ++ Nat.toDigits 10 error.number ++ " (".toList ++
    Text.quoted error.line ++ "): ".toList ++ error.cause.message

/-- The reason for which a text cannot be read. -/
inductive ReadError
  /-- A line is refused. -/
  | refused (error : LineError)
  /-- A line cannot be decoded. -/
  | undecodable
  deriving DecidableEq

/-- The wording of a reason for which a text cannot be read. -/
def ReadError.message : ReadError -> Text
  | .refused error => error.message
  | .undecodable => "stream did not contain valid UTF-8".toList

namespace TextFormat

/-- Read a line. -/
def readLine : TextFormat -> Text -> Except MappingError Record
  | .srg => Srg.readLine
  | .csrg => Csrg.readLine

/-- Add what a line says to a draft. -/
def takeLine (format : TextFormat) (draft : Draft) (line : Text) :
    Except MappingError Draft :=
  (format.readLine line).map draft.add

/-- Add lines to a draft, the first of them with the given number, up to the first
that is refused or cannot be decoded. -/
def takeLines (format : TextFormat) (number : Nat) (draft : Draft) :
    List (Option Text) -> Except ReadError Draft
  | [] => .ok draft
  | none :: _ => .error .undecodable
  | some line :: rest =>
      match format.takeLine draft line with
      | .ok draft => format.takeLines (number + 1) draft rest
      | .error cause => .error (.refused { number, line, cause })

/-- Read the table of lines that were decoded where possible. -/
def readDecoded (format : TextFormat) (lines : List (Option Text)) :
    Except ReadError MappingTable :=
  (format.takeLines 1 .empty lines).map Draft.finish

/-- Read the table of a list of lines. -/
def readLines (format : TextFormat) (lines : List Text) : Except ReadError MappingTable :=
  format.readDecoded (lines.map some)

/-- Read the table of a text. -/
def readText (format : TextFormat) (text : Text) : Except ReadError MappingTable :=
  format.readLines (Text.lines text)

/-- Read the table of encoded bytes. -/
def readBytes (format : TextFormat) (bytes : List UInt8) : Except ReadError MappingTable :=
  format.readDecoded (Text.decodedLines bytes)

/-- The records of the lines before the first that is refused or cannot be
decoded. -/
def recordsBeforeError (format : TextFormat) : List (Option Text) -> List Record
  | [] => []
  | none :: _ => []
  | some line :: rest =>
      match format.readLine line with
      | .ok record => record :: format.recordsBeforeError rest
      | .error _ => []

/-- The report of a record: a line about packages is noted. -/
def reportRecord : Record -> Report
  | .packageLine line => .ofNotice (.ignoredPackageLine line)
  | _ => .empty

/-- The report of reading lines: the lines about packages, and the numbers of
entries if the text could be read. -/
def reportRead (format : TextFormat) (lines : List (Option Text)) : Report :=
  .join ((format.recordsBeforeError lines).map reportRecord) ++
    match format.readDecoded lines with
    | .ok table => .ofNotice (.parsed table.counts)
    | .error _ => .empty

/-- Write a table as lines. -/
def lines : TextFormat -> MappingTable -> List Text
  | .srg => Srg.lines
  | .csrg => Csrg.lines

/-- Write a table as a text. -/
def writeText (format : TextFormat) (table : MappingTable) : Text :=
  Text.unlines (format.lines table)

end TextFormat
end ObfuscationMap
