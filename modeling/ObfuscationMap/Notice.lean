import ObfuscationMap.MappingError
import ObfuscationMap.MappingTable.Basic

/-!
# Notices, faults and reports

Some work of the library leaves notices behind: what was read, ignored, lost or
left where it is. Looking up a member may also meet a fault, when a naming rule
answers with a text that is no name. A report is what a piece of work leaves:
its notices in order, and the fault that stopped it, if one did.
-/

namespace ObfuscationMap

/-- The weight of a notice. -/
inductive NoticeLevel
  | trace
  | debug
  | warning
  deriving DecidableEq

/-- Something worth noting about a piece of work. -/
inductive Notice
  /-- A text was read as a mapping table. -/
  | parsed (counts : EntryCounts)
  /-- A line about packages was read and has no effect. -/
  | ignoredPackageLine (line : Text)
  /-- A layer was added to a chain: the entries that it brought itself, and all
  entries of the chain after it. -/
  | chainedLayer (index : Nat) (own total : EntryCounts)
  /-- An inverse lacks entries, because targets are repeated. -/
  | lostByInversion (lost : EntryCounts)
  /-- A class stays where it is, because its new name is refused. -/
  | unmovedClass (name package : Text) (error : MappingError)
  /-- A package stays where it is, because its new name is no package. -/
  | unmovedPackage (package answer : Text)
  /-- No package is moved, because the table of moves is refused. -/
  | unmovedPackages (error : MappingError)
  deriving DecidableEq

/-- A naming rule answered for a member with a text that is no member name. -/
structure NamingFault where
  /-- The member, as messages name it. -/
  subject : Text
  /-- The answer of the rule. -/
  answer : Text
  deriving DecidableEq

/-- The notices that a piece of work leaves, and the fault that stopped it. -/
structure Report where
  notices : List Notice := []
  fault : Option NamingFault := none
  deriving DecidableEq

/-- The counts of the three kinds in words. -/
def EntryCounts.message (counts : EntryCounts) : Text :=
  Nat.toDigits 10 counts.classes ++ " classes, ".toList ++
    Nat.toDigits 10 counts.fields ++ " fields and ".toList ++
    Nat.toDigits 10 counts.methods ++ " methods".toList

namespace Notice

/-- The weight of each kind of notice. -/
def level : Notice -> NoticeLevel
  | .parsed .. => .debug
  | .ignoredPackageLine .. => .trace
  | .chainedLayer .. => .debug
  | .lostByInversion .. => .warning
  | .unmovedClass .. => .warning
  | .unmovedPackage .. => .warning
  | .unmovedPackages .. => .warning

/-- The wording of a notice. -/
def message : Notice -> Text
  | .parsed counts => "Parsed ".toList ++ counts.message
  | .ignoredPackageLine line =>
      "Ignoring package mapping ".toList ++ Text.quoted line
  | .chainedLayer index own total =>
      "Chained layer ".toList ++ Nat.toDigits 10 index ++ ": ".toList ++ own.message ++
        " of its own, ".toList ++ total.message ++ " total".toList
  | .lostByInversion lost =>
      "Inverting mappings with duplicate renamed names, lost ".toList ++ lost.message
  | .unmovedClass name package error =>
      "Unable to move ".toList ++ name ++ " into package ".toList ++
        Text.quoted package ++ ": ".toList ++ error.message
  | .unmovedPackage package answer =>
      "Unable to move package ".toList ++ Text.quoted package ++
        " into invalid package ".toList ++ Text.quoted answer
  | .unmovedPackages error =>
      "Unable to transform packages: ".toList ++ error.message

end Notice

/-- The wording of a fault. -/
def NamingFault.message (fault : NamingFault) : Text :=
  "Renamed ".toList ++ fault.subject ++ " to invalid name ".toList ++
    Text.quoted fault.answer

namespace Report

/-- The report of work that leaves nothing behind. -/
def empty : Report := {}

/-- The report of a single notice. -/
def ofNotice (notice : Notice) : Report :=
  { notices := [notice] }

/-- The report of work that a fault stopped at once. -/
def ofFault (fault : NamingFault) : Report :=
  { fault := some fault }

/-- The report of one piece of work after another, the second of which is not
done after a fault. -/
def append (first second : Report) : Report :=
  match first.fault with
  | some _ => first
  | none => { notices := first.notices ++ second.notices, fault := second.fault }

instance : Append Report :=
  ⟨append⟩

/-- The report of several pieces of work in order. -/
def join (reports : List Report) : Report :=
  reports.foldr append empty

@[simp] theorem empty_append (report : Report) : empty ++ report = report := rfl

@[simp] theorem append_empty (report : Report) : report ++ empty = report := by
  obtain ⟨notices, fault⟩ := report
  show append { notices, fault } empty = _
  cases fault with
  | none => simp [append, empty]
  | some fault => rfl

end Report
end ObfuscationMap
