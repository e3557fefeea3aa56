import ObfuscationMap.OrderedMap.Basic
import ObfuscationMap.Renaming

/-!
# Mapping tables

A mapping table stores renamings of classes, fields and methods. Each entry leads
from a source name to a target name, and the entries of each kind keep the order
in which their sources came in.
-/

namespace ObfuscationMap

/-- Stored entries from source names to target names. -/
structure MappingTable where
  classes : OrderedMap JavaType JavaType := ∅
  fields : OrderedMap Field Field := ∅
  methods : OrderedMap Method Method := ∅

/-- A number for each kind of entry. -/
structure EntryCounts where
  classes : Nat
  fields : Nat
  methods : Nat
  deriving DecidableEq

namespace MappingTable

/-- The table without entries. -/
def empty : MappingTable := {}

/-- The number of entries of each kind. -/
def counts (table : MappingTable) : EntryCounts where
  classes := table.classes.size
  fields := table.fields.size
  methods := table.methods.size

/-- Whether there are no entries. -/
def isEmpty (table : MappingTable) : Bool :=
  table.classes.isEmpty && table.fields.isEmpty && table.methods.isEmpty

/-- The renaming that answers by the stored entries. -/
def toRenaming (table : MappingTable) : Renaming where
  class? := table.classes.get?
  field? := table.fields.get?
  method? := table.methods.get?

/-- Whether two tables have the same entries of each kind, in whatever order. -/
def sameEntries (left right : MappingTable) : Bool :=
  left.classes.sameEntries right.classes &&
    left.fields.sameEntries right.fields &&
    left.methods.sameEntries right.methods

@[ext] theorem ext
    (left right : MappingTable)
    (classes : left.classes = right.classes)
    (fields : left.fields = right.fields)
    (methods : left.methods = right.methods) :
    left = right := by
  cases left
  cases right
  simp only at classes fields methods
  rw [classes, fields, methods]

theorem sameEntries_iff (left right : MappingTable) :
    left.sameEntries right = true ↔
      left.classes.sameEntries right.classes = true ∧
        left.fields.sameEntries right.fields = true ∧
          left.methods.sameEntries right.methods = true := by
  rw [sameEntries, Bool.and_eq_true, Bool.and_eq_true, and_assoc]

/-- Exchange sources and targets. Of several sources with one target the last
stands. -/
def inverse (table : MappingTable) : MappingTable where
  classes := table.classes.inverse
  fields := table.fields.inverse
  methods := table.methods.inverse

/-- The number of entries of each kind that the inverse lacks. -/
def lostByInversion (table : MappingTable) : EntryCounts where
  classes := table.classes.size - table.classes.inverse.size
  fields := table.fields.size - table.fields.inverse.size
  methods := table.methods.size - table.methods.inverse.size

end MappingTable
end ObfuscationMap
