import ObfuscationMap.OrderedMap.Entries

/-!
# Maps that keep the order of insertion

A map is the list of its entries, with distinct keys. Inserting a key again
changes its value and keeps its place; removing a key keeps the order of the
others. Equality of maps as sets of entries is `SameEntries`.
-/

namespace ObfuscationMap

/-- A map whose entries stand in the order in which their keys were first
inserted. -/
structure OrderedMap (κ ν : Type) where
  /-- The entries in order. -/
  entries : List (κ × ν)
  /-- No key occurs twice. -/
  distinct : (Entries.keys entries).Nodup := by exact List.nodup_nil

namespace OrderedMap

variable {κ ν : Type}

@[ext] theorem ext (left right : OrderedMap κ ν)
    (same : left.entries = right.entries) : left = right := by
  cases left
  cases right
  simpa using same

variable [DecidableEq κ]

/-- The map without entries. -/
def empty : OrderedMap κ ν where
  entries := []

instance : EmptyCollection (OrderedMap κ ν) :=
  ⟨empty⟩

/-- The number of entries. -/
def size (map : OrderedMap κ ν) : Nat :=
  map.entries.length

/-- Whether there are no entries. -/
def isEmpty (map : OrderedMap κ ν) : Bool :=
  map.entries.isEmpty

/-- The keys in order. -/
def keys (map : OrderedMap κ ν) : List κ :=
  Entries.keys map.entries

/-- The values in the order of their keys. -/
def values (map : OrderedMap κ ν) : List ν :=
  map.entries.map Prod.snd

/-- The value of a key, if it has one. -/
def get? (map : OrderedMap κ ν) (key : κ) : Option ν :=
  Entries.find? key map.entries

/-- Give a key a value. A key that is there keeps its place. -/
def insert (map : OrderedMap κ ν) (key : κ) (value : ν) : OrderedMap κ ν where
  entries := Entries.put key value map.entries
  distinct := Entries.nodup_keys_put key value map.entries map.distinct

/-- Insert entries one after another. -/
def insertAll (map : OrderedMap κ ν) (entries : List (κ × ν)) : OrderedMap κ ν :=
  entries.foldl (fun grown entry => grown.insert entry.1 entry.2) map

/-- The map with the given entries. Of several entries with one key the last
value stands, in the place of the first. -/
def ofList (entries : List (κ × ν)) : OrderedMap κ ν :=
  empty.insertAll entries

/-- Keep the entries that satisfy a test. -/
def filter (keep : κ -> ν -> Bool) (map : OrderedMap κ ν) : OrderedMap κ ν where
  entries := map.entries.filter fun entry => keep entry.1 entry.2
  distinct := Entries.nodup_keys_filter _ map.entries map.distinct

/-- Remove a key. -/
def erase (map : OrderedMap κ ν) (key : κ) : OrderedMap κ ν where
  entries := Entries.takeOut key map.entries
  distinct := Entries.nodup_keys_filter _ map.entries map.distinct

/-- Give each key the value computed from its entry. -/
def mapValues {ω : Type} (change : κ -> ν -> ω) (map : OrderedMap κ ν) :
    OrderedMap κ ω where
  entries := map.entries.map fun entry => (entry.1, change entry.1 entry.2)
  distinct := by
    have same : Entries.keys (map.entries.map fun entry =>
        (entry.1, change entry.1 entry.2)) = Entries.keys map.entries := by
      simp [Entries.keys, Function.comp_def]
    rw [same]
    exact map.distinct

/-- Whether two maps have the same entries, in whatever order. -/
def sameEntries [DecidableEq ν] (left right : OrderedMap κ ν) : Bool :=
  left.size == right.size &&
    left.entries.all fun entry => right.get? entry.1 == some entry.2

/-- Exchange keys and values. Of several keys with one value the last stands. -/
def inverse {α : Type} [DecidableEq α] (map : OrderedMap α α) : OrderedMap α α :=
  ofList (map.entries.map Prod.swap)

@[simp] theorem get?_empty (key : κ) : (empty : OrderedMap κ ν).get? key = none := rfl

@[simp] theorem get?_insert
    (map : OrderedMap κ ν)
    (key sought : κ)
    (value : ν) :
    (map.insert key value).get? sought =
      if key = sought then some value else map.get? sought :=
  Entries.find?_put key sought value map.entries

theorem keys_insert (map : OrderedMap κ ν) (key : κ) (value : ν) :
    (map.insert key value).keys =
      if key ∈ map.keys then map.keys else map.keys ++ [key] :=
  Entries.keys_put key value map.entries

theorem get?_eq_some_iff (map : OrderedMap κ ν) (key : κ) (value : ν) :
    map.get? key = some value ↔ (key, value) ∈ map.entries :=
  Entries.find?_eq_some_iff key value map.entries map.distinct

theorem get?_eq_none_iff (map : OrderedMap κ ν) (key : κ) :
    map.get? key = none ↔ key ∉ map.keys :=
  Entries.find?_eq_none_iff key map.entries

end OrderedMap
end ObfuscationMap
