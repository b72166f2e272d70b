/-!
# Finite maps from names

A finite map whose keys are texts, kept as a list of entries in strictly
increasing key order.  The order is part of the type, so a map has exactly one
representation and listing its entries gives them sorted by code point.

Looking up after an insertion gives the inserted value at its own key and the
earlier value everywhere else.
-/

namespace FormWidgets

/-- Entries listed in strictly increasing order of their keys. -/
def Increasing {Entry : Type} (entries : List (String × Entry)) : Prop :=
  entries.Pairwise fun left right => left.1 < right.1

/-- A finite map from names, listed in strictly increasing key order. -/
@[ext]
structure NameMap (Entry : Type) where
  entries : List (String × Entry)
  increasing : Increasing entries

namespace NameMap

variable {Entry : Type}

/-- The map without entries. -/
def empty : NameMap Entry where
  entries := []
  increasing := .nil

instance : EmptyCollection (NameMap Entry) where
  emptyCollection := empty

instance : Inhabited (NameMap Entry) where
  default := empty

/-- The value listed first under a key. -/
def findIn (name : String) : List (String × Entry) → Option Entry
  | [] => none
  | (key, value) :: rest => if name = key then some value else findIn name rest

/-- Put a value under a key, replacing an earlier value and keeping the order. -/
def putIn (name : String) (value : Entry) :
    List (String × Entry) → List (String × Entry)
  | [] => [(name, value)]
  | (key, old) :: rest =>
      if name = key then (name, value) :: rest
      else if name < key then (name, value) :: (key, old) :: rest
      else (key, old) :: putIn name value rest

/-- The keys after an insertion are the earlier keys and the inserted one. -/
theorem mem_keys_putIn {name key : String} {value : Entry}
    {entries : List (String × Entry)} :
    key ∈ (putIn name value entries).map Prod.fst ↔
      key = name ∨ key ∈ entries.map Prod.fst := by
  induction entries with
  | nil => simp [putIn]
  | cons entry rest step =>
      obtain ⟨first, old⟩ := entry
      simp only [putIn]
      split
      · simp_all
      · split
        · simp
        · simp only [List.map_cons, List.mem_cons, step]
          grind

/-- Insertion keeps the keys in strictly increasing order. -/
theorem increasing_putIn (name : String) (value : Entry)
    {entries : List (String × Entry)} (increasing : Increasing entries) :
    Increasing (putIn name value entries) := by
  induction entries with
  | nil => simp [putIn, Increasing]
  | cons entry rest step =>
      obtain ⟨key, old⟩ := entry
      obtain ⟨above, tail⟩ := List.pairwise_cons.mp increasing
      simp only [putIn]
      split
      · rename_i same
        subst same
        exact List.pairwise_cons.mpr ⟨above, tail⟩
      · rename_i different
        split
        · rename_i below
          refine List.pairwise_cons.mpr ⟨?_, increasing⟩
          intro other member
          rcases List.mem_cons.mp member with rfl | member
          · exact below
          · exact String.lt_trans below (above other member)
        · rename_i notBelow
          refine List.pairwise_cons.mpr ⟨?_, step tail⟩
          intro other member
          have listed : other.1 ∈ (putIn name value rest).map Prod.fst :=
            List.mem_map_of_mem member
          rcases mem_keys_putIn.mp listed with same | member
          · rw [same]
            refine String.not_le.mp fun reaches => ?_
            exact different
              (String.le_antisymm reaches (String.not_lt.mp notBelow))
          · obtain ⟨found, member, same⟩ := List.mem_map.mp member
            exact same ▸ above found member

/-- The value under a key. -/
def find? (map : NameMap Entry) (name : String) : Option Entry :=
  findIn name map.entries

/-- The map with a value under a key, replacing an earlier value. -/
def put (map : NameMap Entry) (name : String) (value : Entry) : NameMap Entry where
  entries := putIn name value map.entries
  increasing := increasing_putIn name value map.increasing

/-- Whether a key is bound. -/
def contains (map : NameMap Entry) (name : String) : Bool :=
  (map.find? name).isSome

/-- The number of entries. -/
def size (map : NameMap Entry) : Nat :=
  map.entries.length

/-- The map without a key. -/
def erase (map : NameMap Entry) (name : String) : NameMap Entry where
  entries := map.entries.filter fun entry => entry.1 ≠ name
  increasing := map.increasing.filter _

/-- The map of a list of entries, of which a later one replaces an earlier one with its key. -/
def ofList (entries : List (String × Entry)) : NameMap Entry :=
  entries.foldl (fun map (name, value) => map.put name value) empty

@[simp]
theorem find?_empty (name : String) : (empty : NameMap Entry).find? name = none := rfl

theorem findIn_putIn (name key : String) (value : Entry)
    (entries : List (String × Entry)) :
    findIn key (putIn name value entries) =
      if key = name then some value else findIn key entries := by
  induction entries with
  | nil => simp [putIn, findIn]
  | cons entry rest step =>
      obtain ⟨first, old⟩ := entry
      simp only [putIn]
      split
      · rename_i same
        subst same
        simp only [findIn]
        split <;> rfl
      · split
        · simp only [findIn]
        · simp only [findIn, step]
          grind

/-- Looking up after an insertion. -/
theorem find?_put (map : NameMap Entry) (name key : String) (value : Entry) :
    (map.put name value).find? key =
      if key = name then some value else map.find? key :=
  findIn_putIn name key value map.entries

@[simp]
theorem find?_put_self (map : NameMap Entry) (name : String) (value : Entry) :
    (map.put name value).find? name = some value := by
  simp [find?_put]

theorem find?_put_of_ne (map : NameMap Entry) {name key : String} (value : Entry)
    (different : key ≠ name) :
    (map.put name value).find? key = map.find? key := by
  simp [find?_put, different]

/-- A key that is found heads one of the listed entries. -/
theorem mem_entries_of_findIn {name : String} {value : Entry}
    {entries : List (String × Entry)}
    (found : findIn name entries = some value) :
    (name, value) ∈ entries := by
  induction entries with
  | nil => cases found
  | cons entry rest step =>
      obtain ⟨key, old⟩ := entry
      simp only [findIn] at found
      split at found
      · simp_all
      · exact List.mem_cons_of_mem _ (step found)

/-- Removing a bound key makes the map smaller. -/
theorem size_erase_lt {map : NameMap Entry} {name : String} {value : Entry}
    (found : map.find? name = some value) :
    (map.erase name).size < map.size := by
  have member : (name, value) ∈ map.entries := mem_entries_of_findIn found
  exact List.length_filter_lt_length_iff_exists.mpr ⟨_, member, by simp⟩

end NameMap

end FormWidgets
