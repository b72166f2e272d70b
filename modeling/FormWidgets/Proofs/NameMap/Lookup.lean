import FormWidgets.NameMap
import Mathlib

/-!
# Maps by what is found in them

A finite map from names is known by its look-ups: two maps in which the same is
found are the same map.  What is found in the map of a list is the last entry
under the name, so in a list of distinct names every entry is found.
-/

namespace FormWidgets.NameMap

variable {Entry : Type}

theorem nodup_keys (map : NameMap Entry) : (map.entries.map Prod.fst).Nodup := by
  rw [List.Nodup, List.pairwise_map]
  exact map.increasing.imp fun below => String.ne_of_lt below

theorem findIn_eq_some_iff {entries : List (String × Entry)}
    (distinct : (entries.map Prod.fst).Nodup) {name : String} {value : Entry} :
    findIn name entries = some value ↔ (name, value) ∈ entries := by
  refine ⟨mem_entries_of_findIn, fun member => ?_⟩
  induction entries with
  | nil => cases member
  | cons entry rest step =>
      obtain ⟨key, first⟩ := entry
      obtain ⟨fresh, distinct⟩ := List.nodup_cons.mp distinct
      rw [findIn]
      rcases List.mem_cons.mp member with same | later
      · cases same
        exact if_pos rfl
      · have other : name ≠ key := by
          intro same
          exact fresh (List.mem_map.mpr ⟨_, later, same⟩)
        rw [if_neg other]
        exact step distinct later

theorem find?_eq_some_iff {map : NameMap Entry} {name : String} {value : Entry} :
    map.find? name = some value ↔ (name, value) ∈ map.entries :=
  findIn_eq_some_iff map.nodup_keys

theorem isSome_find?_iff {map : NameMap Entry} {name : String} :
    (map.find? name).isSome ↔ name ∈ map.entries.map Prod.fst := by
  rw [Option.isSome_iff_exists, List.mem_map]
  constructor
  · rintro ⟨value, found⟩
    exact ⟨_, find?_eq_some_iff.mp found, rfl⟩
  · rintro ⟨⟨key, value⟩, listed, rfl⟩
    exact ⟨value, find?_eq_some_iff.mpr listed⟩

/-- Maps in which the same is found under every name are equal. -/
theorem ext_find? {left right : NameMap Entry}
    (same : ∀ name, left.find? name = right.find? name) : left = right := by
  apply NameMap.ext
  have perm : left.entries.Perm right.entries := by
    apply (List.perm_ext_iff_of_nodup left.nodup_keys.of_map right.nodup_keys.of_map).mpr
    rintro ⟨name, value⟩
    rw [← find?_eq_some_iff, ← find?_eq_some_iff, same]
  apply perm.eq_of_pairwise (fun first second _ _ below above => ?_)
    left.increasing right.increasing
  exact absurd (String.lt_trans below above) (String.lt_irrefl _)

/-- Removing a key hides it and nothing else. -/
theorem find?_erase (map : NameMap Entry) (name key : String) :
    (map.erase name).find? key = if key = name then none else map.find? key := by
  apply Option.ext
  intro value
  rw [find?_eq_some_iff, erase, List.mem_filter]
  split
  · rename_i same
    simp [same]
  · rename_i other
    simp [other, find?_eq_some_iff]

theorem ofList_append_singleton (entries : List (String × Entry)) (name : String)
    (value : Entry) : ofList (entries ++ [(name, value)]) = (ofList entries).put name value :=
  List.foldl_concat _ _ _ _

theorem find?_foldl_put (entries : List (String × Entry)) (map : NameMap Entry)
    (name : String) :
    (entries.foldl (fun map entry => map.put entry.1 entry.2) map).find? name =
      ((entries.reverse.find? fun entry => entry.1 = name).map Prod.snd).or
        (map.find? name) := by
  induction entries generalizing map with
  | nil => rfl
  | cons entry rest step =>
      rw [List.foldl_cons, step, List.reverse_cons, List.find?_append, find?_put]
      cases rest.reverse.find? fun entry => entry.1 = name with
      | some found => rfl
      | none =>
          by_cases same : entry.1 = name
          · simp [same]
          · simp [same, Ne.symm same]

/-- Of the entries under a name, the last one is found in the map of a list. -/
theorem find?_ofList (entries : List (String × Entry)) (name : String) :
    (ofList entries).find? name =
      (entries.reverse.find? fun entry => entry.1 = name).map Prod.snd := by
  rw [ofList, find?_foldl_put, find?_empty, Option.or_none]

/-- An item is the last one in a list that has a given key. -/
def IsLastUnder {Item : Type} (key : Item → String) (name : String) (items : List Item)
    (item : Item) : Prop :=
  key item = name ∧
    ∃ before after, items = before ++ item :: after ∧ ∀ later ∈ after, key later ≠ name

theorem find?_reverse_eq_some_iff {Item : Type} {key : Item → String} {name : String}
    {items : List Item} {item : Item} :
    (items.reverse.find? fun item => key item = name) = some item ↔
      IsLastUnder key name items item := by
  simp only [List.find?_eq_some_iff_append, decide_eq_true_eq, Bool.not_eq_eq_eq_not,
    Bool.not_true, decide_eq_false_iff_not, IsLastUnder]
  apply and_congr_right
  intro _
  constructor
  · rintro ⟨after, before, reversed, others⟩
    refine ⟨before.reverse, after.reverse, ?_, ?_⟩
    · rw [← List.reverse_reverse items, reversed, List.reverse_append, List.reverse_cons,
        List.append_assoc, List.singleton_append]
    · exact fun later member => others later (List.mem_reverse.mp member)
  · rintro ⟨before, after, rfl, others⟩
    refine ⟨after.reverse, before.reverse, ?_, ?_⟩
    · rw [List.reverse_append, List.reverse_cons, List.append_assoc, List.singleton_append]
    · exact fun later member => others later (List.mem_reverse.mp member)

theorem find?_ofList_map {Item : Type} (key : Item → String) (value : Item → Entry)
    (items : List Item) (name : String) :
    (ofList (items.map fun item => (key item, value item))).find? name =
      (items.reverse.find? fun item => key item = name).map value := by
  rw [find?_ofList, ← List.map_reverse, List.find?_map, Option.map_map]
  rfl

/-- What is found in the map of keyed items is the value of the last item that has the key. -/
theorem find?_ofList_map_eq_some_iff {Item : Type} {key : Item → String}
    {value : Item → Entry} {items : List Item} {name : String} {found : Entry} :
    (ofList (items.map fun item => (key item, value item))).find? name = some found ↔
      ∃ item, IsLastUnder key name items item ∧ value item = found := by
  rw [find?_ofList_map, Option.map_eq_some_iff]
  simp only [find?_reverse_eq_some_iff]

theorem find?_ofList_eq_none_iff {entries : List (String × Entry)} {name : String} :
    (ofList entries).find? name = none ↔ name ∉ entries.map Prod.fst := by
  rw [find?_ofList, Option.map_eq_none_iff, List.find?_eq_none]
  simp only [List.mem_reverse, decide_eq_true_eq, List.mem_map, not_exists, not_and]

theorem find?_ofList_of_mem {entries : List (String × Entry)}
    (distinct : (entries.map Prod.fst).Nodup) {name : String} {value : Entry}
    (member : (name, value) ∈ entries) : (ofList entries).find? name = some value := by
  have found : (entries.reverse.find? fun entry => entry.1 = name).isSome := by
    rw [List.find?_isSome]
    exact ⟨_, List.mem_reverse.mpr member, decide_eq_true rfl⟩
  obtain ⟨entry, found⟩ := Option.isSome_iff_exists.mp found
  have same : entry = (name, value) := by
    have listed := List.mem_reverse.mp (List.mem_of_find?_eq_some found)
    exact List.inj_on_of_nodup_map distinct listed member
      (by simpa using List.find?_some found)
  rw [find?_ofList, found, same]
  rfl

/-- The entries of a map give the map in whichever order they are put. -/
theorem ofList_of_perm {map : NameMap Entry} {entries : List (String × Entry)}
    (perm : entries.Perm map.entries) : ofList entries = map := by
  have distinct : (entries.map Prod.fst).Nodup :=
    (perm.map Prod.fst).nodup_iff.mpr map.nodup_keys
  apply ext_find?
  intro name
  cases found : map.find? name with
  | some value =>
      exact find?_ofList_of_mem distinct (perm.mem_iff.mpr (find?_eq_some_iff.mp found))
  | none =>
      rw [find?_ofList_eq_none_iff, (perm.map Prod.fst).mem_iff, ← isSome_find?_iff, found]
      exact Bool.false_ne_true

/-- The keys of the map of a list are the names in the list, each once. -/
theorem keys_ofList_perm (entries : List (String × Entry)) :
    ((ofList entries).entries.map Prod.fst).Perm (entries.map Prod.fst).dedup := by
  apply (List.perm_ext_iff_of_nodup (nodup_keys _) (List.nodup_dedup _)).mpr
  intro name
  rw [List.mem_dedup, ← isSome_find?_iff, ← not_iff_not, Bool.not_eq_true,
    Option.isSome_eq_false_iff, Option.isNone_iff_eq_none, find?_ofList_eq_none_iff]

theorem size_ofList (entries : List (String × Entry)) :
    (ofList entries).size = (entries.map Prod.fst).dedup.length := by
  rw [← (keys_ofList_perm entries).length_eq, List.length_map, size]

end FormWidgets.NameMap
