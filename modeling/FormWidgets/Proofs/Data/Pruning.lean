import FormWidgets.Data.Scalar
import Mathlib

/-!
# Data without some of its null fields

A tree is pruned by taking out any fields that hold null, at any depth.  Records
say nothing by the order of their fields, so a pruned tree may list them in any
order.

Pruning keeps the shape of what it leaves: a scalar stays as it is, a list keeps
its items and their order, a record stays a record.
-/

namespace FormWidgets.Data

mutual

/-- The second tree is the first without some of its null fields, in whatever order. -/
inductive Pruned : Data → Data → Prop where
  | same (data : Data) : Pruned data data
  | list {items shown : List Data} (each : PrunedItems items shown) :
      Pruned (.list items) (.list shown)
  | record {entries kept shown : List (Data × Data)} (fields : PrunedEntries entries kept)
      (order : kept.Perm shown) : Pruned (.record entries) (.record shown)

/-- Each item is pruned, and none is taken out. -/
inductive PrunedItems : List Data → List Data → Prop where
  | nil : PrunedItems [] []
  | cons {item shown : Data} {rest others : List Data} (first : Pruned item shown)
      (later : PrunedItems rest others) : PrunedItems (item :: rest) (shown :: others)

/-- Each entry is kept with a pruned value, or taken out if its value is null. -/
inductive PrunedEntries : List (Data × Data) → List (Data × Data) → Prop where
  | nil : PrunedEntries [] []
  | keep {key value shown : Data} {rest others : List (Data × Data)}
      (first : Pruned value shown) (later : PrunedEntries rest others) :
      PrunedEntries ((key, value) :: rest) ((key, shown) :: others)
  | drop {key : Data} {rest others : List (Data × Data)}
      (later : PrunedEntries rest others) : PrunedEntries ((key, .null) :: rest) others

end

theorem PrunedItems.same (items : List Data) : PrunedItems items items := by
  induction items with
  | nil => exact .nil
  | cons item rest step => exact .cons (.same item) step

theorem PrunedEntries.same (entries : List (Data × Data)) :
    PrunedEntries entries entries := by
  induction entries with
  | nil => exact .nil
  | cons entry rest step => exact .keep (.same entry.2) step

/-! ## The shape of what is left -/

/-- A part without parts of its own. -/
def IsScalar : Data → Prop
  | .list _ | .record _ => False
  | _ => True

/-- A part that says by itself that it is there. -/
def IsPresent : Data → Prop
  | .null | .written _ => False
  | _ => True

namespace Pruned

variable {data shown : Data}

theorem eq_of_isScalar (pruned : Pruned data shown) (scalar : data.IsScalar) :
    shown = data := by
  cases pruned with
  | same => rfl
  | list | record => exact scalar.elim

theorem isPresent (pruned : Pruned data shown) (present : data.IsPresent) :
    shown.IsPresent := by
  cases pruned with
  | same => exact present
  | list | record => trivial

theorem of_list {items : List Data} (pruned : Pruned (.list items) shown) :
    ∃ others, shown = .list others ∧ PrunedItems items others := by
  cases pruned with
  | same => exact ⟨items, rfl, .same items⟩
  | list each => exact ⟨_, rfl, each⟩

theorem of_record {entries : List (Data × Data)} (pruned : Pruned (.record entries) shown) :
    ∃ kept others, shown = .record others ∧ PrunedEntries entries kept ∧
      kept.Perm others := by
  cases pruned with
  | same => exact ⟨entries, entries, rfl, .same entries, .refl _⟩
  | record fields order => exact ⟨_, _, rfl, fields, order⟩

end Pruned

namespace PrunedEntries

variable {entries kept : List (Data × Data)}

theorem keys_sublist (pruned : PrunedEntries entries kept) :
    (kept.map Prod.fst).Sublist (entries.map Prod.fst) := by
  induction entries generalizing kept with
  | nil =>
      cases pruned
      exact .slnil
  | cons entry rest step =>
      cases pruned with
      | keep first later => exact (step later).cons_cons _
      | drop later => exact (step later).cons _

/-- What is left of an entry: its key with a pruned value, or nothing of a null. -/
theorem exists_of_mem (pruned : PrunedEntries entries kept)
    (distinct : (entries.map Prod.fst).Nodup) {key value : Data}
    (member : (key, value) ∈ entries) :
    (∃ shown, (key, shown) ∈ kept ∧ Pruned value shown) ∨
      value = .null ∧ key ∉ kept.map Prod.fst := by
  induction entries generalizing kept with
  | nil => cases member
  | cons entry rest step =>
      rcases List.nodup_cons.mp distinct with ⟨fresh, restDistinct⟩
      rcases List.mem_cons.mp member with same | later
      · cases same
        cases pruned with
        | keep first later => exact .inl ⟨_, List.mem_cons_self, first⟩
        | drop later =>
            exact .inr ⟨rfl, fun listed => fresh (later.keys_sublist.subset listed)⟩
      · have other : key ∈ rest.map Prod.fst := List.mem_map_of_mem later
        cases pruned with
        | keep first pruned =>
            rcases step pruned restDistinct later with ⟨shown, left, pruned⟩ | ⟨null, gone⟩
            · exact .inl ⟨shown, List.mem_cons_of_mem _ left, pruned⟩
            · refine .inr ⟨null, fun listed => ?_⟩
              rcases List.mem_cons.mp listed with rfl | listed
              · exact fresh other
              · exact gone listed
        | drop pruned => exact step pruned restDistinct later

/-- Of entries with no null among them none is taken out. -/
theorem eq_of_isScalar (pruned : PrunedEntries entries kept)
    (scalar : ∀ entry ∈ entries, entry.2.IsScalar ∧ entry.2 ≠ .null) : kept = entries := by
  induction entries generalizing kept with
  | nil =>
      cases pruned
      rfl
  | cons entry rest step =>
      rcases List.forall_mem_cons.mp scalar with ⟨first, rest⟩
      cases pruned with
      | keep shown later => rw [shown.eq_of_isScalar first.1, step later rest]
      | drop later => exact absurd rfl first.2

end PrunedEntries

/-! ## Every null field taken out -/

mutual

/-- Data without any of its null fields. -/
def withoutNulls : Data → Data
  | .list items => .list (itemsWithoutNulls items)
  | .record entries => .record (entriesWithoutNulls entries)
  | data => data

/-- Items without any of their null fields. -/
def itemsWithoutNulls : List Data → List Data
  | [] => []
  | item :: rest => withoutNulls item :: itemsWithoutNulls rest

/-- Entries without those of nulls, and with nothing of null in the others. -/
def entriesWithoutNulls : List (Data × Data) → List (Data × Data)
  | [] => []
  | (_, .null) :: rest => entriesWithoutNulls rest
  | (key, value) :: rest => (key, withoutNulls value) :: entriesWithoutNulls rest

end

mutual

theorem pruned_withoutNulls : ∀ data : Data, Pruned data data.withoutNulls
  | .list items => by
      rw [withoutNulls]
      exact .list (pruned_itemsWithoutNulls items)
  | .record entries => by
      rw [withoutNulls]
      exact .record (pruned_entriesWithoutNulls entries) (.refl _)
  | .null | .bool _ | .natural _ | .number | .text _ | .written _ | .labelled _
  | .unreadable => by
      rw [withoutNulls]
      exact .same _
      all_goals exact nofun

theorem pruned_itemsWithoutNulls :
    ∀ items : List Data, PrunedItems items (itemsWithoutNulls items)
  | [] => .nil
  | item :: rest => .cons (pruned_withoutNulls item) (pruned_itemsWithoutNulls rest)

theorem pruned_entriesWithoutNulls :
    ∀ entries : List (Data × Data), PrunedEntries entries (entriesWithoutNulls entries)
  | [] => .nil
  | (key, value) :: rest => by
      have others := pruned_entriesWithoutNulls rest
      by_cases null : value = .null
      · subst null
        rw [entriesWithoutNulls]
        exact .drop others
      · rw [entriesWithoutNulls]
        exact .keep (pruned_withoutNulls value) others
        exact null

end

/-! ## Settled data -/

/-- Data in which nothing is left to be decided by its place. -/
def IsSettled (data : Data) : Prop :=
  data.settle = some data

theorem settleItems_eq_self_iff {items : List Data} :
    settleItems items = some items ↔ ∀ item ∈ items, item.IsSettled := by
  induction items with
  | nil => simp [settleItems]
  | cons item rest step =>
      simp [settleItems, IsSettled, Option.bind_eq_some_iff, step]

theorem settleEntries_eq_self_iff {entries : List (Data × Data)} :
    settleEntries entries = some entries ↔
      ∀ entry ∈ entries, entry.1.IsSettled ∧ entry.2.IsSettled := by
  induction entries with
  | nil => simp [settleEntries]
  | cons entry rest step =>
      rcases entry with ⟨key, value⟩
      simp [settleEntries, IsSettled, Option.bind_eq_some_iff, step, and_assoc]

@[simp]
theorem isSettled_null : null.IsSettled := rfl

@[simp]
theorem isSettled_bool (flag : Bool) : (bool flag).IsSettled := rfl

@[simp]
theorem isSettled_natural (value : Nat) : (natural value).IsSettled := rfl

@[simp]
theorem isSettled_text (content : String) : (text content).IsSettled := rfl

@[simp]
theorem isSettled_list {items : List Data} :
    (list items).IsSettled ↔ ∀ item ∈ items, item.IsSettled := by
  rw [← settleItems_eq_self_iff]
  simp [IsSettled, settle, Option.bind_eq_some_iff]

@[simp]
theorem isSettled_record {entries : List (Data × Data)} :
    (record entries).IsSettled ↔ ∀ entry ∈ entries, entry.1.IsSettled ∧ entry.2.IsSettled := by
  rw [← settleEntries_eq_self_iff]
  simp [IsSettled, settle, Option.bind_eq_some_iff]

@[simp]
theorem isSettled_ofOption {Part : Type} {write : Part → Data} {part : Option Part} :
    (ofOption write part).IsSettled ↔ ∀ inner ∈ part, (write inner).IsSettled := by
  cases part <;> simp [ofOption]

mutual

/-- Settled data stays settled when null fields are taken out. -/
theorem Pruned.isSettled {data shown : Data} :
    Pruned data shown → data.IsSettled → shown.IsSettled
  | .same _, settled => settled
  | .list each, settled => isSettled_list.mpr (each.isSettled (isSettled_list.mp settled))
  | .record fields order, settled => by
      rw [isSettled_record] at settled ⊢
      intro entry member
      exact fields.isSettled settled entry (order.mem_iff.mpr member)

theorem PrunedItems.isSettled {items shown : List Data} :
    PrunedItems items shown → (∀ item ∈ items, item.IsSettled) →
      ∀ item ∈ shown, item.IsSettled
  | .nil, settled => settled
  | .cons first later, settled => by
      rw [List.forall_mem_cons] at settled ⊢
      exact ⟨first.isSettled settled.1, later.isSettled settled.2⟩

theorem PrunedEntries.isSettled {entries kept : List (Data × Data)} :
    PrunedEntries entries kept →
      (∀ entry ∈ entries, entry.1.IsSettled ∧ entry.2.IsSettled) →
      ∀ entry ∈ kept, entry.1.IsSettled ∧ entry.2.IsSettled
  | .nil, settled => settled
  | .keep first later, settled => by
      rw [List.forall_mem_cons] at settled ⊢
      exact ⟨⟨settled.1.1, first.isSettled settled.1.2⟩, later.isSettled settled.2⟩
  | .drop later, settled => later.isSettled (List.forall_mem_cons.mp settled).2

end

end FormWidgets.Data
