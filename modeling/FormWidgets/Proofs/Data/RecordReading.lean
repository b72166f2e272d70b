import FormWidgets.Data.Field
import FormWidgets.Proofs.Data.Pruning
import FormWidgets.Proofs.NameMap.Lookup
import Mathlib

/-!
# Reading a record with fields left out

A record is written with every field of a part; what is read may lack some of
those that hold null.  Under every name of the part, the fields of the record
that is read hold what was written, or nothing in place of a null.
-/

namespace FormWidgets.Data

variable {Entry Part : Type} {shows : Data → Entry → Prop}
  {written : List (Data × Data)} {shown : List (Data × Entry)}

/-- Entries under distinct names. -/
structure HasNames (entries : List (Data × Entry)) : Prop where
  texts : ∀ entry ∈ entries, ∃ name, entry.1 = .text name
  distinct : (entries.map Prod.fst).Nodup

/--
Entries that show what is written: under each key what stands for its value, or
nothing in place of a null.
-/
structure Renders (shows : Data → Entry → Prop) (written : List (Data × Data))
    (shown : List (Data × Entry)) : Prop where
  named : HasNames shown
  entry : ∀ key value, (key, value) ∈ written →
    (∃ entry, (key, entry) ∈ shown ∧ shows value entry) ∨
      value = .null ∧ key ∉ shown.map Prod.fst

/-- Fields hold what a written entry says, or nothing in place of a null. -/
inductive Holds (shows : Data → Entry → Prop) (fields : NameMap Entry) :
    Data × Data → Prop where
  | found {name : String} {value : Data} {entry : Entry}
      (given : fields.find? name = some entry) (shown : shows value entry) :
      Holds shows fields (.text name, value)
  | leftOut {name : String} (missing : fields.find? name = none) :
      Holds shows fields (.text name, .null)

namespace HasNames

theorem of_names {entries : List (Data × Entry)} {names : List String}
    (keys : entries.map Prod.fst = names.map .text) (distinct : names.Nodup) :
    HasNames entries where
  texts entry member := by
    have key : entry.1 ∈ names.map .text := keys ▸ List.mem_map_of_mem member
    rcases List.mem_map.mp key with ⟨name, -, same⟩
    exact ⟨name, same.symm⟩
  distinct := by
    rw [keys]
    exact distinct.map fun _ _ => text.inj

theorem filter {entries : List (Data × Entry)} (named : HasNames entries)
    (keep : Data × Entry → Bool) : HasNames (entries.filter keep) where
  texts entry member := named.texts entry (List.mem_of_mem_filter member)
  distinct := named.distinct.sublist (List.filter_sublist.map _)

theorem tail {first : Data × Entry} {rest : List (Data × Entry)}
    (named : HasNames (first :: rest)) : HasNames rest where
  texts entry member := named.texts entry (List.mem_cons_of_mem _ member)
  distinct := (List.nodup_cons.mp named.distinct).2

theorem eq_of_mem {entries : List (Data × Entry)} (named : HasNames entries)
    {left right : Data × Entry} (inLeft : left ∈ entries) (inRight : right ∈ entries)
    (same : left.1 = right.1) : left = right :=
  List.inj_on_of_nodup_map named.distinct inLeft inRight same

end HasNames

theorem keyedField?_text (form : Notation) (names : List String) (name : String) :
    keyedField? form names (.text name) = some (if name ∈ names then some name else none) := by
  have asked : (names.find? fun other => decide (other = name)) =
      if name ∈ names then some name else none := by
    induction names with
    | nil => rfl
    | cons first rest step =>
        by_cases same : first = name
        · simp [same]
        · simp [same, Ne.symm same, step]
  cases form <;> exact congrArg some asked

/-- Reading fields of entries with names never fails, and finds the entry under each name. -/
theorem exists_collect (form : Notation) (names : List String) (named : HasNames shown) :
    ∃ fields, collect form names shown = some fields ∧
      ∀ name entry, fields.find? name = some entry ↔
        name ∈ names ∧ (.text name, entry) ∈ shown := by
  induction shown with
  | nil => exact ⟨.empty, rfl, by simp⟩
  | cons first rest step =>
      rcases first with ⟨key, value⟩
      rcases named.texts _ List.mem_cons_self with ⟨name, rfl⟩
      rcases List.nodup_cons.mp named.distinct with ⟨fresh, -⟩
      rcases step named.tail with ⟨fields, collected, finds⟩
      have absent : ∀ entry, (text name, entry) ∉ rest := by
        intro entry member
        exact fresh (List.mem_map.mpr ⟨_, member, rfl⟩)
      have unseen : fields.find? name = none := by
        rw [Option.eq_none_iff_forall_ne_some]
        intro entry found
        exact absent entry ((finds name entry).mp found).2
      by_cases asked : name ∈ names
      · refine ⟨fields.put name value, ?_, ?_⟩
        · simp [collect, collected, keyedField?_text, asked, NameMap.contains, unseen]
        · intro other entry
          rw [NameMap.find?_put]
          by_cases same : other = name
          · subst same
            simp [asked, absent, eq_comm]
          · simp [same, finds]
      · refine ⟨fields, ?_, ?_⟩
        · simp [collect, collected, keyedField?_text, asked]
        · intro other entry
          rw [finds, List.mem_cons, Prod.mk.injEq, text.injEq]
          grind

/-- Whether a key is the one of the tag. -/
def isTag (name : String) : Data → Bool
  | .text key => decide (key = name)
  | _ => false

theorem isTag_iff {name : String} {key : Data} : isTag name key ↔ key = .text name := by
  cases key <;> simp [isTag]

theorem takeTag?_eq_match (name : String) (entries : List (Data × Entry)) :
    takeTag? name entries =
      match entries.filter fun entry => isTag name entry.1 with
      | [(_, tag)] => some (tag, entries.filter fun entry => !isTag name entry.1)
      | _ => none := rfl

theorem takeTag?_eq_some {name : String} {tag : Entry} (named : HasNames shown)
    (member : (text name, tag) ∈ shown) :
    takeTag? name shown = some (tag, shown.filter fun entry => !isTag name entry.1) := by
  have only : (shown.filter fun entry => isTag name entry.1) = [(text name, tag)] := by
    apply List.perm_singleton.mp
    apply (List.perm_ext_iff_of_nodup (named.filter _).distinct.of_map
      (List.nodup_singleton _)).mpr
    intro other
    rw [List.mem_filter, List.mem_singleton, isTag_iff]
    constructor
    · rintro ⟨inside, same⟩
      exact named.eq_of_mem inside member same
    · rintro rfl
      exact ⟨member, rfl⟩
  rw [takeTag?_eq_match, only]

namespace Renders

theorem of_subset (renders : Renders shows written shown) {part : List (Data × Data)}
    (inside : part ⊆ written) : Renders shows part shown where
  named := renders.named
  entry key value member := renders.entry key value (inside member)

theorem filter (renders : Renders shows written shown) {part : List (Data × Data)}
    (keep : Data → Bool) (inside : ∀ entry ∈ part, entry ∈ written ∧ keep entry.1) :
    Renders shows part (shown.filter fun entry => keep entry.1) where
  named := renders.named.filter _
  entry key value member := by
    rcases inside _ member with ⟨inWritten, kept⟩
    rcases renders.entry key value inWritten with ⟨entry, inShown, shows⟩ | ⟨null, absent⟩
    · exact .inl ⟨entry, List.mem_filter.mpr ⟨inShown, kept⟩, shows⟩
    · refine .inr ⟨null, fun listed => absent ?_⟩
      exact (List.filter_sublist.map _).subset listed

/-- The fields of entries hold what is written under the names that are asked for. -/
theorem exists_fields (renders : Renders shows written shown) (form : Notation)
    (names : List String) (keys : written.map Prod.fst = names.map .text) :
    ∃ fields, collect form names shown = some fields ∧
      written.Forall (Holds shows fields) := by
  rcases exists_collect form names renders.named with ⟨fields, collected, finds⟩
  refine ⟨fields, collected, List.forall_iff_forall_mem.mpr ?_⟩
  rintro ⟨key, value⟩ member
  have listed : key ∈ names.map .text := keys ▸ List.mem_map_of_mem member
  rcases List.mem_map.mp listed with ⟨name, asked, rfl⟩
  rcases renders.entry _ value member with ⟨entry, inShown, shows⟩ | ⟨rfl, absent⟩
  · exact .found ((finds name entry).mpr ⟨asked, inShown⟩) shows
  · refine .leftOut (Option.eq_none_iff_forall_ne_some.mpr fun entry found => absent ?_)
    exact List.mem_map_of_mem ((finds name entry).mp found).2

theorem map {Other : Type} {shows' : Data → Other → Prop}
    (renders : Renders shows written shown) (carry : Entry → Other)
    (carries : ∀ value entry, shows value entry → shows' value (carry entry)) :
    Renders shows' written (shown.map fun entry => (entry.1, carry entry.2)) where
  named :=
    { texts := fun entry member => by
        rcases List.mem_map.mp member with ⟨source, inside, rfl⟩
        exact renders.named.texts source inside
      distinct := by
        rw [List.map_map]
        exact renders.named.distinct }
  entry key value member := by
    rcases renders.entry key value member with ⟨entry, inside, stands⟩ | ⟨null, absent⟩
    · exact .inl ⟨carry entry, List.mem_map_of_mem inside, carries value entry stands⟩
    · refine .inr ⟨null, ?_⟩
      rw [List.map_map]
      exact absent

/-- The tag of a record is taken out, and the other entries show the fields beside it. -/
theorem exists_takeTag? {name tag : String}
    (renders : Renders shows (textField name tag :: written) shown) {names : List String}
    (keys : written.map Prod.fst = names.map .text) (fresh : name ∉ names) :
    ∃ entry others, takeTag? name shown = some (entry, others) ∧
      shows (.text tag) entry ∧ Renders shows written others := by
  obtain ⟨entry, member, stands⟩ :
      ∃ entry, (text name, entry) ∈ shown ∧ shows (.text tag) entry := by
    simpa using renders.entry _ _ List.mem_cons_self
  refine ⟨entry, _, takeTag?_eq_some renders.named member, stands, ?_⟩
  apply renders.filter fun key => !isTag name key
  intro field inside
  refine ⟨List.mem_cons_of_mem _ inside, ?_⟩
  rw [Bool.not_eq_true', ← Bool.not_eq_true, isTag_iff]
  intro same
  have listed : field.1 ∈ names.map text := keys ▸ List.mem_map_of_mem inside
  rw [same, List.mem_map_of_injective fun _ _ => text.inj] at listed
  exact fresh listed

end Renders

/-! ## Entries left of a written record -/

theorem PrunedEntries.renders {kept others : List (Data × Data)}
    (pruned : PrunedEntries written kept) (order : kept.Perm others)
    (named : HasNames written) : Renders Pruned written others where
  named :=
    { texts := fun entry member => by
        have listed : entry.1 ∈ written.map Prod.fst :=
          pruned.keys_sublist.subset (List.mem_map_of_mem (order.mem_iff.mpr member))
        rcases List.mem_map.mp listed with ⟨source, inWritten, same⟩
        rw [← same]
        exact named.texts source inWritten
      distinct :=
        (order.map Prod.fst).nodup_iff.mp (named.distinct.sublist pruned.keys_sublist) }
  entry key value member := by
    rcases pruned.exists_of_mem named.distinct member with ⟨left, inKept, shown⟩ | ⟨null, gone⟩
    · exact .inl ⟨left, order.mem_iff.mp inKept, shown⟩
    · exact .inr ⟨null, fun listed => gone ((order.map Prod.fst).mem_iff.mpr listed)⟩

/-- The fields of what is left of a record hold what the record was written with. -/
theorem Pruned.exists_fields {data : Data} (pruned : Pruned (.record written) data)
    (form : Notation) (names : List String) (keys : written.map Prod.fst = names.map .text)
    (distinct : names.Nodup) :
    ∃ fields, data.fields? form names = some fields ∧
      written.Forall (Holds Pruned fields) := by
  rcases pruned.of_record with ⟨kept, others, rfl, entries, order⟩
  exact (entries.renders order (.of_names keys distinct)).exists_fields form names keys

/-! ## Reading what fields hold -/

/-- A reader gives a part from whatever is left of the part as it is written. -/
def ReadsBack (write : Part → Data) (read : Data → Option Part) (part : Part) : Prop :=
  ∀ data, Pruned (write part) data → read data = some part

namespace ReadsBack

theorem text (content : String) : ReadsBack .text text? content := by
  intro data pruned
  rw [pruned.eq_of_isScalar trivial]
  rfl

theorem bool (flag : Bool) : ReadsBack .bool bool? flag := by
  intro data pruned
  rw [pruned.eq_of_isScalar trivial]
  rfl

theorem word (value : UInt32) :
    ReadsBack (fun value => .natural value.toNat) word? value := by
  intro data pruned
  rw [pruned.eq_of_isScalar trivial]
  simp [word?, value.toNat_lt_size]

variable {write : Part → Data} {read : Data → Option Part}

theorem option {part : Option Part} (present : ∀ inner ∈ part, (write inner).IsPresent)
    (reads : ∀ inner ∈ part, ReadsBack write read inner) :
    ReadsBack (ofOption write) (optional read) part := by
  intro data pruned
  cases part with
  | none =>
      rw [pruned.eq_of_isScalar trivial]
      rfl
  | some inner =>
      have given := reads inner rfl data pruned
      have there := pruned.isPresent (present inner rfl)
      cases data <;> first | exact there.elim | simp [optional, given]

theorem optionalText (content : Option String) :
    ReadsBack (ofOption .text) (optional text?) content :=
  .option (fun _ _ => trivial) fun inner _ => .text inner

theorem items {parts : List Part} (reads : ∀ part ∈ parts, ReadsBack write read part)
    {items : List Data} (pruned : PrunedItems (parts.map write) items) :
    items.mapM read = some parts := by
  induction parts generalizing items with
  | nil =>
      cases pruned
      rfl
  | cons part rest step =>
      rcases List.forall_mem_cons.mp reads with ⟨first, later⟩
      cases pruned with
      | cons shown others => simp [first _ shown, step later others]

theorem list {parts : List Part} (reads : ∀ part ∈ parts, ReadsBack write read part) :
    ReadsBack (fun parts => .list (parts.map write)) (listOf? read) parts := by
  intro data pruned
  rcases pruned.of_list with ⟨others, rfl, each⟩
  exact items reads each

end ReadsBack

namespace Holds

variable {fields : NameMap Entry} {name : String} {value : Data} {read : Entry → Option Part}
  {part default : Part}

theorem required (held : Holds shows fields (field name value)) (present : value ≠ .null)
    (reads : ∀ entry, shows value entry → read entry = some part) :
    fields.required name read = some part := by
  cases held with
  | found given shown => rw [NameMap.required, given, Option.bind_some, reads _ shown]
  | leftOut missing => exact absurd rfl present

theorem defaulted (held : Holds shows fields (field name value))
    (absent : value = .null → default = part)
    (reads : ∀ entry, shows value entry → read entry = some part) :
    fields.defaulted name default read = some part := by
  cases held with
  | found given shown => rw [NameMap.defaulted, given]; exact reads _ shown
  | leftOut missing => rw [NameMap.defaulted, missing, absent rfl]

theorem optional {write : Part → Data} {part : Option Part}
    {read : Entry → Option (Option Part)}
    (held : Holds shows fields (field name (ofOption write part)))
    (present : ∀ inner ∈ part, (write inner).IsPresent)
    (reads : ∀ entry, shows (ofOption write part) entry → read entry = some part) :
    fields.defaulted name none read = some part := by
  apply held.defaulted _ reads
  intro null
  cases part with
  | none => rfl
  | some inner =>
      have there : IsPresent (ofOption write (some inner)) := present inner rfl
      rw [null] at there
      exact there.elim

theorem requiredText {fields : NameMap Data} {content : String}
    (held : Holds Pruned fields (textField name content)) :
    fields.required name text? = some content :=
  held.required nofun (ReadsBack.text content)

theorem option {Part : Type} {fields : NameMap Data} {write : Part → Data}
    {read : Data → Option Part} {part : Option Part}
    (held : Holds Pruned fields (field name (ofOption write part)))
    (present : ∀ inner ∈ part, (write inner).IsPresent)
    (reads : ∀ inner ∈ part, ReadsBack write read inner) :
    fields.defaulted name none (Data.optional read) = some part :=
  held.optional present (ReadsBack.option present reads)

theorem optionalText {fields : NameMap Data} {content : Option String}
    (held : Holds Pruned fields (optionalTextField name content)) :
    fields.defaulted name none (Data.optional text?) = some content :=
  held.option (fun _ _ => trivial) fun inner _ => ReadsBack.text inner

theorem flag {fields : NameMap Data} {flag default : Bool}
    (held : Holds Pruned fields (field name (.bool flag))) :
    fields.defaulted name default bool? = some flag :=
  held.defaulted nofun (ReadsBack.bool flag)

theorem list {Part : Type} {fields : NameMap Data} {write : Part → Data}
    {read : Data → Option Part} {parts : List Part}
    (held : Holds Pruned fields (field name (.list (parts.map write))))
    (reads : ∀ part ∈ parts, ReadsBack write read part) :
    fields.defaulted name [] (listOf? read) = some parts :=
  held.defaulted nofun (ReadsBack.list reads)

end Holds

end FormWidgets.Data
