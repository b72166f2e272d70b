import FormWidgets.Toml.Value

/-!
# Building tables

Adding to the table that a path of keys leads to.  A table is defined once: a
header may only complete a table that other headers imply, and keys with dots
may only add to tables that keys with dots made.
-/

namespace FormWidgets.Toml

/-- How a path of keys is followed. -/
structure PathRule where
  /-- How a missing table comes about. -/
  missing : TableOrigin
  /-- Which tables on the way may be entered. -/
  mayEnter : TableOrigin → Bool

namespace PathRule

/-- The way to a table that has a header. -/
def header : PathRule where
  missing := .implied
  mayEnter origin := origin ≠ .inlined

/-- The way along a key with dots. -/
def dotted : PathRule where
  missing := .dotted
  mayEnter origin := origin = .implied || origin = .dotted

end PathRule

namespace Entries

/-- Change the table at the end of a path; of repeated tables the last is entered. -/
def changeAt? (rule : PathRule) (change : TableOrigin → Entries → Option Entries) :
    List String → TableOrigin → Entries → Option Entries
  | [], origin, entries => change origin entries
  | key :: path, _, entries =>
      match entries.find? key with
      | none => do
          let inner ← changeAt? rule change path rule.missing []
          some (entries.put key (.table rule.missing inner))
      | some (.table origin inner) =>
          if rule.mayEnter origin then do
            let inner ← changeAt? rule change path origin inner
            some (entries.put key (.table origin inner))
          else none
      | some (.tables items) =>
          match items.getLast? with
          | some (.table origin inner) => do
              let inner ← changeAt? rule change path origin inner
              some (entries.put key (.tables (items.dropLast ++ [.table origin inner])))
          | _ => none
      | some _ => none

/-- Add a value under a new key. -/
def addNew? (key : String) (value : Value) (entries : Entries) : Option Entries :=
  if (entries.find? key).isSome then none else some (entries.put key value)

/-- Add a value under a key with dots, given as the way to it and its last part. -/
def addDotted? (path : List String) (key : String) (value : Value)
    (origin : TableOrigin) (entries : Entries) : Option Entries :=
  changeAt? .dotted
    (fun reached inner =>
      if path.isEmpty || reached = .dotted then addNew? key value inner else none)
    path origin entries

/-- Define the table of a header. -/
def defineTable? (path : List String) (key : String) (entries : Entries) :
    Option Entries :=
  changeAt? .header
    (fun _ inner =>
      match inner.find? key with
      | none => some (inner.put key (.table .header []))
      | some (.table .implied defined) => some (inner.put key (.table .header defined))
      | some _ => none)
    path .header entries

/-- Add one more to the tables of a repeated header. -/
def appendTable? (path : List String) (key : String) (entries : Entries) :
    Option Entries :=
  changeAt? .header
    (fun _ inner =>
      match inner.find? key with
      | none => some (inner.put key (.tables [.table .header []]))
      | some (.tables items) =>
          some (inner.put key (.tables (items ++ [.table .header []])))
      | some _ => none)
    path .header entries

end Entries

end FormWidgets.Toml
