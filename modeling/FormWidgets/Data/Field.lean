import FormWidgets.Data.Scalar
import FormWidgets.NameMap

/-!
# Fields of records

Reading the fields of a record and the values in them.  Fields that are not
asked for are ignored; a field that is asked for may be given once.
-/

namespace FormWidgets

namespace Data

/-- A text, also one that is written without quotes. -/
def text? : Data → Option String
  | .text content => some content
  | .written scalar => some scalar.text
  | _ => none

/-- A truth value. -/
def bool? : Data → Option Bool
  | .bool flag => some flag
  | .written scalar => scalar.bool?
  | _ => none

/-- A natural number of 32 bits. -/
def word? (data : Data) : Option UInt32 :=
  let value :=
    match data with
    | .natural value => some value
    | .written scalar => scalar.natural?
    | _ => none
  (value.filter fun value => decide (value < UInt32.size)).map UInt32.ofNat

/-- A part that may be absent. -/
def optional {Part : Type} (read : Data → Option Part) (data : Data) : Option (Option Part) :=
  match data with
  | .null => some none
  | .written scalar =>
      match scalar.isAbsent? with
      | some true => some none
      | some false => (read data).map some
      | none => none
  | _ => (read data).map some

/-- The items of a list; a place left empty holds none. -/
def items? : Data → Option (List Data)
  | .list items => some items
  | .labelled (.list items) => some items
  | .written scalar => if scalar.isEmpty then some [] else none
  | _ => none

/-- A list of parts. -/
def listOf? {Part : Type} (read : Data → Option Part) (data : Data) :
    Option (List Part) := do
  let items ← items? data
  items.mapM read

/-- A map from names to texts, of whose entries a later one replaces an earlier one. -/
def textTable? : Data → Option (NameMap String)
  | .record entries => do
      let texts ← entries.mapM fun (key, value) => do
        let name ← text? key
        let content ← text? value
        some (name, content)
      some (NameMap.ofList texts)
  | _ => none

/-- A map from names to texts as a record. -/
def ofTextTable (table : NameMap String) : Data :=
  .record (table.entries.map fun (name, content) => field name (.text content))

/-- The field that a key stands for: some name, or none for a field that is not asked for. -/
def keyedField? (form : Notation) (names : List String) (key : Data) :
    Option (Option String) :=
  match form, key with
  | .settled, .natural position => some names[position]?
  | .settled, .text name => some (names.find? fun other => decide (other = name))
  | .settled, _ => none
  | _, key => (text? key).map fun name => names.find? fun other => decide (other = name)

/-- The fields among entries; nothing when a field is given twice or a key is none. -/
def collect {Entry : Type} (form : Notation) (names : List String) :
    List (Data × Entry) → Option (NameMap Entry)
  | [] => some NameMap.empty
  | (key, value) :: rest => do
      let fields ← collect form names rest
      match ← keyedField? form names key with
      | none => some fields
      | some name => if fields.contains name then none else some (fields.put name value)

/-- The fields of a list that gives them in order; nothing when there are more items than fields. -/
def inOrder {Entry : Type} (names : List String) (items : List Entry) :
    Option (NameMap Entry) :=
  if items.length ≤ names.length then some (NameMap.ofList (names.zip items)) else none

/-- The fields of a record. -/
def fields? (form : Notation) (names : List String) : Data → Option (NameMap Data)
  | .record entries => collect form names entries
  | .labelled (.record entries) => collect form names entries
  | .written scalar => if scalar.isEmpty then some NameMap.empty else none
  | .list items => if form = .yaml then none else inOrder names items
  | _ => none

end Data

namespace NameMap

variable {Entry Part : Type} (fields : NameMap Entry)

/-- A field that must be given. -/
def required (name : String) (read : Entry → Option Part) : Option Part :=
  (fields.find? name).bind read

/-- A field with a default. -/
def defaulted (name : String) (default : Part) (read : Entry → Option Part) :
    Option Part :=
  match fields.find? name with
  | some value => read value
  | none => some default

end NameMap

/-- The value of the one entry under a name, and the other entries. -/
def Data.takeTag? {Entry : Type} (name : String) (entries : List (Data × Entry)) :
    Option (Entry × List (Data × Entry)) :=
  let isTag (entry : Data × Entry) : Bool :=
    match entry.1 with
    | .text key => decide (key = name)
    | _ => false
  match entries.filter isTag with
  | [(_, tag)] => some (tag, entries.filter fun entry => !isTag entry)
  | _ => none

end FormWidgets
