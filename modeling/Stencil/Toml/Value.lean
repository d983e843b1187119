import Stencil.Numeral.Double

/-!
The values of a TOML document, and how its tables are built. A table may be made in several ways,
and these decide what may be added to it later.
-/

namespace Stencil.Toml

inductive Origin
  /-- Made as the parent of a table with a header. -/
  | implied
  /-- Made by a dotted key. -/
  | dotted
  /-- Has a header of its own. -/
  | declared
  /-- Written as a value; nothing can be added. -/
  | closed
  deriving DecidableEq

inductive Value
  | text (value : String)
  | integer (value : Int)
  | float (value : Double)
  | boolean (value : Bool)
  /-- A date, a time, or both, as it is written. -/
  | moment (text : String)
  | list (items : List Value)
  | table (origin : Origin) (entries : List (String × Value))
  /-- A list of tables with headers, the latest one in front. -/
  | tables (latest : List (String × Value)) (earlier : List (List (String × Value)))

abbrev Entries := List (String × Value)

namespace Entries

def put (key : String) (value : Value) (entries : Entries) : Option Entries :=
  if (entries.lookup key).isSome then none else some (entries ++ [(key, value)])

def replace (key : String) (value : Value) (entries : Entries) : Entries :=
  entries.map fun (other, old) => (other, if other = key then value else old)

/-- Whether a path may go through a table. A dotted key may not enter a table with a header, and the
last table on its way has to come from a dotted key. -/
def passes (dotted last : Bool) : Origin → Bool
  | .closed => false
  | .declared => !dotted
  | .implied => !(dotted && last)
  | .dotted => true

/-- Changes the table that a path leads to; tables missing on the way are made. A list of tables
stands for its latest one. -/
def update (dotted : Bool) (change : Entries → Option Entries) :
    List String → Entries → Option Entries
  | [], entries => change entries
  | key :: path, entries =>
      let last := path.isEmpty
      match entries.lookup key with
      | none =>
          (update dotted change path []).map fun inner =>
            entries ++ [(key, .table (if dotted then .dotted else .implied) inner)]
      | some (.table origin inner) =>
          if passes dotted last origin then
            (update dotted change path inner).map fun inner =>
              replace key (.table origin inner) entries
          else none
      | some (.tables latest earlier) =>
          if passes dotted last .implied then
            (update dotted change path latest).map fun latest =>
              replace key (.tables latest earlier) entries
          else none
      | some _ => none

/-- Gives a table its header. It must be new, or known only as a parent. -/
def declare (key : String) (entries : Entries) : Option Entries :=
  match entries.lookup key with
  | none => some (entries ++ [(key, .table .declared [])])
  | some (.table .implied inner) => some (replace key (.table .declared inner) entries)
  | some _ => none

def extend (key : String) (entries : Entries) : Option Entries :=
  match entries.lookup key with
  | none => some (entries ++ [(key, .tables [] [])])
  | some (.tables latest earlier) => some (replace key (.tables [] (latest :: earlier)) entries)
  | some _ => none

end Entries

structure Key where
  path : List String
  last : String

namespace Key

def parts (key : Key) : List String := key.path ++ [key.last]

def put (key : Key) (value : Value) (entries : Entries) : Option Entries :=
  entries.update true (·.put key.last value) key.path

end Key

inductive Statement
  | header (key : Key)
  | listHeader (key : Key)
  | entry (key : Key) (value : Value)

/-- A document in the making, and the path of the table that entries go to. -/
structure Draft where
  root : Entries
  current : List String

namespace Draft

def add (draft : Draft) : Statement → Option Draft
  | .header key => do
      let root ← draft.root.update false (·.declare key.last) key.path
      return ⟨root, key.parts⟩
  | .listHeader key => do
      let root ← draft.root.update false (·.extend key.last) key.path
      return ⟨root, key.parts⟩
  | .entry key value => do
      let root ← draft.root.update false (key.put value) draft.current
      return { draft with root }

end Draft

def assemble (statements : List Statement) : Option Entries :=
  (statements.foldlM Draft.add ⟨[], []⟩).map Draft.root

end Stencil.Toml
