/-!
# TOML tables

The tables of a TOML document. Of the values only texts are kept; other values are checked when they
are read, and then stand for themselves as `other`.

A table remembers how it came about, because that decides who may add to it: a table is *implicit*
until a header names it, and *dotted* if it was made by a key with dots.

* `Toml.Table` is the type of tables.
* `Toml.Table.insert?` adds a value under a dotted key.
* `Toml.Table.update?` changes the table to which a header's names lead.
-/

namespace WebTrip.Toml

/-- A value. -/
inductive Value where
  | text (s : String)
  /-- A value that is not a text. -/
  | other
  deriving DecidableEq

mutual

/-- What stands under a name. -/
inductive Item where
  | value (v : Value)
  | table (t : Table)
  /-- An array of tables, latest first. -/
  | tables (ts : List Table)

/-- A table. -/
inductive Table where
  | mk (isImplicit dotted : Bool) (entries : List (String × Item))

end

instance : Inhabited Table := ⟨.mk false false []⟩

namespace Table

/-- Whether no header has named the table yet. -/
def isImplicit : Table → Bool
  | .mk isImplicit _ _ => isImplicit

/-- Whether the table was made by a key with dots. -/
def dotted : Table → Bool
  | .mk _ dotted _ => dotted

/-- The names in a table and what stands under them. -/
def entries : Table → List (String × Item)
  | .mk _ _ entries => entries

/-- A table that no header has named. -/
def fresh (dotted : Bool) : Table :=
  .mk true dotted []

/-- The table with other entries. -/
def withEntries (t : Table) (entries : List (String × Item)) : Table :=
  .mk t.isImplicit t.dotted entries

/-- What stands under a name. -/
def find? (t : Table) (name : String) : Option Item :=
  t.entries.lookup name

/-- Puts something under a name in place of what stood there. -/
def put (t : Table) (name : String) (item : Item) : Table :=
  t.withEntries ((name, item) :: t.entries.filter fun entry => entry.1 != name)

/-- Changes the table to which a path of names leads; missing tables are made on the way. Under an
array of tables the way goes on in the last of them. Along a dotted key it must not lead through
tables that a header has named. -/
def update? (dotted : Bool) (change : Table → Option Table) : List String → Table → Option Table
  | [], t => change t
  | name :: path, t =>
    match t.find? name with
    | none => do return t.put name (.table (← update? dotted change path (fresh dotted)))
    | some (.table inner) =>
      if dotted && !inner.isImplicit then none
      else do return t.put name (.table (← update? dotted change path inner))
    | some (.tables (last :: others)) => do
      return t.put name (.tables ((← update? dotted change path last) :: others))
    | some (.tables []) => none
    | some (.value _) => none

/-- Adds a value under a name that is still free. -/
def insertHere? (viaDots : Bool) (name : String) (v : Value) (t : Table) : Option Table :=
  if t.dotted != viaDots then none
  else if (t.find? name).isSome then none
  else some (t.put name (.value v))

/-- Adds a value under a key, whose last name is `name` and whose other names are `path`. -/
def insert? (t : Table) (path : List String) (name : String) (v : Value) : Option Table :=
  update? true (insertHere? (!path.isEmpty) name v) path t

/-- Opens a table for a header: a new one, or one that only headers below it have mentioned. -/
def openHere? (name : String) (t : Table) : Option Table :=
  match t.find? name with
  | none => some (t.put name (.table (.mk false false [])))
  | some (.table inner) =>
    if inner.isImplicit && !inner.dotted then
      some (t.put name (.table (.mk false false inner.entries)))
    else none
  | some _ => none

/-- Opens the next table of an array of tables. -/
def appendHere? (name : String) (t : Table) : Option Table :=
  match t.find? name with
  | none => some (t.put name (.tables [.mk false false []]))
  | some (.tables ts) => some (t.put name (.tables (.mk false false [] :: ts)))
  | some _ => none

end Table

end WebTrip.Toml
