import DashboardRefresh.Config.Datum

/-!
# TOML tables under construction

A document says where its entries go by keys and headers of several parts. A table remembers how it
came about, because that decides who may still add to it: a dotted key only to tables that dotted
keys made, a header only once to each table, and nobody to a value.
-/

namespace DashboardRefresh.Toml

/-- How a table came about. -/
inductive Origin where
  /-- By a header of its own, or as an inline table. -/
  | declared
  /-- On the way to a table with a header. -/
  | passed
  /-- On the way of a dotted key. -/
  | dotted
  deriving DecidableEq

inductive Node where
  | value (d : Datum)
  | table (origin : Origin) (entries : List (String × Node))
  /-- The tables of a header that may be repeated, all of them declared. -/
  | tables (items : List (List (String × Node)))

abbrev Entries := List (String × Node)

namespace Entries

/-- The entries with another node at a key that they have. -/
def replace (entries : Entries) (key : String) (node : Node) : Entries :=
  entries.map fun e => if e.1 = key then (key, node) else e

/-- The entries with a node at a key that they do not have yet. -/
def add? (entries : Entries) (key : String) (node : Node) : Option Entries :=
  if (entries.lookup key).isSome then none else some (entries ++ [(key, node)])

/-- Change the table at a path, and say something about it. Tables that are missing on the way are
made, as dotted or as passed; of a list of tables the last one is taken. A dotted key may not pass a
declared table. -/
def editAt {β : Type} (dotted : Bool) (f : Origin → Entries → Option (Entries × β)) :
    List String → Origin → Entries → Option (Entries × β)
  | [], origin, entries => f origin entries
  | key :: path, _, entries =>
    match entries.lookup key with
    | none => do
      let origin := if dotted then .dotted else .passed
      let (sub, b) ← editAt dotted f path origin []
      return (entries ++ [(key, .table origin sub)], b)
    | some (.table origin sub) =>
      if dotted ∧ origin = .declared then none
      else do
        let (sub, b) ← editAt dotted f path origin sub
        return (entries.replace key (.table origin sub), b)
    | some (.tables items) =>
      match items.getLast? with
      | some last => do
        let (last, b) ← editAt dotted f path .declared last
        return (entries.replace key (.tables (items.dropLast ++ [last])), b)
      | none => none
    | some (.value _) => none

/-- Set the value of a key, whose parts but the last lead to its table. Only a dotted key reaches a
dotted table. -/
def assign (entries : Entries) (path : List String) (key : String) (d : Datum) : Option Entries :=
  (editAt true (fun origin sub =>
    if origin = .dotted ↔ path = [] then none
    else (sub.add? key (.value d)).map (·, ())) path .declared entries).map (·.1)

end Entries

namespace Node

mutual

/-- What a node holds in the end. -/
def toDatum : Node → Datum
  | value d => d
  | table _ entries => .mapping (toEntries entries)
  | tables items => .sequence (toItems items)

def toEntries : List (String × Node) → List (String × Datum)
  | [] => []
  | (key, node) :: entries => (key, node.toDatum) :: toEntries entries

def toItems : List (List (String × Node)) → List Datum
  | [] => []
  | entries :: items => .mapping (toEntries entries) :: toItems items

end

end Node

/-- The table of the keys and values of an inline table, the keys cut before their last part. -/
def inlineTable? (pairs : List (List String × String × Datum)) : Option Datum :=
  (pairs.foldlM (fun (entries : Entries) p => entries.assign p.1 p.2.1 p.2.2) []).map fun entries =>
    .mapping (Node.toEntries entries)

end DashboardRefresh.Toml
