/-!
# Sorted lists of named things

Lists of pairs of a name and a value, sorted by name and with one pair for each name. Names are
compared by their code points.
-/

namespace DashboardRefresh

variable {β : Type}

/-- A list with one more pair, in the place that its name has. A pair of the same name is
replaced. -/
def insertNamed (name : String) (value : β) : List (String × β) → List (String × β)
  | [] => [(name, value)]
  | m :: ms =>
    if name < m.1 then (name, value) :: m :: ms
    else if name = m.1 then (name, value) :: ms
    else m :: insertNamed name value ms

/-- The pairs of a list sorted by name, the last one of each name. -/
def sortNamed (pairs : List (String × β)) : List (String × β) :=
  pairs.foldl (fun sorted p => insertNamed p.1 p.2 sorted) []

end DashboardRefresh
