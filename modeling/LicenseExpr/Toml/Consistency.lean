import LicenseExpr.Toml.Node

/-!
# Agreement of the parts of a table

A table that a document defines in several parts is sound if no part
contradicts those before it. The parts are *checked* against each other when a
further one is found; when a table of several parts is *viewed*, only the
tables below it are checked again, and of the table itself no more is asked
than that nothing follows a value.
-/

namespace LicenseExpr.Toml

/-- The part that a further one has to agree with: an array stays open for its elements. -/
def currentPart? (parts : List Node) : Option Node :=
  match parts.find? Node.isArray with
  | some array => some array
  | none => parts.getLast?

/-- Where one of two parts of a table has a header and the other is only implied, what the
first has in several places is closed, and dotted keys may not reopen its tables. -/
def checkCrossing (kept : Entries) : (further : Entries) → Except Fault Unit
  | [] => .ok ()
  | (key, node) :: rest =>
      match parts key kept, node with
      | _ :: _ :: _, _ => .error (.duplicateKey key)
      | [.table .header _], .table .dotted _ => .error .redefinedTable
      | [.tables _], .table .dotted _ => .error .redefinedTable
      | _, _ => checkCrossing kept rest

/-- Checks that a node may stand under a key that stands for another one already. -/
def checkFollows (key : String) (current : Node) : (node : Node) → Except Fault Unit
  | .leaf _ => .error (.duplicateKey key)
  | .tables _ => if current.isArray then .ok () else .error (.duplicateKey key)
  | .table origin entries =>
      match current, origin with
      | .leaf _, _ => .error (.duplicateKey key)
      | .tables _, .header => .error (.duplicateKey key)
      | .tables _, .dotted => .error .redefinedTable
      | .tables _, .implied => .ok ()
      | .table .header _, .header => .error (.duplicateKey key)
      | .table .dotted _, .header => .error .redefinedTable
      | .table .header _, .dotted => .error .redefinedTable
      | .table .header kept, .implied => checkCrossing kept entries
      | .table .implied kept, .header => checkCrossing kept entries
      | .table _ _, _ => .ok ()

/-- Checks entries in order, each with what its key stands for before it. -/
def checkOrder (before : Entries) : Entries → Except Fault Unit
  | [] => .ok ()
  | (key, node) :: rest =>
      match currentPart? (parts key before) with
      | none => checkOrder (before ++ [(key, node)]) rest
      | some current => do
          checkFollows key current node
          checkOrder (before ++ [(key, node)]) rest

def hasSeveral (key : String) (entries : Entries) : Bool :=
  1 < (parts key entries).length

theorem parts_ne_nil_of_hasSeveral {key : String} {entries : Entries}
    (several : hasSeveral key entries = true) : parts key entries ≠ [] := by
  intro none
  simp [hasSeveral, none] at several

/-- Checks the entries of all parts of a table: in their order, and then level by level. -/
def check (entries : Entries) : Except Fault Unit := do
  checkOrder [] entries
  (distinctKeys entries).forM fun key =>
    if _ : hasSeveral key entries then check (reachable (parts key entries)) else .ok ()
termination_by levelsOf entries
decreasing_by
  exact levelsOf_reachable (fun _ member => levels_lt_of_mem_parts member)
    (levelsOf_pos (parts_ne_nil_of_hasSeveral ‹_›))

/-- Checks that of the parts of a table none gives a key a further meaning after a value or
an array. -/
def checkOpen (before : Entries) : Entries → Except Fault Unit
  | [] => .ok ()
  | (key, node) :: rest =>
      match (parts key before).getLast?, node with
      | none, _ | some (.table _ _), _ | some (.tables _), .tables _ =>
          checkOpen (before ++ [(key, node)]) rest
      | _, _ => .error (.duplicateKey key)

/-- Checks the tables below a table of several parts, given by the entries of its parts. -/
def checkBelow (entries : Entries) : Except Fault Unit := do
  checkOpen [] entries
  (distinctKeys entries).forM fun key =>
    if hasSeveral key entries then check (reachable (parts key entries)) else .ok ()

/-- Checks that what has the given parts can be viewed as a whole. -/
def checkView (parts : List Node) : Except Fault Unit :=
  if 1 < parts.length then checkBelow (contents parts) else .ok ()

def checkAll (entries : Entries) : Except Fault Unit :=
  (distinctKeys entries).forM fun key =>
    if hasSeveral key entries then check (contents (parts key entries)) else .ok ()

end LicenseExpr.Toml
