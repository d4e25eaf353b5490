import LicenseExpr.Toml.Consistency

/-!
# Filling tables

Nodes are entered into a table one after the other. A node under a new key
becomes an entry; a node under a key that is taken is merged with what stands
there, or becomes a further part of it. Two tables that are only implied are
merged if no other table has been entered in between. A table implied behind
an array belongs to the last element of the array.
-/

namespace LicenseExpr.Toml

def lastTableKey? (entries : Entries) : Option String :=
  (entries.reverse.find? fun entry => entry.2.isTable).map Prod.fst

/-- The entries with another node in place of the first that a key has. -/
def replaceFirst (key : String) (node : Node) : Entries → Entries
  | [] => []
  | (name, old) :: rest =>
      if name = key then (key, node) :: rest else (name, old) :: replaceFirst key node rest

/-- The entries with another node in place of the last that a key has. -/
def replaceLast (key : String) (node : Node) (entries : Entries) : Entries :=
  (replaceFirst key node entries.reverse).reverse

def hasGrown (key : String) (before after : Entries) : Bool :=
  let count := (parts key before).length
  0 < count && count < (parts key after).length

def checkEntered (key : String) (before after : Entries) : Except Fault Unit := do
  if hasGrown key before after then check (contents (parts key after)) else .ok ()
  checkView (parts key after)

mutual

/-- Enters a node under a key. A further part is not checked against those before it. -/
def enter (entries : Entries) (key : String) (node : Node) : Except Fault Entries :=
  match (parts key entries).getLast? with
  | none => .ok (entries ++ [(key, node)])
  | some current => do
      checkView (parts key entries)
      checkFollows key current node
      match node with
      | .leaf _ => return entries ++ [(key, node)]
      | .tables more => return replaceLast key (.tables (current.elements ++ more)) entries
      | .table origin more =>
          match current with
          | .tables elements => do
              let last ← enterAll (elements.getLastD []) more
              return replaceLast key (.tables (elements.dropLast ++ [last])) entries
          | .table .implied kept =>
              if origin = .implied ∧ lastTableKey? entries = some key then
                let kept ← enterAll kept more
                return replaceLast key (.table .implied kept) entries
              else return entries ++ [(key, node)]
          | _ => return entries ++ [(key, node)]

/-- Enters further entries in order; every further part is checked. -/
def enterAll (entries : Entries) : (more : Entries) → Except Fault Entries
  | [] => .ok entries
  | (key, node) :: rest => do
      let entered ← enter entries key node
      checkEntered key entries entered
      enterAll entered rest

end

/-- The entries after a value has been entered under a dotted key. -/
def assign (entries : Entries) (path : List String) (value : Setting) : Except Fault Entries :=
  match path with
  | [] => .ok entries
  | key :: path => enterAll entries [(key, .nest .dotted path (.leaf value))]

/-- The entries after a table has been entered whose further parts are checked later. -/
def enterUnchecked (entries : Entries) (key : String) (node : Node) : Except Fault Entries := do
  let entered ← enter entries key node
  checkView (parts key entered)
  return entered

/-! ## Values -/

theorem parts_ne_nil_of_head {key : String} {entries : Entries} {node : Node}
    (first : (parts key entries).head? = some node) : parts key entries ≠ [] := by
  intro none
  simp [none] at first

def tableValue (entries : Entries) : Except Fault (List (String × Setting)) :=
  (distinctKeys entries).mapM fun key => do
    checkView (parts key entries)
    match _ : (parts key entries).head? with
    | none => return (key, .null)
    | some (.leaf value) => return (key, value)
    | some (.table _ _) => return (key, .table (← tableValue (contents (parts key entries))))
    | some (.tables _) =>
        let elements ← (allElements (parts key entries)).attach.mapM fun element =>
          tableValue element.val
        return (key, .list (elements.map .table))
termination_by levelsOf entries
decreasing_by
  · exact levelsOf_contents (fun _ member => levels_lt_of_mem_parts member)
      (levelsOf_pos (parts_ne_nil_of_head ‹_›))
  · exact levelsOf_lt_of_mem_allElements (fun _ member => levels_lt_of_mem_parts member)
      element.property

end LicenseExpr.Toml
