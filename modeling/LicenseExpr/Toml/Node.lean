import LicenseExpr.Settings.Setting

/-!
# Tables of a TOML document

While a document is read it matters how a table came about: by a header of its
own, only as a step on the way to a deeper header, or by a dotted key. A
document may define a table in several places. The entries of a table may
therefore hold several nodes under one key, the *parts* of what the key stands
for, in the order of the document.
-/

namespace LicenseExpr.Toml

inductive Fault where
  /-- The text breaks the grammar, or its top level defines something twice. -/
  | malformed
  /-- A key is defined twice in one table. -/
  | duplicateKey (key : String)
  /-- A table is defined once more in a way that its first definition does not allow. -/
  | redefinedTable
deriving DecidableEq

inductive Origin where
  | header
  | implied
  | dotted
deriving DecidableEq

inductive Node where
  | leaf (value : Setting)
  | table (origin : Origin) (entries : List (String × Node))
  | tables (elements : List (List (String × Node)))

abbrev Entries := List (String × Node)

namespace Node

/-- A node wrapped into tables, one for each key of a path. -/
def nest (origin : Origin) : (path : List String) → Node → Node
  | [], node => node
  | key :: path, node => .table origin [(key, nest origin path node)]

def isTable : Node → Bool
  | .table _ _ => true
  | _ => false

def isArray : Node → Bool
  | .tables _ => true
  | _ => false

def elements : Node → List Entries
  | .tables elements => elements
  | _ => []

end Node

def parts (key : String) : Entries → List Node
  | [] => []
  | (name, node) :: rest => if name = key then node :: parts key rest else parts key rest

/-- The keys of a table, each once, in the order in which they first occur. -/
def distinctKeys (entries : Entries) : List String :=
  (entries.map Prod.fst).foldl (fun keys key => if key ∈ keys then keys else keys ++ [key]) []

def contents : (parts : List Node) → Entries
  | [] => []
  | .table _ entries :: rest => entries ++ contents rest
  | _ :: rest => contents rest

/-- The entries that a header with a deeper path reaches: those of the tables and, behind an
array, those of its last element. -/
def reachable : (parts : List Node) → Entries
  | .tables elements :: rest =>
      if rest.any Node.isArray then reachable rest
      else elements.getLastD [] ++ contents rest
  | parts => contents parts

def allElements (parts : List Node) : List Entries :=
  parts.flatMap Node.elements

/-! ## Levels -/

mutual

def Node.levels : Node → Nat
  | .leaf _ => 0
  | .table _ entries => levelsOf entries
  | .tables elements => elementLevels elements

/-- How deep the tables below some entries go, these included. -/
def levelsOf : Entries → Nat
  | [] => 0
  | (_, node) :: rest => max (node.levels + 1) (levelsOf rest)

def elementLevels : List Entries → Nat
  | [] => 0
  | entries :: rest => max (levelsOf entries) (elementLevels rest)

end

theorem levelsOf_append (first second : Entries) :
    levelsOf (first ++ second) = max (levelsOf first) (levelsOf second) := by
  induction first with
  | nil => simp [levelsOf]
  | cons entry rest ih =>
      obtain ⟨key, node⟩ := entry
      simp only [List.cons_append, levelsOf, ih]
      omega

theorem levelsOf_le_elementLevels {entries : Entries} {elements : List Entries}
    (member : entries ∈ elements) : levelsOf entries ≤ elementLevels elements := by
  induction elements with
  | nil => cases member
  | cons first rest ih =>
      simp only [elementLevels]
      rcases List.mem_cons.1 member with rfl | inRest
      · omega
      · have := ih inRest
        omega

theorem levelsOf_getLastD (elements : List Entries) :
    levelsOf (elements.getLastD []) ≤ elementLevels elements := by
  cases elements with
  | nil => simp [levelsOf]
  | cons first rest =>
      rw [List.getLastD_eq_getLast?, List.getLast?_eq_some_getLast (List.cons_ne_nil _ _)]
      exact levelsOf_le_elementLevels (List.getLast_mem _)

theorem levels_lt_of_mem_parts {key : String} {entries : Entries} {node : Node}
    (member : node ∈ parts key entries) : node.levels < levelsOf entries := by
  induction entries with
  | nil => cases member
  | cons entry rest ih =>
      obtain ⟨name, first⟩ := entry
      simp only [parts] at member
      simp only [levelsOf]
      split at member
      · rcases List.mem_cons.1 member with rfl | inRest
        · omega
        · have := ih inRest
          omega
      · have := ih member
        omega

theorem levelsOf_contents {bound : Nat} {nodes : List Node}
    (below : ∀ node ∈ nodes, node.levels < bound) (positive : 0 < bound) :
    levelsOf (contents nodes) < bound := by
  induction nodes with
  | nil => simpa [contents, levelsOf] using positive
  | cons node rest ih =>
      have first := below node (List.mem_cons_self ..)
      have others := ih fun other member => below other (List.mem_cons_of_mem _ member)
      cases node with
      | leaf value => exact others
      | table origin entries =>
          simp only [Node.levels] at first
          simp only [contents, levelsOf_append]
          omega
      | tables elements => exact others

theorem levelsOf_reachable {bound : Nat} {nodes : List Node}
    (below : ∀ node ∈ nodes, node.levels < bound) (positive : 0 < bound) :
    levelsOf (reachable nodes) < bound := by
  fun_induction reachable nodes with
  | case1 elements rest arrays ih =>
      exact ih fun other member => below other (List.mem_cons_of_mem _ member)
  | case2 elements rest noArrays =>
      have first := below (.tables elements) (List.mem_cons_self ..)
      have others := levelsOf_contents
        (fun other member => below other (List.mem_cons_of_mem _ member)) positive
      have last := levelsOf_getLastD elements
      simp only [Node.levels] at first
      simp only [levelsOf_append]
      omega
  | case3 nodes notArray => exact levelsOf_contents below positive

theorem levelsOf_lt_of_mem_allElements {bound : Nat} {nodes : List Node} {entries : Entries}
    (below : ∀ node ∈ nodes, node.levels < bound) (member : entries ∈ allElements nodes) :
    levelsOf entries < bound := by
  obtain ⟨node, inNodes, inNode⟩ := List.mem_flatMap.1 member
  have under := below node inNodes
  cases node with
  | leaf value => cases inNode
  | table origin kept => cases inNode
  | tables elements =>
      simp only [Node.levels] at under
      exact Nat.lt_of_le_of_lt (levelsOf_le_elementLevels inNode) under

theorem levelsOf_pos {key : String} {entries : Entries} (present : parts key entries ≠ []) :
    0 < levelsOf entries := by
  obtain ⟨node, member⟩ := List.exists_mem_of_ne_nil _ present
  exact Nat.zero_lt_of_lt (levels_lt_of_mem_parts member)

end LicenseExpr.Toml
