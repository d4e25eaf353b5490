import LicenseExpr.Toml.Value

/-!
# TOML documents

A document is read line by line into sections: a header with the assignments
below it. The sections are then entered into one table. A section owns the
sections that follow it as long as their headers are deeper than its own, and
the sections that define further elements of the same array directly after it
belong together with it. What is wrong within a section is reported as such;
what goes wrong between the outermost sections makes the document malformed.
-/

namespace LicenseExpr.Toml

structure Assignment where
  path : List String
  value : Setting

structure Section where
  path : List String
  /-- Whether the header adds an element to an array of tables. -/
  isElement : Bool
  assignments : List Assignment

inductive Line where
  | assignment (assignment : Assignment)
  | header (path : List String) (isElement : Bool)

/-- What has been read of a document: the assignments before the first header, the sections,
and the fault that ended the reading, if any. -/
structure Outcome where
  preamble : List Assignment
  sections : List Section
  fault : Option Fault

namespace Outcome

/-- Nothing read yet; what ends the reading is given. -/
def ending (fault : Option Fault) : Outcome :=
  ⟨[], [], fault⟩

def push (line : Line) (outcome : Outcome) : Outcome :=
  match line with
  | .assignment first => { outcome with preamble := first :: outcome.preamble }
  | .header path isElement =>
      ⟨[], ⟨path, isElement, outcome.preamble⟩ :: outcome.sections, outcome.fault⟩

end Outcome

/-- What follows the end of a line: blanks and a comment may stand before it. -/
def endOfLine (text : List Char) : Except Fault (List Char) :=
  match skipSpaces text with
  | [] => .ok []
  | '\n' :: rest => .ok rest
  | '#' :: rest => skipComment rest
  | _ => .error .malformed

/-- The path of the header whose first bracket stands before the text, whether it adds an
element to an array, and what follows the path. -/
def headerPath? (text : List Char) : Option (List String × Bool × List Char) :=
  let isElement := text.head? = some '['
  (key? (if isElement then text.drop 1 else text)).map fun key => (key.1, isElement, key.2)

/-- What follows the line of a header from behind its path on. -/
def headerEnd (isElement : Bool) (text : List Char) : Except Fault (List Char) :=
  match isElement, text with
  | true, ']' :: ']' :: rest => endOfLine rest
  | false, ']' :: rest => endOfLine rest
  | _, _ => .error .malformed

def assignment (text : List Char) : Except Fault (Line × List Char) :=
  match key? text with
  | none => .error .malformed
  | some (path, rest) =>
      match skipSpaces rest with
      | '=' :: rest => do
          let (value, rest) ← value nestingLimit (skipSpaces rest)
          return (.assignment ⟨path, value⟩, rest.val)
      | _ => .error .malformed

/-- The outcome of a line, when the rest of the text is read by the given reader. -/
def outcomeOfLine (start : List Char) (after : List Char → Outcome) : Outcome :=
  match start with
  | '[' :: rest =>
      match headerPath? rest with
      | none => .ending (some .malformed)
      | some (path, isElement, rest) =>
          match headerEnd isElement rest with
          | .error fault => (Outcome.ending (some fault)).push (.header path isElement)
          | .ok rest => (after rest).push (.header path isElement)
  | start =>
      match assignment start with
      | .error fault => .ending (some fault)
      | .ok (line, rest) =>
          match endOfLine rest with
          | .error fault => .ending (some fault)
          | .ok rest => (after rest).push line

def outcome (text : List Char) : Outcome :=
  match skipGaps text with
  | .error fault => .ending (some fault)
  | .ok [] => .ending none
  | .ok start =>
      outcomeOfLine start fun rest =>
        if rest.length < text.length then outcome rest else .ending (some .malformed)
termination_by text.length

/-! ## Sections -/

def assignAll (entries : Entries) : List Assignment → Except Fault Entries
  | [] => .ok entries
  | first :: rest => do assignAll (← assign entries first.path first.value) rest

namespace Section

/-- Whether another section belongs to this one: its header is deeper. -/
def owns (owner other : Section) : Bool :=
  owner.path.isPrefixOf other.path && owner.path.length < other.path.length

/-- Whether another section, after what this one owns, adds an element to the same array. -/
def continuesIn (first other : Section) : Bool :=
  first.isElement && other.isElement && first.path.length == 1 && first.path == other.path

/-- Whether another section belongs to this one or to one that continues it. -/
def gathers (first other : Section) : Bool :=
  first.owns other || first.continuesIn other

def below (owner other : Section) : Section :=
  { other with path := other.path.drop owner.path.length }

/-- The key under which a section is entered into the table around it, and the node, if the
section and those that continue it have the given contents. -/
def entry (own : Section) (contents : List Entries) : String × Node :=
  let node := if own.isElement then Node.tables contents else .table .header contents.flatten
  match own.path with
  | [] => ("", node)
  | key :: path => (key, .nest .implied path node)

end Section

mutual

/-- The contents of a section, and of every section that continues it. A fault that ended the
reading is reported as soon as everything before it has been entered. -/
def sectionContents (fault : Option Fault) (sections : List Section) :
    Except Fault (List Entries) :=
  match sections with
  | [] => .ok []
  | first :: rest => do
      let others := rest.dropWhile first.owns
      let assigned ← assignAll [] first.assignments
      let contents ← enterSections (if others.isEmpty then fault else none) assigned
        ((rest.takeWhile first.owns).map first.below)
      checkAll contents
      return contents :: (← sectionContents fault others)
termination_by (sections.length, 0)
decreasing_by
  · simp only [List.length_map, List.length_cons]
    exact Prod.Lex.left _ _ (Nat.lt_succ_of_le (List.takeWhile_sublist _).length_le)
  · exact Prod.Lex.left _ _ (Nat.lt_succ_of_le (List.dropWhile_sublist _).length_le)

def enterSections (fault : Option Fault) (entries : Entries) (sections : List Section) :
    Except Fault Entries :=
  match sections with
  | [] =>
      match fault with
      | some fault => .error fault
      | none => .ok entries
  | first :: rest => do
      let others := rest.dropWhile first.gathers
      let contents ← sectionContents (if others.isEmpty then fault else none)
        (first :: rest.takeWhile first.gathers)
      let (key, node) := first.entry contents
      let entries ← enterUnchecked entries key node
      enterSections fault entries others
termination_by (sections.length, 1)
decreasing_by
  · have shorter : (rest.takeWhile first.gathers).length ≤ rest.length :=
      (List.takeWhile_sublist _).length_le
    simp only [List.length_cons]
    rcases Nat.lt_or_eq_of_le shorter with less | same
    · exact Prod.Lex.left _ _ (by omega)
    · rw [same]
      exact Prod.Lex.right _ (by omega)
  · exact Prod.Lex.left _ _ (Nat.lt_succ_of_le (List.dropWhile_sublist _).length_le)

end

/-! ## The outermost table -/

structure Draft where
  entries : Entries := []
  /-- For a table of several parts, the entries that have been checked against each other: what
  a part gains later is left out. -/
  checked : List (String × Entries) := []

namespace Draft

/-- Enters a node, and checks it if it becomes a further part. -/
def enter (draft : Draft) (key : String) (node : Node) : Except Fault Draft := do
  let entries ← Toml.enter draft.entries key node
  if hasGrown key draft.entries entries then
    let before := (draft.checked.lookup key).getD (contents (parts key draft.entries))
    check (before ++ contents [node])
    return ⟨entries, (key, before ++ contents [node]) :: draft.checked⟩
  else return { draft with entries }

def assignAll (draft : Draft) : List Assignment → Except Fault Draft
  | [] => .ok draft
  | ⟨[], _⟩ :: rest => draft.assignAll rest
  | ⟨key :: path, value⟩ :: rest => do
      let draft ← draft.enter key (.nest .dotted path (.leaf value))
      draft.assignAll rest

def enterSections (fault : Option Fault) (draft : Draft) (sections : List Section) :
    Except Fault Draft :=
  match sections with
  | [] =>
      match fault with
      | some fault => .error fault
      | none => .ok draft
  | first :: rest => do
      let others := rest.dropWhile first.gathers
      let contents ← sectionContents (if others.isEmpty then fault else none)
        (first :: rest.takeWhile first.gathers)
      let (key, node) := first.entry contents
      match draft.enter key node with
      | .ok draft => draft.enterSections fault others
      | .error _ => .error .malformed
termination_by sections.length
decreasing_by
  exact Nat.lt_succ_of_le (List.dropWhile_sublist _).length_le

end Draft

def read (text : String) : Except Fault (List (String × Setting)) :=
  let outcome := outcome text.toList
  match Draft.assignAll {} outcome.preamble with
  | .error _ => .error .malformed
  | .ok draft =>
      match draft.enterSections outcome.fault outcome.sections with
      | .error fault => .error fault
      | .ok draft => tableValue draft.entries

end LicenseExpr.Toml
