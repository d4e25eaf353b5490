import LicenseExpr.Settings.LoadError
import LicenseExpr.Settings.Rank

/-!
# Unknown keys

A section may only hold certain keys; all others are listed in ascending order,
each once. A section need not be a table: of a text the characters count as its
keys, and of a list the items.
-/

namespace LicenseExpr.Settings

def unknownNames (known names : List String) : List String :=
  Text.sortedDistinct (names.filter (· ∉ known))

def keys (entries : List (String × Setting)) : List String :=
  entries.map Prod.fst

def rankedItem (item : Setting) : Except LoadError (Setting × Rank) :=
  match item.rank? with
  | some rank => .ok (item, rank)
  | none => .error (.unusableKey item)

def isKnown (known : List String) (item : Setting × Rank) : Bool :=
  match item.2 with
  | .text name => name ∈ known
  | _ => false

/-- The list with the item put at its place, unless one of the same rank is there already.
What is no number is the same as nothing. -/
def insertRanked (item : Setting × Rank) :
    List (Setting × Rank) → Except LoadError (List (Setting × Rank))
  | [] => .ok [item]
  | first :: rest =>
      if item.2 = first.2 ∧ item.2 ≠ .notANumber then .ok (first :: rest)
      else
        match item.2.less? first.2 with
        | none => .error (.incomparable item.1 first.1)
        | some true => .ok (item :: first :: rest)
        | some false => do
            let others ← insertRanked item rest
            return first :: others

def unknownItems (known : List String) (items : List Setting) :
    Except LoadError (List Setting) := do
  let ranked ← items.mapM rankedItem
  let unknown := ranked.filter (!isKnown known ·)
  let sorted ← unknown.foldlM (fun sorted item => insertRanked item sorted) []
  return sorted.map Prod.fst

def unknownKeys (known : List String) : Setting → Except LoadError (List Setting)
  | .table entries => .ok ((unknownNames known (keys entries)).map .text)
  | .text value => .ok ((unknownNames known (value.toList.map String.singleton)).map .text)
  | .list items => unknownItems known items
  | value => .error (.noItems value)

end LicenseExpr.Settings
