import Mathlib.Data.Finset.Card
import Mathlib.Data.List.Find
import LicenseExpr.Proofs.Tree.Sameness

/-!
# Catalogues of expressions

An expression is entered into a catalogue if it is not found there under its
key.  Different expressions can have the same key, so what is found is decided
by the comparison, and that is the equality of expressions.  Hence a catalogue
holds each of the expressions that were entered once, with the place where it
was entered first.
-/

namespace LicenseExpr.Expression

theorem equivalence_same :
    Equivalence fun first second : Expression => first.same second = true := by
  refine ⟨fun _ => same_iff.mpr rfl, ?_, ?_⟩
  · intro first second same
    exact same_iff.mpr (same_iff.mp same).symm
  · intro first second third same same'
    exact same_iff.mpr ((same_iff.mp same).trans (same_iff.mp same'))

theorem key_eq_of_same {first second : Expression} (same : first.same second = true) :
    first.key = second.key :=
  congrArg key (same_iff.mp same)

namespace Catalogue

/-- A catalogue with one entry for each different expression that has been seen: its key, the
expression and the place where it was seen first. -/
structure Holds (catalogue : Catalogue) (seen : List Expression) : Prop where
  entry_eq : ∀ entry ∈ catalogue, entry = (entry.2.1.key, entry.2.1, seen.idxOf entry.2.1)
  mem_iff : ∀ expression, expression ∈ catalogue.map (·.2.1) ↔ expression ∈ seen
  nodup : (catalogue.map (·.2.1)).Nodup

variable {catalogue : Catalogue} {seen : List Expression}

theorem holds_nil : Holds [] [] where
  entry_eq := by simp
  mem_iff := by simp
  nodup := by simp

/-- What is found is decided by the comparison alone, however the keys are compared before. -/
theorem Holds.find?_eq (holds : Holds catalogue seen) (expression : Expression)
    (alike : Key → Bool) (reflexive : alike expression.key = true) :
    (catalogue.find? fun entry => alike entry.1 && entry.2.1.same expression) =
      catalogue.find? fun entry => entry.2.1 = expression := by
  apply List.find?_congr
  intro entry member
  have keyed : entry.1 = entry.2.1.key := congrArg Prod.fst (holds.entry_eq entry member)
  by_cases here : entry.2.1 = expression
  · rw [keyed, here]
    simp [reflexive, same_iff]
  · have differs : entry.2.1.same expression = false := by
      rw [Bool.eq_false_iff, ne_eq, same_iff]
      exact here
    simp [differs, here]

/-- An expression is found if it has been seen, with the place where it was seen first. -/
theorem Holds.number?_eq (holds : Holds catalogue seen) (expression : Expression) :
    catalogue.number? expression =
      if expression ∈ seen then some (seen.idxOf expression) else none := by
  have found := holds.find?_eq expression (fun key => key = expression.key) (decide_eq_true rfl)
  rw [number?, found]
  cases first : catalogue.find? fun entry => entry.2.1 = expression with
  | none =>
      have unseen : expression ∉ seen := by
        rw [← holds.mem_iff, List.mem_map]
        rintro ⟨entry, member, same⟩
        exact List.find?_eq_none.mp first entry member (decide_eq_true same)
      rw [if_neg unseen, Option.map_none]
  | some entry =>
      have member := List.mem_of_find?_eq_some first
      have same : entry.2.1 = expression := by simpa using List.find?_some first
      have seenBefore : expression ∈ seen := by
        rw [← holds.mem_iff, ← same]
        exact List.mem_map_of_mem member
      rw [if_pos seenBefore, Option.map_some, holds.entry_eq entry member, same]

/-- A step keeps the entries and their places, and adds what is new. -/
theorem Holds.enter (holds : Holds catalogue seen) (expression : Expression) :
    (catalogue.enter expression seen.length).1 = (seen ++ [expression]).idxOf expression ∧
      Holds (catalogue.enter expression seen.length).2 (seen ++ [expression]) := by
  -- What comes later does not change the first place of an expression.
  have kept : ∀ entry ∈ catalogue,
      entry = (entry.2.1.key, entry.2.1, (seen ++ [expression]).idxOf entry.2.1) := by
    intro entry member
    have before : entry.2.1 ∈ seen := (holds.mem_iff _).mp (List.mem_map_of_mem member)
    rw [List.idxOf_append_of_mem before]
    exact holds.entry_eq entry member
  rw [Catalogue.enter, holds.number?_eq]
  by_cases seenBefore : expression ∈ seen
  · rw [if_pos seenBefore]
    refine ⟨(List.idxOf_append_of_mem seenBefore).symm, kept, ?_, holds.nodup⟩
    intro other
    rw [holds.mem_iff, List.mem_append, List.mem_singleton]
    exact (or_iff_left_of_imp fun same => same ▸ seenBefore).symm
  · rw [if_neg seenBefore]
    have place : (seen ++ [expression]).idxOf expression = seen.length := by
      rw [List.idxOf_append_of_notMem seenBefore, List.idxOf_cons_self, Nat.add_zero]
    refine ⟨place.symm, ?_, ?_, ?_⟩
    · rw [List.forall_mem_append, List.forall_mem_singleton, place]
      exact ⟨kept, rfl⟩
    · intro other
      rw [List.map_append, List.mem_append, holds.mem_iff, List.mem_append]
      rfl
    · rw [List.map_append, List.nodup_append]
      refine ⟨holds.nodup, List.nodup_singleton _, ?_⟩
      rintro other member added isAdded rfl
      obtain rfl := List.mem_singleton.mp isAdded
      exact seenBefore ((holds.mem_iff _).mp member)

theorem Holds.enterAll (holds : Holds catalogue seen) (expressions : List Expression) :
    (catalogue.enterAll expressions seen.length).1 =
        expressions.map (seen ++ expressions).idxOf ∧
      Holds (catalogue.enterAll expressions seen.length).2 (seen ++ expressions) := by
  induction expressions generalizing catalogue seen with
  | nil => simpa [Catalogue.enterAll] using holds
  | cons expression rest ih =>
      obtain ⟨place, entered⟩ := holds.enter expression
      obtain ⟨places, final⟩ := ih entered
      rw [List.length_append, List.length_singleton, List.append_assoc] at places final
      have stays : (seen ++ expression :: rest).idxOf expression =
          (seen ++ [expression]).idxOf expression := by
        rw [List.append_cons, List.idxOf_append_of_mem (by simp)]
      rw [List.map_cons, stays, ← place]
      exact ⟨congrArg _ places, final⟩

/-- The number of an expression that is looked up by the hash values of the keys, which can agree
for different keys. -/
def hashed? (hash : Key → Nat) (catalogue : Catalogue) (expression : Expression) : Option Nat :=
  (catalogue.find? fun entry =>
    decide (hash entry.1 = hash expression.key) && entry.2.1.same expression).map (·.2.2)

theorem Holds.hashed?_eq (holds : Holds catalogue seen) (hash : Key → Nat)
    (expression : Expression) :
    catalogue.hashed? hash expression = catalogue.number? expression := by
  have byHash := holds.find?_eq expression (fun key => hash key = hash expression.key)
    (decide_eq_true rfl)
  have byKey := holds.find?_eq expression (fun key => key = expression.key) (decide_eq_true rfl)
  rw [hashed?, number?, byHash, byKey]

end Catalogue

theorem holds_enterAll (expressions : List Expression) :
    (Catalogue.enterAll [] expressions 0).1 = expressions.map expressions.idxOf ∧
      Catalogue.Holds (Catalogue.enterAll [] expressions 0).2 expressions :=
  Catalogue.holds_nil.enterAll expressions

/-- Comparing with a list of pending pairs decides the equality of trees, whatever it already
knows.  So the comparison of expressions is an equivalence, the same expressions have the same
key, and among expressions that were entered into a catalogue each is found once, also under a
key that it shares with another one. -/
theorem sameness_is_equality :
    (∀ known, Tree.Truthful known → ∀ first second : Tree,
      Tree.agree known [(first, second)] = true ↔ first = second) ∧
    Equivalence (fun first second : Expression => first.same second = true) ∧
    (∀ first second : Expression, first.same second = true → first.key = second.key) ∧
    ∀ expressions : List Expression,
      (∀ expression, ((Catalogue.enterAll [] expressions 0).2.map (·.2.1)).count expression =
        if expression ∈ expressions then 1 else 0) ∧
      (∀ hash expression, (Catalogue.enterAll [] expressions 0).2.hashed? hash expression =
        (Catalogue.enterAll [] expressions 0).2.number? expression) ∧
      distinct expressions = (expressions.map expressions.idxOf, expressions.toFinset.card) := by
  refine ⟨?_, equivalence_same, fun _ _ => key_eq_of_same, fun expressions => ?_⟩
  · intro known truthful first second
    rw [Tree.agree_iff truthful, List.forall_mem_singleton]
  obtain ⟨places, holds⟩ := holds_enterAll expressions
  refine ⟨fun expression => ?_, holds.hashed?_eq, ?_⟩
  · simp only [holds.nodup.count, holds.mem_iff]
  · have members : ((Catalogue.enterAll [] expressions 0).2.map (·.2.1)).toFinset =
        expressions.toFinset := by
      ext expression
      rw [List.mem_toFinset, List.mem_toFinset, holds.mem_iff]
    rw [distinct, places, ← members, List.toFinset_card_of_nodup holds.nodup, List.length_map]

/-- The first tree, of the leaves `a, b` and `c`, has the canonical form of the second one, of the
leaves `a` and `b, c`, but both are counted; and a comparison that knows every tree by itself
finds the first one equal to itself. -/
theorem distinct_of_same_key :
    (valid (.compound .or (.identifier "a, b") (.identifier "c"))).key =
      (valid (.compound .or (.identifier "a") (.identifier "b, c"))).key ∧
    distinct [valid (.compound .or (.identifier "a, b") (.identifier "c")), invalid,
      valid (.compound .or (.identifier "a") (.identifier "b, c")), invalid,
      valid (.compound .or (.identifier "a, b") (.identifier "c"))] = ([0, 1, 2, 1, 0], 3) ∧
    (Tree.Truthful fun pending => pending.head?.any fun pair => pair.1 = pair.2) ∧
    Tree.agree (fun pending => pending.head?.any fun pair => pair.1 = pair.2)
      [(.compound .or (.identifier "a, b") (.identifier "c"),
        .compound .or (.identifier "a, b") (.identifier "c"))] = true := by
  obtain ⟨decides, -, -, catalogued⟩ := sameness_is_equality
  have truthful : Tree.Truthful fun pending => pending.head?.any fun pair => pair.1 = pair.2 := by
    intro pair rest isKnown
    simpa using isKnown
  refine ⟨?_, ?_, truthful, (decides _ truthful _ _).mpr rfl⟩
  · simp only [key, Tree.write_eq]
    decide
  · rw [(catalogued _).2.2]
    decide

end LicenseExpr.Expression
