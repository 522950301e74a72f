import SqlWriter.Reference
import SqlWriter.Shape.Pattern
import SqlWriter.Value.Literal
import SqlWriter.Value.Record

/-! Condition trees: fields with values, joined by the connectives of logic. -/

namespace SqlWriter

/--
A condition tree.

The keys of a group are fields or connectives, and a field inside a field goes on with its path.
-/
inductive Condition where
  | scalar (value : Scalar)
  | list (items : List Condition)
  | group (entries : List (Text × Condition))

namespace Condition

/-- What holds of a tree, and of the entries of a group as well if the tree is one. -/
def HoldsWithEntries (motive : Condition → Prop) (tree : Condition) : Prop :=
  motive tree ∧ ∀ entries, tree = .group entries → ∀ entry ∈ entries, motive entry.2

/--
What holds of scalars, and passes from the parts of a list or a group on to it, always holds.

The parts of a list are its items and the entries of the groups among them.
-/
@[elab_as_elim, induction_eliminator]
theorem induction {motive : Condition → Prop}
    (scalar : ∀ value, motive (.scalar value))
    (list : ∀ items, (∀ item ∈ items, motive item) →
      (∀ entries, .group entries ∈ items → ∀ entry ∈ entries, motive entry.2) →
      motive (.list items))
    (group : ∀ entries, (∀ entry ∈ entries, motive entry.2) → motive (.group entries))
    (tree : Condition) : motive tree := by
  -- A group hands on what holds of its entries, so that a list around it can use that too.
  suffices HoldsWithEntries motive tree from this.1
  refine @Condition.rec (HoldsWithEntries motive)
    (fun items => ∀ item ∈ items, HoldsWithEntries motive item)
    (fun entries => ∀ entry ∈ entries, HoldsWithEntries motive entry.2)
    (fun entry => HoldsWithEntries motive entry.2)
    ?scalar ?list ?group ?noItem ?items ?noEntry ?entries ?entry tree
  case scalar => exact fun value => ⟨scalar value, nofun⟩
  case list =>
    intro items each
    have inner : ∀ entries, .group entries ∈ items → ∀ entry ∈ entries, motive entry.2 :=
      fun entries member => (each _ member).2 entries rfl
    exact ⟨list items (fun item member => (each item member).1) inner, nofun⟩
  case group =>
    intro entries each
    refine ⟨group entries fun entry member => (each entry member).1, ?_⟩
    -- The second part is about the entries of this very group.
    rintro _ ⟨⟩ entry member
    exact (each entry member).1
  case noItem => simp
  case items => exact fun item rest head tail => List.forall_mem_cons.mpr ⟨head, tail⟩
  case noEntry => simp
  case entries => exact fun entry rest head tail => List.forall_mem_cons.mpr ⟨head, tail⟩
  case entry => exact fun key condition held => held

/-- The condition that every row meets. -/
def empty : Condition :=
  .group []

/-- Sets the condition under a key; a tree that is no group is dropped first. -/
def set (tree : Condition) (key : Text) (condition : Condition) : Condition :=
  match tree with
  | .group entries => .group (upsert key condition entries)
  | _ => .group [(key, condition)]

/-- Whether a tree is a group of entries. -/
def isGroup : Condition → Bool
  | .group _ => true
  | _ => false

end Condition

/-- The connectives of logic. -/
inductive Connective where
  | and
  | or
deriving DecidableEq, Repr

/-- The connective that a key stands for, in any case. -/
def Connective.ofKey? (key : Text) : Option Connective :=
  if lowerCase key = "$and".toList then some .and
  else if lowerCase key = "$or".toList then some .or
  else none

/-- What is written between two conditions. -/
def Connective.separator : Connective → Text
  | .and => " AND ".toList
  | .or => " OR ".toList

/-- Conditions with a connective between them. -/
def Connective.join (connective : Connective) (conditions : List Text) : Text :=
  connective.separator.intercalate conditions

/-- A connective stands between the first of several conditions and the others. -/
theorem Connective.join_cons (connective : Connective) (sql : Text) {more : List Text}
    (further : more ≠ []) :
    connective.join (sql :: more) = sql ++ connective.separator ++ connective.join more := by
  -- A further text makes room for one separator, as the equation of the join asks.
  obtain ⟨next, rest, rfl⟩ := List.exists_cons_of_ne_nil further
  exact List.intercalate_cons_cons

/-- A single condition is joined by nothing. -/
@[simp] theorem Connective.join_singleton (connective : Connective) (sql : Text) :
    connective.join [sql] = sql :=
  -- A single text is joined with no separator.
  List.intercalate_singleton

/-- The condition that no row meets. -/
def neverTrue : Text :=
  "1 = 0".toList

/-- A field inside another one carries the path to it in front. -/
def extendPath (path : Option Text) (key : Text) : Text :=
  match path with
  | some path => path ++ '.' :: key
  | none => key

/-- The operator that compares a field with a value. -/
def comparisonOperator : Scalar → Text
  | .null => "IS".toList
  -- Only texts can be patterns.
  | .text text => if isLikePattern text then "LIKE".toList else "=".toList
  | _ => "=".toList

/-- A field compared with a value. -/
def writeComparison (field : Text) (value : Scalar) : Text :=
  writeReference .numeric field ++ ' ' :: comparisonOperator value ++ ' ' :: writeValue value

mutual

/-- The scalars in a condition that are reached through lists alone, from left to right. -/
def Condition.scalars : Condition → List Scalar
  | .scalar value => [value]
  | .list items => Condition.scalarsOfEach items
  | .group _ => []

/-- The scalars in the conditions of a list that are reached through lists alone. -/
def Condition.scalarsOfEach : List Condition → List Scalar
  | [] => []
  | item :: rest => item.scalars ++ Condition.scalarsOfEach rest

end

/-- A field as a member of a list of values, which no row is if there are none. -/
def writeMembership (field : Text) (items : List Condition) : Text :=
  -- An empty list of values cannot be written, but its meaning can.
  match Condition.scalarsOfEach items with
  | [] => neverTrue
  | values =>
    writeReference .numeric field ++ " IN ".toList ++
      inParens (commaJoined (values.map writeValue))

/-- A condition in parentheses, unless there is nothing in it. -/
def wrapped (sql : Text) : Text :=
  if sql = [] then [] else inParens sql

/-- Alternatives in parentheses, which a single one does not need. -/
def Connective.joinAlternatives (connective : Connective) : List Text → Text
  | [] => []
  | [only] => only
  | parts => inParens (connective.join parts)

mutual

/-- The conditions of the entries of a group under a path, without the empty ones. -/
def Condition.writeEntries (path : Option Text) : List (Text × Condition) → List Text
  | [] => []
  | (key, condition) :: rest =>
    -- An empty condition would leave a connective without one of its sides.
    let sql := Condition.writeEntry path key condition
    let more := Condition.writeEntries path rest
    if sql = [] then more else sql :: more

/-- The condition of one entry, whose key is a connective or a field. -/
def Condition.writeEntry (path : Option Text) (key : Text) : Condition → Text
  | .group entries =>
    -- A connective keeps the path, and a field goes on with it.
    match Connective.ofKey? key with
    | some connective => wrapped (connective.join (Condition.writeEntries path entries))
    | none => Connective.and.join (Condition.writeEntries (some (extendPath path key)) entries)
  | .list items =>
    match Connective.ofKey? key, path with
    | some connective, none =>
      -- A connective over a list joins the groups in it, and the list needs at least one.
      if items.any Condition.isGroup then
        connective.joinAlternatives (Condition.writeAlternatives items)
      else neverTrue
    | some _, some field => writeMembership field items
    | none, _ => writeMembership (extendPath path key) items
  | .scalar value =>
    match Connective.ofKey? key, path with
    -- Without a path there is no field to compare, so no row fits.
    | some _, none => neverTrue
    | some _, some field => writeComparison field value
    | none, _ => writeComparison (extendPath path key) value

/-- The conditions of the groups in a list; those of several entries stand in parentheses. -/
def Condition.writeAlternatives : List Condition → List Text
  | [] => []
  | .group entries :: rest =>
    -- A single entry needs no parentheses around its condition.
    let sql := Connective.and.join (Condition.writeEntries none entries)
    let more := Condition.writeAlternatives rest
    if sql = [] then more
    else (if 1 < entries.length then inParens sql else sql) :: more
  | _ :: rest => Condition.writeAlternatives rest

end

/-- The condition of a whole tree, which has to be a group. -/
def Condition.write? : Condition → Option Text
  | .group entries => some (Connective.and.join (Condition.writeEntries none entries))
  | _ => none

end SqlWriter
