import SqlWriter.Text.Basic

/-! The kinds of statements and the directions of sorting, with the words that name them. -/

namespace SqlWriter

/-- The kinds of statements. -/
inductive StatementKind where
  | select
  | count
  | delete
  | update
  | insert
  | insertMany
deriving DecidableEq, Repr

/-- The canonical name of a kind. -/
def StatementKind.name : StatementKind → String
  | .select => "select"
  | .count => "count"
  | .delete => "delete"
  | .update => "update"
  | .insert => "insert"
  | .insertMany => "insert-many"

/-- The kind that a word names, in any case and with underscores for hyphens. -/
def StatementKind.ofText? (text : Text) : Option StatementKind :=
  -- Several words name one kind, so that the usual verbs for it all work.
  let word := (lowerCase text).map fun c => if c = '_' then '-' else c
  let named (words : List String) := words.any fun known => word == known.toList
  if named ["select", "get"] then some .select
  else if named ["count"] then some .count
  else if named ["delete", "remove", "del"] then some .delete
  else if named ["update", "set"] then some .update
  else if named ["insert", "add"] then some .insert
  else if named ["insert-many", "insertmany"] then some .insertMany
  else none

/-- The directions that rows are sorted in. -/
inductive SortDirection where
  | ascending
  | descending
deriving DecidableEq, Repr

/-- The keyword for a direction. -/
def SortDirection.keyword : SortDirection → Text
  | .ascending => "ASC".toList
  | .descending => "DESC".toList

/-- The direction that a word names in any case. -/
def SortDirection.ofText? (text : Text) : Option SortDirection :=
  if lowerCase text = "asc".toList then some .ascending
  else if lowerCase text = "desc".toList then some .descending
  else none

/-- The direction that a keyword names, all in capitals or all in small letters. -/
def SortDirection.ofKeyword? (text : Text) : Option SortDirection :=
  if text = "ASC".toList || text = "asc".toList then some .ascending
  else if text = "DESC".toList || text = "desc".toList then some .descending
  else none

end SqlWriter
