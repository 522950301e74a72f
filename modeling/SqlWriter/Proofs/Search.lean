import Mathlib.Data.List.Basic

/-! Searches through lists of which all answers agree: they find the answer in any order. -/

namespace SqlWriter

variable {α β : Type} {read : α → Option β} {items : List α}

/-- A search finds what can be read at one item if nothing else can be read at any item. -/
theorem findSome?_eq_some_of_agree {item : α} {found : β} (there : item ∈ items)
    (here : read item = some found)
    (agree : ∀ other ∈ items, ∀ value, read other = some value → value = found) :
    items.findSome? read = some found := by
  -- The search stops at some item, although it need not be this one.
  have stops : (items.findSome? read).isSome = true :=
    List.findSome?_isSome_iff.mpr ⟨item, there, by rw [here]; rfl⟩
  obtain ⟨value, first⟩ := Option.isSome_iff_exists.mp stops
  obtain ⟨other, member, reads⟩ := List.exists_of_findSome?_eq_some first
  rw [first, agree other member value reads]

/-- A search that can read one value only finds it in any order. -/
theorem findSome?_perm {others : List α} (perm : others.Perm items)
    (agree : ∀ item ∈ items, ∀ other ∈ items, ∀ found value,
      read item = some found → read other = some value → value = found) :
    others.findSome? read = items.findSome? read := by
  -- Whether anything is found depends on the items alone, and what is found does by agreement.
  cases result : items.findSome? read with
  | none =>
    rw [List.findSome?_eq_none_iff] at result ⊢
    exact fun item there => result item (perm.mem_iff.mp there)
  | some found =>
    obtain ⟨item, there, here⟩ := List.exists_of_findSome?_eq_some result
    apply findSome?_eq_some_of_agree (perm.mem_iff.mpr there) here
    intro other member value reads
    exact agree item there other (perm.mem_iff.mp member) found value here reads

end SqlWriter
