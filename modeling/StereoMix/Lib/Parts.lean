import Mathlib.Data.List.Basic

/-!
# Systems of like parts

A system of any number of like parts keeps them in a list, where a part's place is its name. A step adds a part at
the end, or changes the one at a place: these are the places' contents afterwards.
-/

namespace Parts

variable {α : Type} {parts : List α} {i j : Nat} {x y z : α}

/-- After a part is added: it is an old one, or the new one. -/
theorem of_added (found : (parts ++ [y])[i]? = some x) : parts[i]? = some x ∨ (i = parts.length ∧ x = y) := by
  rw [List.getElem?_append] at found
  split at found
  · exact .inl found
  · rename_i beyond
    have inside := (List.getElem?_eq_some_iff.1 found).1
    rw [List.length_singleton] at inside
    have last : i = parts.length := by omega
    subst last
    rw [Nat.sub_self] at found
    exact .inr ⟨rfl, (Option.some.inj found).symm⟩

/-- After the part at a place is changed: it is that one, or another, which is as before. -/
theorem of_set (there : parts[i]? = some x) (found : (parts.set i y)[j]? = some z) :
    (j = i ∧ z = y) ∨ (j ≠ i ∧ parts[j]? = some z) := by
  have inside := (List.getElem?_eq_some_iff.1 there).1
  by_cases same : j = i
  · subst same
    rw [List.getElem?_set_self inside, Option.some.injEq] at found
    exact .inl ⟨rfl, found.symm⟩
  · rw [List.getElem?_set_ne (Ne.symm same)] at found
    exact .inr ⟨same, found⟩

variable {β : Type} {f : α → β}

/-- What a change of the part at a place leaves is left of all parts. -/
theorem map_set (there : parts[i]? = some x) (same : f y = f x) : (parts.set i y).map f = parts.map f := by
  obtain ⟨inside, rfl⟩ := List.getElem?_eq_some_iff.1 there
  have mapped : i < (parts.map f).length := by rwa [List.length_map]
  have kept := List.set_getElem_self mapped
  rw [List.getElem_map] at kept
  rw [List.map_set, same, kept]

/-- A change at a place, seen through `f`. -/
theorem map_modify {change : α → α} {seen : β → β} (same : ∀ x, f (change x) = seen (f x)) (parts : List α) (i : Nat) :
    (parts.modify i change).map f = (parts.map f).modify i seen := by
  apply List.ext_getElem?
  intro j
  rw [List.getElem?_map, List.getElem?_modify, List.getElem?_modify, List.getElem?_map]
  cases parts[j]? with
  | none => rfl
  | some x => by_cases here : i = j <;> simp [here, same]

theorem map_modify_same {change : α → α} (same : ∀ x, f (change x) = f x) (parts : List α) (i : Nat) :
    (parts.modify i change).map f = parts.map f := by
  have seen : (parts.modify i change).map f = (parts.map f).modify i id := map_modify same parts i
  rw [seen, List.modify_id]

end Parts
