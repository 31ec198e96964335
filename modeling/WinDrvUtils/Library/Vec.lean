import Mathlib.Data.List.Perm.Basic
import Mathlib.Data.List.Nodup

/-!
# Operations of a vector

`swap_remove` and `retain_mut` of a vector, on lists. `swapRemove` fills the
gap with the last item, so an item that is left stays at its place unless it
was the last one. `retainMut` gives the closure each item in turn, with the
state that it shares with the rest of the program.
-/

universe u v w

namespace Vec

variable {Item : Type u} {State : Type v}

/-- The item at a place, and the vector without it. None is the panic on a
place beyond the end. -/
def swapRemove (items : List Item) (place : Nat) :
    Option (Item × List Item) :=
  match items[place]?, items.getLast? with
  | some removed, some last => some (removed, (items.set place last).dropLast)
  | _, _ => none

/-- The closure says whether the item is kept, and may change it and the
state. -/
def retainMut (keep : State → Item → Bool × State × Item) :
    State → List Item → State × List Item
  | state, [] => (state, [])
  | state, item :: rest =>
      let (kept, next, changed) := keep state item
      let (last, others) := retainMut keep next rest
      (last, if kept then changed :: others else others)

/-! ## `swap_remove` -/

section

variable {items rest : List Item} {place : Nat} {removed : Item}

theorem swapRemove_eq_some
    (removal : swapRemove items place = some (removed, rest)) :
    ∃ front last,
      items = front ++ [last] ∧ items[place]? = some removed ∧
        rest = ((front ++ [last]).set place last).dropLast := by
  unfold swapRemove at removal
  split at removal
  case h_1 here last there ended =>
      cases removal
      obtain ⟨front, split⟩ := List.getLast?_eq_some_iff.mp ended
      exact ⟨front, last, split, there, by rw [split]⟩
  case h_2 => cases removal

theorem getElem?_of_swapRemove
    (removal : swapRemove items place = some (removed, rest)) :
    items[place]? = some removed := by
  obtain ⟨_, _, _, there, _⟩ := swapRemove_eq_some removal
  exact there

theorem swapRemove_isSome (inside : place < items.length) :
    ∃ removed rest, swapRemove items place = some (removed, rest) := by
  have nonempty : items ≠ [] := List.ne_nil_of_length_pos (by omega)
  unfold swapRemove
  rw [List.getElem?_eq_getElem inside,
    List.getLast?_eq_getLast_of_ne_nil nonempty]
  exact ⟨_, _, rfl⟩

theorem swapRemove_perm
    (removal : swapRemove items place = some (removed, rest)) :
    items.Perm (removed :: rest) := by
  obtain ⟨front, last, rfl, there, rfl⟩ := swapRemove_eq_some removal
  obtain ⟨inside, here⟩ := List.getElem?_eq_some_iff.mp there
  by_cases before : place < front.length
  · rw [List.set_append_left _ _ before, List.dropLast_concat]
    have shown : front[place] = removed := by
      rw [← here, List.getElem_append_left before]
    have filled := List.set_perm_cons_eraseIdx before last
    have whole := List.getElem_cons_eraseIdx_perm before
    rw [shown] at whole
    calc
      (front ++ [last]).Perm (last :: front) := List.perm_append_singleton _ _
      _ |>.Perm (last :: removed :: front.eraseIdx place) :=
        (whole.symm.cons last)
      _ |>.Perm (removed :: last :: front.eraseIdx place) := .swap _ _ _
      _ |>.Perm (removed :: front.set place last) := (filled.symm.cons removed)
  · have final : place = front.length := by
      rw [List.length_append, List.length_singleton] at inside
      omega
    subst final
    rw [List.set_append_right _ _ (Nat.le_refl _), Nat.sub_self]
    simp only [List.getElem_concat_length] at here
    rw [← here]
    simp

theorem getElem?_swapRemove
    (removal : swapRemove items place = some (removed, rest)) (other : Nat) :
    rest[other]? =
      if other + 1 < items.length then
        if other = place then items.getLast? else items[other]?
      else none := by
  obtain ⟨front, last, rfl, there, rfl⟩ := swapRemove_eq_some removal
  rw [List.getElem?_dropLast, List.length_set]
  by_cases inside : other + 1 < (front ++ [last]).length
  · rw [if_pos inside, if_pos (by omega)]
    by_cases same : other = place
    · subst same
      rw [if_pos rfl, List.getElem?_set_self (by omega)]
      simp
    · rw [if_neg same, List.getElem?_set_ne (Ne.symm same)]
  · rw [if_neg inside, if_neg (by omega)]

/-- An item that is somewhere only once keeps its place exactly when it is
neither the one that is removed nor the last one. -/
theorem swapRemove_keeps_iff
    {item : Item} {other : Nat}
    (removal : swapRemove items place = some (removed, rest))
    (nodup : items.Nodup) (here : items[other]? = some item) :
    rest[other]? = some item ↔
      other ≠ place ∧ other + 1 ≠ items.length := by
  obtain ⟨inside, shown⟩ := List.getElem?_eq_some_iff.mp here
  rw [getElem?_swapRemove removal]
  by_cases final : other + 1 < items.length
  · rw [if_pos final]
    by_cases same : other = place
    · rw [if_pos same]
      refine iff_of_false (fun ended => ?_) (fun both => both.1 same)
      rw [List.getLast?_eq_getElem?] at ended
      obtain ⟨last, ended⟩ := List.getElem?_eq_some_iff.mp ended
      have equal : other = items.length - 1 :=
        nodup.getElem_inj_iff.mp (shown.trans ended.symm)
      omega
    · rw [if_neg same]
      exact iff_of_true here ⟨same, by omega⟩
  · rw [if_neg final]
    exact
      iff_of_false (fun none => nomatch none) fun both => both.2 (by omega)

theorem swapRemove_map
    {Image : Type v} (image : Item → Image)
    (removal : swapRemove items place = some (removed, rest)) :
    swapRemove (items.map image) place =
      some (image removed, rest.map image) := by
  obtain ⟨front, last, rfl, there, rfl⟩ := swapRemove_eq_some removal
  unfold swapRemove
  rw [List.getElem?_map, there]
  simp [List.map_dropLast, List.map_set]

end

/-! ## `retain_mut` -/

section

variable (keep : State → Item → Bool × State × Item)

/-- What is left of an item that the closure gets in a state. -/
def outcome (state : State) (item : Item) : Option Item :=
  let (kept, _, changed) := keep state item
  if kept then some changed else none

theorem retainMut_state (state : State) (items : List Item) :
    (retainMut keep state items).1 =
      items.foldl (fun state item => (keep state item).2.1) state := by
  induction items generalizing state with
  | nil => rfl
  | cons item rest inductionHypothesis =>
      exact inductionHypothesis (keep state item).2.1

/-- When the closure does nothing with an item that later ones depend on, the
items that are left are those of the first state. -/
theorem retainMut_items
    {state : State} {items : List Item}
    (independent :
      items.Pairwise fun first later => ∀ state,
        outcome keep (keep state first).2.1 later =
          outcome keep state later) :
    (retainMut keep state items).2 =
      items.filterMap (outcome keep state) := by
  induction items generalizing state with
  | nil => rfl
  | cons item rest inductionHypothesis =>
      obtain ⟨head, tail⟩ := List.pairwise_cons.mp independent
      have later :
          rest.filterMap (outcome keep (keep state item).2.1) =
            rest.filterMap (outcome keep state) :=
        List.filterMap_congr fun other member => head other member state
      rw [List.filterMap_cons, ← later, ← inductionHypothesis tail]
      rw [retainMut, outcome]
      generalize keep state item = result
      obtain ⟨kept, next, changed⟩ := result
      cases kept <;> rfl

end

section

variable {Image : Type v} {Key : Type w} {keep : Item → Option Image}
    {key : Item → Key} {imageKey : Image → Key}

theorem key_of_mem_filterMap
    (same : ∀ item image, keep item = some image → imageKey image = key item)
    {items : List Item} {found : Key}
    (member : found ∈ (items.filterMap keep).map imageKey) :
    found ∈ items.map key := by
  obtain ⟨image, kept, rfl⟩ := List.mem_map.mp member
  obtain ⟨item, there, isKept⟩ := List.mem_filterMap.mp kept
  exact List.mem_map.mpr ⟨item, there, (same item image isKept).symm⟩

/-- Where the items have different keys, an item is left at its place exactly
when it is kept and all that come before it are. -/
theorem filterMap_keeps_iff
    (same : ∀ item image, keep item = some image → imageKey image = key item)
    {items : List Item} (nodup : (items.map key).Nodup)
    {place : Nat} {item : Item} (here : items[place]? = some item) :
    ((items.filterMap keep).map imageKey)[place]? = some (key item) ↔
      ∀ other ∈ items.take (place + 1), (keep other).isSome = true := by
  obtain ⟨before, after, rfl, rfl⟩ :
      ∃ before after, items = before ++ item :: after ∧
        before.length = place := by
    obtain ⟨inside, rfl⟩ := List.getElem?_eq_some_iff.mp here
    exact
      ⟨items.take place, items.drop (place + 1), by simp, by
        rw [List.length_take]
        omega⟩
  have front :
      (before ++ item :: after).take (before.length + 1) =
        before ++ [item] :=
    List.take_length_add_append 1
  rw [List.map_append, List.map_cons, List.nodup_append,
    List.nodup_cons] at nodup
  obtain ⟨_, ⟨notAfter, _⟩, apart⟩ := nodup
  have notBefore : key item ∉ before.map key := fun member =>
    apart _ member _ List.mem_cons_self rfl
  have shorter := List.length_filterMap_le keep before
  have fullIff :
      (before.filterMap keep).length = before.length ↔
        ∀ other ∈ before, (keep other).isSome = true :=
    List.filterMap_length_eq_length
  rw [front, List.filterMap_append, List.map_append]
  cases kept : keep item with
  | none =>
      rw [List.filterMap_cons_none kept]
      refine iff_of_false (fun found => ?_) (fun all => ?_)
      · rcases List.mem_append.mp (List.mem_of_getElem? found) with
          member | member
        · exact notBefore (key_of_mem_filterMap same member)
        · exact notAfter (key_of_mem_filterMap same member)
      · have isSome := all item (by simp)
        rw [kept] at isSome
        cases isSome
  | some image =>
      rw [List.filterMap_cons_some kept, List.map_cons,
        same item image kept]
      constructor
      · intro found
        have full : (before.filterMap keep).length = before.length := by
          by_contra missing
          rw [List.getElem?_append_right (by rw [List.length_map]; omega),
            List.length_map, List.getElem?_cons,
            if_neg (by omega)] at found
          exact
            notAfter (key_of_mem_filterMap same (List.mem_of_getElem? found))
        intro other member
        rcases List.mem_append.mp member with earlier | last
        · exact fullIff.mp full other earlier
        · rw [List.mem_singleton.mp last, kept]
          rfl
      · intro all
        have full := fullIff.mpr fun other member =>
          all other (List.mem_append_left _ member)
        rw [List.getElem?_append_right (by rw [List.length_map]; omega),
          List.length_map, full, Nat.sub_self]
        rfl
end

end Vec
