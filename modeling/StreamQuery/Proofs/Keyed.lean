import Mathlib.Data.List.Basic
import StreamQuery.Keyed
/-!
# Ordered maps

A map that was built by insertions has its keys in order, each once. What is found under a key is the
value that was put there last.
-/

namespace StreamQuery.Keyed

variable {α : Type}

/-- The keys grow. -/
def Ordered (map : Keyed α) : Prop :=
  (keys map).Pairwise (· < ·)

theorem insert_cons (key k : String) (value v : α) (rest : Keyed α) :
    insert key value ((k, v) :: rest) =
      if key = k then (key, value) :: rest
      else if key < k then (key, value) :: (k, v) :: rest
      else (k, v) :: insert key value rest :=
  rfl

theorem find?_cons (key k : String) (v : α) (rest : Keyed α) :
    find? key ((k, v) :: rest) = if key = k then some v else find? key rest :=
  rfl

@[simp] theorem ordered_nil : Ordered ([] : Keyed α) :=
  .nil

theorem ordered_cons {key : String} {value : α} {map : Keyed α} :
    Ordered ((key, value) :: map) ↔ (∀ k ∈ keys map, key < k) ∧ Ordered map :=
  List.pairwise_cons

theorem mem_keys_insert {key k : String} {value : α} {map : Keyed α} :
    k ∈ keys (insert key value map) ↔ k = key ∨ k ∈ keys map := by
  induction map with
  | nil => exact List.mem_cons
  | cons pair rest ih =>
      obtain ⟨first, found⟩ := pair
      have ih : k ∈ (insert key value rest).map Prod.fst ↔ k = key ∨ k ∈ rest.map Prod.fst := ih
      simp only [insert_cons]
      split
      · next same => simp [keys, same]
      · split
        · simp [keys]
        · simp only [keys, List.map_cons, List.mem_cons, ih]
          tauto

theorem insert_ordered {map : Keyed α} (ordered : map.Ordered) (key : String) (value : α) :
    (insert key value map).Ordered := by
  induction map with
  | nil => exact List.pairwise_singleton _ _
  | cons pair rest ih =>
      obtain ⟨first, found⟩ := pair
      obtain ⟨below, ordered⟩ := ordered_cons.1 ordered
      simp only [insert_cons]
      split
      · next same => exact ordered_cons.2 ⟨same ▸ below, ordered⟩
      · next other =>
          split
          · next less =>
              refine ordered_cons.2 ⟨?_, ordered_cons.2 ⟨below, ordered⟩⟩
              intro k member
              rcases List.mem_cons.1 member with rfl | member
              · exact less
              · exact String.lt_trans less (below k member)
          · next notLess =>
              refine ordered_cons.2 ⟨?_, ih ordered⟩
              intro k member
              rcases mem_keys_insert.1 member with rfl | member
              · exact Std.lt_of_le_of_ne (String.not_lt.1 notLess) (Ne.symm other)
              · exact below k member

theorem find?_insert (key k : String) (value : α) (map : Keyed α) :
    find? k (insert key value map) = if k = key then some value else find? k map := by
  induction map with
  | nil => rfl
  | cons pair rest ih =>
      obtain ⟨first, found⟩ := pair
      simp only [insert_cons]
      split
      · next same =>
          subst same
          simp only [find?_cons]
          split <;> rfl
      · next other =>
          split
          · rfl
          · simp only [find?_cons, ih]
            split
            · next same =>
                subst same
                rw [if_neg (Ne.symm other)]
            · rfl

theorem find?_erase (key k : String) (map : Keyed α) :
    find? k (erase key map) = if k = key then none else find? k map := by
  unfold erase
  induction map with
  | nil => exact (ite_self none).symm
  | cons pair rest ih =>
      obtain ⟨first, found⟩ := pair
      by_cases dropped : first = key
      · rw [List.filter_cons_of_neg (by simp [dropped]), ih]
        split
        · rfl
        · next other => rw [find?_cons, if_neg fun same => other (same.trans dropped)]
      · rw [List.filter_cons_of_pos (by simp [dropped]), find?_cons, ih, find?_cons]
        by_cases same : k = first
        · rw [if_pos same, if_neg fun other => dropped (same.symm.trans other), if_pos same]
        · rw [if_neg same, if_neg same]

/-- A value under a key that is greater than all others comes last. -/
theorem insert_last {map : Keyed α} {key : String} (greatest : ∀ k ∈ keys map, k < key)
    (value : α) : insert key value map = map ++ [(key, value)] := by
  induction map with
  | nil => rfl
  | cons pair rest ih =>
      obtain ⟨first, found⟩ := pair
      have less : first < key := greatest first List.mem_cons_self
      have later := ih fun k member => greatest k (List.mem_cons_of_mem _ member)
      have other : key ≠ first := fun same => String.lt_irrefl first (same ▸ less)
      simp only [insert_cons, if_neg other, if_neg (String.lt_asymm less), later, List.cons_append]

theorem mem_insert {map : Keyed α} {key : String} {value : α} {pair : String × α}
    (member : pair ∈ insert key value map) : pair = (key, value) ∨ pair ∈ map := by
  induction map with
  | nil => exact .inl (List.mem_singleton.1 member)
  | cons first rest ih =>
      obtain ⟨k, found⟩ := first
      simp only [insert_cons] at member
      split at member
      · exact (List.mem_cons.1 member).imp id (List.mem_cons_of_mem _)
      · split at member
        · exact List.mem_cons.1 member
        · rcases List.mem_cons.1 member with same | member
          · exact .inr (same ▸ List.mem_cons_self)
          · exact (ih member).imp id (List.mem_cons_of_mem _)

theorem mem_keys {map : Keyed α} {pair : String × α} (member : pair ∈ map) :
    pair.1 ∈ keys map :=
  List.mem_map_of_mem member

theorem mem_of_find? {map : Keyed α} {key : String} {value : α}
    (found : find? key map = some value) : (key, value) ∈ map := by
  induction map with
  | nil => cases found
  | cons first rest ih =>
      obtain ⟨k, other⟩ := first
      rw [find?_cons] at found
      split at found
      · next same =>
          cases found
          exact same ▸ List.mem_cons_self
      · exact List.mem_cons_of_mem _ (ih found)

theorem find?_of_mem {map : Keyed α} (ordered : map.Ordered) {pair : String × α}
    (member : pair ∈ map) : find? pair.1 map = some pair.2 := by
  induction map with
  | nil => cases member
  | cons first rest ih =>
      obtain ⟨k, found⟩ := first
      obtain ⟨below, ordered⟩ := ordered_cons.1 ordered
      rw [find?_cons]
      rcases List.mem_cons.1 member with rfl | member
      · exact if_pos rfl
      · have less : k < pair.1 := below pair.1 (mem_keys member)
        have other : pair.1 ≠ k := fun same => String.lt_irrefl k (same ▸ less)
        rw [if_neg other]
        exact ih ordered member

theorem find?_map {β : Type} (change : α → β) (key : String) (map : Keyed α) :
    find? key (map.map fun pair => (pair.1, change pair.2)) = (find? key map).map change := by
  induction map with
  | nil => rfl
  | cons pair rest ih =>
      obtain ⟨first, found⟩ := pair
      simp only [List.map_cons, find?_cons, ih]
      split <;> rfl

/-! ### Maps of given pairs -/

theorem mem_keys_foldl {pairs : List (String × α)} {key : String} (map : Keyed α) :
    key ∈ keys (pairs.foldl (fun map pair => insert pair.1 pair.2 map) map) ↔
      key ∈ pairs.map Prod.fst ∨ key ∈ keys map := by
  induction pairs generalizing map with
  | nil => simp
  | cons pair rest ih =>
      rw [List.foldl_cons, ih, mem_keys_insert, List.map_cons, List.mem_cons]
      tauto

theorem mem_keys_ofList {pairs : List (String × α)} {key : String} :
    key ∈ keys (ofList pairs) ↔ key ∈ pairs.map Prod.fst := by
  rw [ofList, mem_keys_foldl, or_iff_left]
  exact List.not_mem_nil

theorem ofList_ordered (pairs : List (String × α)) : (ofList pairs).Ordered := by
  have grown (map : Keyed α) (ordered : map.Ordered) :
      (pairs.foldl (fun map pair => insert pair.1 pair.2 map) map).Ordered := by
    induction pairs generalizing map with
    | nil => exact ordered
    | cons pair rest ih => exact ih _ (insert_ordered ordered pair.1 pair.2)
  exact grown [] ordered_nil

theorem find?_foldl_other {pairs : List (String × α)} {key : String}
    (other : ∀ pair ∈ pairs, pair.1 ≠ key) (map : Keyed α) :
    find? key (pairs.foldl (fun map pair => insert pair.1 pair.2 map) map) = find? key map := by
  induction pairs generalizing map with
  | nil => rfl
  | cons pair rest ih =>
      rw [List.foldl_cons, ih fun later member => other later (List.mem_cons_of_mem _ member),
        find?_insert, if_neg (Ne.symm (other pair List.mem_cons_self))]

theorem find?_foldl {pairs : List (String × α)} (distinct : (pairs.map Prod.fst).Nodup)
    {pair : String × α} (member : pair ∈ pairs) (map : Keyed α) :
    find? pair.1 (pairs.foldl (fun map pair => insert pair.1 pair.2 map) map) = some pair.2 := by
  induction pairs generalizing map with
  | nil => cases member
  | cons first rest ih =>
      obtain ⟨apart, distinct⟩ := List.nodup_cons.1 distinct
      rcases List.mem_cons.1 member with rfl | member
      · have other : ∀ later ∈ rest, later.1 ≠ pair.1 := fun later among same =>
          apart (same ▸ List.mem_map_of_mem among)
        rw [List.foldl_cons, find?_foldl_other other, find?_insert, if_pos rfl]
      · exact ih distinct member _

theorem mem_ofList {pairs : List (String × α)} (distinct : (pairs.map Prod.fst).Nodup)
    {pair : String × α} (member : pair ∈ pairs) : pair ∈ ofList pairs :=
  mem_of_find? (find?_foldl distinct member [])

theorem mem_of_ofList {pairs : List (String × α)} {pair : String × α}
    (member : pair ∈ ofList pairs) : pair ∈ pairs := by
  have either (map : Keyed α)
      (member : pair ∈ pairs.foldl (fun map pair => insert pair.1 pair.2 map) map) :
      pair ∈ pairs ∨ pair ∈ map := by
    clear * - member
    induction pairs generalizing map with
    | nil => exact .inr member
    | cons first rest ih =>
        rcases ih _ member with later | earlier
        · exact .inl (List.mem_cons_of_mem _ later)
        · rcases mem_insert earlier with rfl | earlier
          · exact .inl List.mem_cons_self
          · exact .inr earlier
  exact (either [] member).resolve_right List.not_mem_nil

end StreamQuery.Keyed
