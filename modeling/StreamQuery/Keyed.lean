/-!
# Values under text keys

A finite map from texts as a list of pairs in the order of its keys, one for each key. Texts compare
by the code points of their characters, which is also the order of their UTF-8 bytes.
-/

namespace StreamQuery

abbrev Keyed (α : Type) := List (String × α)

namespace Keyed

/-- Puts a value at its key's place, in place of one under the same key. -/
def insert {α : Type} (key : String) (value : α) : Keyed α → Keyed α
  | [] => [(key, value)]
  | (k, v) :: rest =>
      if key = k then (key, value) :: rest
      else if key < k then (key, value) :: (k, v) :: rest
      else (k, v) :: insert key value rest

/-- Pairs given in any order; of one key the last value counts. -/
def ofList {α : Type} (pairs : List (String × α)) : Keyed α :=
  pairs.foldl (fun map pair => insert pair.1 pair.2 map) []

def find? {α : Type} (key : String) : Keyed α → Option α
  | [] => none
  | (k, v) :: rest => if key = k then some v else find? key rest

def erase {α : Type} (key : String) (map : Keyed α) : Keyed α :=
  map.filter fun pair => pair.1 ≠ key

def keys {α : Type} (map : Keyed α) : List String :=
  map.map Prod.fst

def values {α : Type} (map : Keyed α) : List α :=
  map.map Prod.snd

end Keyed

end StreamQuery
