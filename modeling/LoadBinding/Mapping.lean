/-!
# Ordered mappings

Property bags, payloads, documents and option sets are mappings that remember the order in which
their keys were first written.  A mapping is a list of pairs; `set` writes a new key at the end and
an old one in its place, so a mapping built by `set` alone has each key once.
-/

namespace LoadBinding

/-- A mapping from texts, in the order in which its keys were first written. -/
abbrev Mapping (α : Type) := List (String × α)

namespace Mapping

variable {α β : Type}

/-- The value of a key. -/
def get? (m : Mapping α) (key : String) : Option α :=
  List.lookup key m

/-- Whether a key has a value. -/
def has (m : Mapping α) (key : String) : Bool :=
  (m.get? key).isSome

/-- The keys in their order. -/
def keys (m : Mapping α) : List String :=
  m.map Prod.fst

/-- Writes a value, in the place of the old one or at the end. -/
def set : Mapping α → String → α → Mapping α
  | [], key, value => [(key, value)]
  | (k, v) :: rest, key, value =>
    if key == k then (k, value) :: rest else (k, v) :: set rest key value

/-- Writes every pair of a second mapping in turn. -/
def update (m changes : Mapping α) : Mapping α :=
  changes.foldl (fun m (key, value) => set m key value) m

/-- The mapping that results from writing some pairs in turn. -/
def ofPairs (pairs : List (String × α)) : Mapping α :=
  update [] pairs

/-- Removes a key. -/
def erase (m : Mapping α) (key : String) : Mapping α :=
  m.filter fun pair => pair.1 != key

/-- Applies a function to every value. -/
def mapValues (f : α → β) (m : Mapping α) : Mapping β :=
  m.map fun (key, value) => (key, f value)

/-! ## Reading after writing -/

@[simp] theorem get?_nil (key : String) : get? ([] : Mapping α) key = none := rfl

theorem get?_cons (k : String) (v : α) (m : Mapping α) (key : String) :
    get? ((k, v) :: m) key = if key == k then some v else get? m key := by
  simp only [get?, List.lookup_cons]
  split <;> simp_all

theorem get?_set (m : Mapping α) (k : String) (v : α) (key : String) :
    get? (set m k v) key = if key = k then some v else get? m key := by
  induction m with
  | nil => simp [set, get?_cons]
  | cons pair rest ih =>
    obtain ⟨k', v'⟩ := pair
    by_cases hk : k = k'
    · subst hk
      by_cases h : key = k <;> simp [set, get?_cons, h]
    · by_cases h : key = k'
      · subst h
        simp [set, get?_cons, hk, Ne.symm hk]
      · simp [set, get?_cons, hk, h, ih]

theorem keys_set (m : Mapping α) (k : String) (v : α) :
    keys (set m k v) = if k ∈ keys m then keys m else keys m ++ [k] := by
  induction m with
  | nil => simp [set, keys]
  | cons pair rest ih =>
    obtain ⟨k', v'⟩ := pair
    by_cases hk : k = k'
    · simp [set, keys, hk]
    · simp only [keys] at ih
      by_cases h : k ∈ rest.map Prod.fst <;> simp_all [set, keys]

theorem nodup_keys_set {m : Mapping α} (h : (keys m).Nodup) (k : String) (v : α) :
    (keys (set m k v)).Nodup := by
  rw [keys_set]
  split
  · exact h
  · rename_i hk
    rw [List.nodup_append]
    refine ⟨h, by simp, ?_⟩
    rintro a ha b hb rfl
    simp_all

end Mapping

end LoadBinding
