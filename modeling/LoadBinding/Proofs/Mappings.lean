import Mathlib
import LoadBinding.Mapping

/-!
# Laws of ordered mappings

What is left of a mapping when the value of a key it has is replaced: the pair is exchanged in its
place, and nothing else changes.  The laws beside the definitions say how a mapping is read after it
was written; those of this file say what its pairs are.
-/

namespace LoadBinding.Mapping

variable {α β : Type}

/-- The pair of a key stands somewhere in the mapping, and writing the key exchanges it. -/
lemma exists_split {m : Mapping α} {key : String} {v : α} (h : m.get? key = some v) :
    ∃ before after : Mapping α, m = before ++ (key, v) :: after ∧
      ∀ v', m.set key v' = before ++ (key, v') :: after := by
  induction m with
  | nil => cases h
  | cons pair rest ih =>
    obtain ⟨k, v₀⟩ := pair
    rw [get?_cons] at h
    by_cases hk : key = k
    · subst hk
      obtain rfl : v₀ = v := by simpa using h
      exact ⟨[], rest, rfl, fun v' => by simp [set]⟩
    · obtain ⟨before, after, hm, hset⟩ := ih (by simpa [hk] using h)
      refine ⟨(k, v₀) :: before, after, by rw [hm, List.cons_append], fun v' => ?_⟩
      rw [set, if_neg (by simpa using hk), hset, List.cons_append]

lemma mem_of_get? {m : Mapping α} {key : String} {v : α} (h : m.get? key = some v) :
    (key, v) ∈ m := by
  obtain ⟨before, after, hm, -⟩ := exists_split h
  rw [hm]
  exact List.mem_append_right _ List.mem_cons_self

/-- A pair is found under its key if no other pair has the key. -/
lemma get?_of_mem {m : Mapping α} (hm : (keys m).Nodup) {pair : String × α} (h : pair ∈ m) :
    m.get? pair.1 = some pair.2 := by
  induction m with
  | nil => cases h
  | cons first rest ih =>
    obtain ⟨k, v⟩ := first
    obtain ⟨hk, hrest⟩ := List.nodup_cons.mp hm
    rw [get?_cons]
    rcases List.mem_cons.mp h with rfl | h
    · exact if_pos (beq_self_eq_true k)
    · have hmem : pair.1 ∈ keys rest := List.mem_map_of_mem h
      have hne : pair.1 ≠ k := fun heq => hk (heq ▸ hmem)
      rw [if_neg (by simpa using hne)]
      exact ih hrest h

/-- Replacing the value of a key adds at most the new pair. -/
lemma mem_set {m : Mapping α} {key : String} {v : α} {pair : String × α}
    (h : pair ∈ m.set key v) : pair = (key, v) ∨ pair ∈ m := by
  induction m with
  | nil => exact .inl (List.mem_singleton.mp h)
  | cons first rest ih =>
    obtain ⟨k, v₀⟩ := first
    rw [set] at h
    split at h
    · rename_i hk
      obtain rfl : key = k := by simpa using hk
      rcases List.mem_cons.mp h with h | h
      · exact .inl h
      · exact .inr (List.mem_cons_of_mem _ h)
    · rcases List.mem_cons.mp h with h | h
      · exact .inr (h ▸ List.mem_cons_self)
      · rcases ih h with h | h
        · exact .inl h
        · exact .inr (List.mem_cons_of_mem _ h)

/-- The pairs of other keys stay. -/
lemma mem_set_of_ne {m : Mapping α} {key : String} {v : α} {pair : String × α} (h : pair ∈ m)
    (hne : pair.1 ≠ key) : pair ∈ m.set key v := by
  induction m with
  | nil => cases h
  | cons first rest ih =>
    obtain ⟨k, v₀⟩ := first
    rw [set]
    rcases List.mem_cons.mp h with rfl | h
    · rw [if_neg (by simpa using Ne.symm hne)]
      exact List.mem_cons_self
    · split
      · exact List.mem_cons_of_mem _ h
      · exact List.mem_cons_of_mem _ (ih h)

/-- Replacing the value of a key changes the number of pairs of some kind by that pair alone. -/
lemma countP_set {m : Mapping α} {key : String} {v : α} (h : m.get? key = some v)
    (p : String × α → Bool) (v' : α) :
    (m.set key v').countP p + (if p (key, v) then 1 else 0) =
      m.countP p + (if p (key, v') then 1 else 0) := by
  obtain ⟨before, after, hm, hset⟩ := exists_split h
  rw [hset, hm]
  simp only [List.countP_append, List.countP_cons]
  omega

/-- A key is looked for behind the pairs that do not have it. -/
lemma get?_append_of_not_mem {m : Mapping α} {key : String} (h : key ∉ keys m) (m' : Mapping α) :
    get? (m ++ m') key = get? m' key := by
  induction m with
  | nil => rfl
  | cons pair rest ih =>
    obtain ⟨k, v⟩ := pair
    obtain ⟨hk, hrest⟩ : key ≠ k ∧ key ∉ keys rest := by simpa [keys] using h
    rw [List.cons_append, get?_cons, if_neg (by simpa using hk), ih hrest]

/-- A key is written behind the pairs that do not have it. -/
lemma set_append_of_not_mem {m : Mapping α} {key : String} (h : key ∉ keys m) (m' : Mapping α)
    (v : α) : set (m ++ m') key v = m ++ set m' key v := by
  induction m with
  | nil => rfl
  | cons pair rest ih =>
    obtain ⟨k, v₀⟩ := pair
    obtain ⟨hk, hrest⟩ : key ≠ k ∧ key ∉ keys rest := by simpa [keys] using h
    rw [List.cons_append, set, if_neg (by simpa using hk), ih hrest, List.cons_append]

@[simp] lemma keys_mapValues (f : α → β) (m : Mapping α) : keys (m.mapValues f) = keys m := by
  simp [keys, mapValues, Function.comp_def]

lemma get?_mapValues (f : α → β) (m : Mapping α) (key : String) :
    (m.mapValues f).get? key = (m.get? key).map f := by
  induction m with
  | nil => rfl
  | cons pair rest ih =>
    obtain ⟨k, v⟩ := pair
    rw [get?_cons]
    refine (get?_cons k (f v) _ key).trans ?_
    split
    · rfl
    · exact ih

/-- Every key of a mapping has a value. -/
lemma exists_get?_of_mem_keys {m : Mapping α} {key : String} (h : key ∈ keys m) :
    ∃ v, m.get? key = some v := by
  induction m with
  | nil => cases h
  | cons pair rest ih =>
    obtain ⟨k, v⟩ := pair
    rw [get?_cons]
    split
    · exact ⟨v, rfl⟩
    · rename_i hk
      have hne : key ≠ k := by simpa using hk
      exact ih ((List.mem_cons.mp h).resolve_left hne)

lemma not_mem_keys_of_has_eq_false {m : Mapping α} {key : String} (h : m.has key = false) :
    key ∉ keys m := by
  intro hmem
  obtain ⟨v, hv⟩ := exists_get?_of_mem_keys hmem
  rw [has, hv] at h
  cases h

/-- Writing the value that a key has changes nothing. -/
lemma set_of_get? {m : Mapping α} {key : String} {v : α} (h : m.get? key = some v) :
    m.set key v = m := by
  obtain ⟨before, after, hm, hset⟩ := exists_split h
  rw [hset, hm]

lemma mapValues_set (f : α → β) (m : Mapping α) (key : String) (v : α) :
    (m.set key v).mapValues f = (m.mapValues f).set key (f v) := by
  induction m with
  | nil => rfl
  | cons pair rest ih =>
    obtain ⟨k, v₀⟩ := pair
    have hcons : mapValues f ((k, v₀) :: rest) = (k, f v₀) :: mapValues f rest := rfl
    rw [hcons, set, set]
    split
    · rfl
    · rw [← ih]
      rfl

@[simp] lemma length_mapValues (f : α → β) (m : Mapping α) : (m.mapValues f).length = m.length :=
  List.length_map _

/-- Where only pairs of some keys are kept, those keys keep their values. -/
lemma get?_filter (m : Mapping α) (keeps : String → Bool) (key : String) :
    get? (m.filter fun pair => keeps pair.1) key = if keeps key then m.get? key else none := by
  induction m with
  | nil => simp
  | cons pair rest ih =>
    obtain ⟨k, v⟩ := pair
    rw [List.filter_cons]
    by_cases h : key = k
    · subst h
      by_cases hk : keeps key <;> simp_all [get?_cons]
    · by_cases hk : keeps k <;> simp_all [get?_cons]

/-- What is read of a mapping after a key has been removed. -/
lemma get?_erase (m : Mapping α) (k key : String) :
    (m.erase k).get? key = if key = k then none else m.get? key := by
  refine (m.get?_filter (· != k) key).trans ?_
  by_cases h : key = k <;> simp [h]

/-- A value that all changes of its key agree on. -/
lemma get?_update_of_forall {m changes : Mapping α} {key : String} {v : α}
    (hm : m.get? key = some v) (hc : ∀ pair ∈ changes, pair.1 = key → pair.2 = v) :
    (m.update changes).get? key = some v := by
  induction changes generalizing m with
  | nil => exact hm
  | cons pair rest ih =>
    refine ih (m := m.set pair.1 pair.2) ?_ fun p hp => hc p (List.mem_cons_of_mem _ hp)
    rw [get?_set]
    split
    · rename_i h
      rw [hc pair List.mem_cons_self h.symm]
    · exact hm

/-- A key keeps its value under changes, or takes one that they give to it. -/
lemma get?_update_cases (m changes : Mapping α) (key : String) :
    (m.update changes).get? key = m.get? key ∨
      ∃ v, (key, v) ∈ changes ∧ (m.update changes).get? key = some v := by
  induction changes generalizing m with
  | nil => exact .inl rfl
  | cons pair rest ih =>
    obtain ⟨k, v⟩ := pair
    change (update (m.set k v) rest).get? key = _ ∨
      ∃ v', _ ∧ (update (m.set k v) rest).get? key = _
    rcases ih (m.set k v) with hkept | ⟨v', hmem, hnew⟩
    · rw [hkept, get?_set]
      split
      · rename_i heq
        exact .inr ⟨v, heq ▸ List.mem_cons_self, rfl⟩
      · exact .inl rfl
    · exact .inr ⟨v', List.mem_cons_of_mem _ hmem, hnew⟩

/-- Changes leave the keys alone that they do not have. -/
lemma get?_update_of_not_mem {m changes : Mapping α} {key : String} (h : key ∉ keys changes) :
    (m.update changes).get? key = m.get? key := by
  induction changes generalizing m with
  | nil => rfl
  | cons pair rest ih =>
    obtain ⟨hne, hrest⟩ : key ≠ pair.1 ∧ key ∉ keys rest := by simpa [keys] using h
    refine (ih (m := m.set pair.1 pair.2) hrest).trans ?_
    rw [get?_set, if_neg hne]

/-- The last value that some changes give to a key is read after them. -/
lemma get?_update_of_get? {m changes : Mapping α} (hc : (keys changes).Nodup) {key : String} {v : α}
    (h : changes.get? key = some v) : (m.update changes).get? key = some v := by
  induction changes generalizing m with
  | nil => cases h
  | cons pair rest ih =>
    obtain ⟨k, v₀⟩ := pair
    obtain ⟨hk, hrest⟩ := List.nodup_cons.mp hc
    rw [get?_cons] at h
    by_cases heq : key = k
    · subst heq
      rw [if_pos (beq_self_eq_true key)] at h
      refine (get?_update_of_not_mem (m := m.set key v₀) hk).trans ?_
      rw [get?_set, if_pos rfl, h]
    · rw [if_neg (by simpa using heq)] at h
      exact ih (m := m.set k v₀) hrest h

lemma get?_eq_none_of_not_mem {m : Mapping α} {key : String} (h : key ∉ keys m) :
    m.get? key = none := by
  have hget := get?_append_of_not_mem h []
  rwa [List.append_nil] at hget

/-- A first pair stays where it is when another key is written. -/
lemma set_cons_of_ne {k key : String} (h : key ≠ k) (m : Mapping α) (v v' : α) :
    set ((k, v) :: m) key v' = (k, v) :: m.set key v' := by
  rw [set, if_neg (by simpa using h)]

lemma update_cons_of_not_mem {k : String} (m : Mapping α) (v : α) {changes : Mapping α}
    (h : k ∉ keys changes) : update ((k, v) :: m) changes = (k, v) :: m.update changes := by
  induction changes generalizing m with
  | nil => rfl
  | cons pair rest ih =>
    obtain ⟨hne, hrest⟩ : k ≠ pair.1 ∧ k ∉ keys rest := by simpa [keys] using h
    refine Eq.trans ?_ (ih (m.set pair.1 pair.2) hrest)
    exact congrArg (fun m' => update m' rest) (set_cons_of_ne (Ne.symm hne) m v pair.2)

lemma not_mem_keys_of_get?_eq_none {m : Mapping α} {key : String} (h : m.get? key = none) :
    key ∉ keys m := by
  intro hmem
  obtain ⟨v, hv⟩ := exists_get?_of_mem_keys hmem
  rw [h] at hv
  cases hv

/-- Pairs with different keys are all kept when they are written in turn. -/
lemma ofPairs_of_nodup {pairs : List (String × α)} (h : (keys pairs).Nodup) :
    ofPairs pairs = pairs := by
  induction pairs with
  | nil => rfl
  | cons pair rest ih =>
    obtain ⟨hfirst, hrest⟩ := List.nodup_cons.mp h
    calc ofPairs (pair :: rest) = update [(pair.1, pair.2)] rest := rfl
      _ = pair :: ofPairs rest := update_cons_of_not_mem [] pair.2 hfirst
      _ = pair :: rest := by rw [ih hrest]

lemma mem_keys_iff {m : Mapping α} {key : String} : key ∈ keys m ↔ ∃ v, m.get? key = some v := by
  constructor
  · intro h
    exact exists_get?_of_mem_keys h
  · rintro ⟨v, hv⟩
    exact List.mem_map_of_mem (mem_of_get? hv)

lemma has_eq_true_iff {m : Mapping α} {key : String} : m.has key = true ↔ key ∈ keys m := by
  constructor
  · intro h
    obtain ⟨v, hv⟩ := Option.isSome_iff_exists.mp h
    exact List.mem_map_of_mem (mem_of_get? hv)
  · intro h
    obtain ⟨v, hv⟩ := exists_get?_of_mem_keys h
    rw [has, hv, Option.isSome_some]

lemma has_set (m : Mapping α) (k : String) (v : α) (key : String) :
    (m.set k v).has key = (key == k || m.has key) := by
  unfold has
  rw [get?_set]
  by_cases h : key = k <;> simp [h]

end LoadBinding.Mapping
