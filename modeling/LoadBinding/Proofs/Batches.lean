import LoadBinding.Proofs.Mappings
import LoadBinding.Record.Batch

/-!
# What a batch holds

The buffers of a batch are read by table (`Batch.buffer`).  Buffering a document puts it at the end
of the buffer of its table, and draining splits the batch: what is buffered for a table is either
among the drained documents or still in the batch, in the same order, and never in both.
-/

namespace LoadBinding.Batch

/-! ## Documents by table -/

/-- The documents that a list of buffers, or of writes, has for a table. -/
def docsOf (pairs : List (String × List Document)) (table : String) : List Document :=
  pairs.flatMap fun pair => if pair.1 = table then pair.2 else []

@[simp] lemma docsOf_nil (table : String) : docsOf [] table = [] := rfl

@[simp] lemma docsOf_append (first second : List (String × List Document)) (table : String) :
    docsOf (first ++ second) table = docsOf first table ++ docsOf second table :=
  List.flatMap_append

lemma docsOf_cons (pair : String × List Document) (rest : List (String × List Document))
    (table : String) :
    docsOf (pair :: rest) table = (if pair.1 = table then pair.2 else []) ++ docsOf rest table :=
  rfl

@[simp] lemma docsOf_singleton (name : String) (docs : List Document) (table : String) :
    docsOf [(name, docs)] table = if name = table then docs else [] := by
  rw [docsOf_cons, docsOf_nil, List.append_nil]

/-- A table with documents has a pair. -/
lemma exists_mem_of_docsOf_ne_nil {pairs : List (String × List Document)} {table : String}
    (h : docsOf pairs table ≠ []) : ∃ pair ∈ pairs, pair.1 = table := by
  by_contra hnone
  refine h (List.flatMap_eq_nil_iff.mpr fun pair hpair => if_neg fun htable => ?_)
  exact hnone ⟨pair, hpair, htable⟩

/-! ## Buffering -/

variable (b : Batch) (table : String) (doc : Document)

/-- A new batch has no documents. -/
lemma eq_of_create {size : ℤ} {b : Batch} (h : Batch.create size = .ok b) :
    b = { size := size } := by
  unfold Batch.create at h
  split at h <;> cases h
  rfl

@[simp] lemma buffer_create (size : ℤ) : ({ size := size } : Batch).buffer table = [] := rfl

lemma buffer_add (t : String) :
    (b.add table doc).1.buffer t = b.buffer t ++ if t = table then [doc] else [] := by
  unfold add buffer
  rw [Mapping.get?_set]
  split
  · rename_i h
    rw [h, Option.getD_some]
  · rw [List.append_nil]

/-- A buffer is full when it has reached the size of the batch. -/
lemma add_isFull :
    (b.add table doc).2 = decide (b.size ≤ ((b.add table doc).1.buffer table).length) := by
  rw [buffer_add, if_pos rfl]
  rfl

lemma buffer_take (t : String) :
    (b.take table).2.buffer t = if t = table then [] else b.buffer t := by
  unfold take buffer
  rw [Mapping.get?_erase]
  split <;> rfl

/-! ## Draining -/

lemma size_drainTables (tables : List String) : (b.drainTables tables).2.size = b.size := by
  induction tables generalizing b with
  | nil => rfl
  | cons table rest ih => exact ih (b.take table).2

lemma drainTables_cons (rest : List String) :
    b.drainTables (table :: rest) =
      (if (b.buffer table).isEmpty then ((b.take table).2.drainTables rest).1
        else (table, b.buffer table) :: ((b.take table).2.drainTables rest).1,
        ((b.take table).2.drainTables rest).2) := rfl

/-- What a table has buffered is drained exactly if the table is among those to be drained. -/
lemma docsOf_drainTables (tables : List String) (t : String) :
    docsOf (b.drainTables tables).1 t = if t ∈ tables then b.buffer t else [] := by
  induction tables generalizing b with
  | nil => rfl
  | cons table rest ih =>
    have hdrained : docsOf (b.drainTables (table :: rest)).1 t =
        (if table = t then b.buffer table else []) ++
          docsOf ((b.take table).2.drainTables rest).1 t := by
      rw [drainTables_cons]
      cases hb : b.buffer table with
      | nil => simp
      | cons first others => exact docsOf_cons _ _ _
    rw [hdrained, ih, buffer_take]
    by_cases h : t = table
    · simp [h]
    · simp [h, Ne.symm h]

lemma buffer_drainTables (tables : List String) (t : String) :
    (b.drainTables tables).2.buffer t = if t ∈ tables then [] else b.buffer t := by
  induction tables generalizing b with
  | nil => rfl
  | cons table rest ih =>
    rw [drainTables_cons, ih, buffer_take]
    by_cases h : t = table
    · simp [h]
    · simp [h]

/-- Only buffers with documents are drained, and each as a whole. -/
lemma mem_drainTables {tables : List String} {pair : String × List Document}
    (h : pair ∈ (b.drainTables tables).1) : pair.2 ≠ [] ∧ pair.2 = b.buffer pair.1 := by
  induction tables generalizing b with
  | nil => cases h
  | cons table rest ih =>
    have later (h : pair ∈ ((b.take table).2.drainTables rest).1) :
        pair.2 ≠ [] ∧ pair.2 = b.buffer pair.1 := by
      obtain ⟨hne, hbuffer⟩ := ih (b.take table).2 h
      rw [buffer_take] at hbuffer
      split at hbuffer
      · exact absurd hbuffer hne
      · exact ⟨hne, hbuffer⟩
    rw [drainTables_cons] at h
    dsimp only at h
    split at h
    · exact later h
    · rename_i hb
      rcases List.mem_cons.mp h with rfl | h
      · exact ⟨by simpa using hb, rfl⟩
      · exact later h

/-- Each table is drained once, however often it is selected. -/
lemma nodup_drainTables (tables : List String) :
    ((b.drainTables tables).1.map Prod.fst).Nodup := by
  induction tables generalizing b with
  | nil => exact List.nodup_nil
  | cons table rest ih =>
    rw [drainTables_cons]
    dsimp only
    split
    · exact ih _
    · refine List.nodup_cons.mpr ⟨fun hmem => ?_, ih _⟩
      -- The buffer of the table has been taken, so nothing of it can be drained again.
      obtain ⟨pair, hpair, rfl⟩ := List.mem_map.mp hmem
      obtain ⟨hne, hbuffer⟩ := (b.take pair.1).2.mem_drainTables hpair
      rw [buffer_take, if_pos rfl] at hbuffer
      exact hne hbuffer

/-- A table with buffered documents is among the tables of the batch. -/
lemma mem_tables {t : String} (h : b.buffer t ≠ []) : t ∈ b.tables := by
  unfold buffer at h
  cases hget : b.buffers.get? t with
  | none =>
    rw [hget] at h
    exact absurd rfl h
  | some docs =>
    rw [hget, Option.getD_some] at h
    refine List.mem_map.mpr ⟨(t, docs), List.mem_filter.mpr ⟨Mapping.mem_of_get? hget, ?_⟩, rfl⟩
    simpa using h

variable (selection : Option String)

@[simp] lemma size_drain : (b.drain selection).2.size = b.size := by
  cases selection <;> exact size_drainTables b _

/-- What is buffered for a table is drained or stays. -/
lemma docsOf_drain_append (t : String) :
    docsOf (b.drain selection).1 t ++ (b.drain selection).2.buffer t = b.buffer t := by
  have split_tables (tables : List String) :
      docsOf (b.drainTables tables).1 t ++ (b.drainTables tables).2.buffer t = b.buffer t := by
    rw [docsOf_drainTables, buffer_drainTables]
    split
    · exact List.append_nil _
    · rfl
  cases selection <;> exact split_tables _

/-- What a batch has buffered for a table, if the table is among those that are selected. -/
def selected (table : String) : List Document :=
  if selection = none ∨ selection = some table then b.buffer table else []

/-- What is drained for a table is what it has buffered, if it is selected. -/
lemma docsOf_drain (table : String) :
    docsOf (b.drain selection).1 table = b.selected selection table := by
  unfold selected
  cases selection with
  | none =>
    rw [if_pos (.inl rfl)]
    refine (b.docsOf_drainTables b.tables table).trans ?_
    split
    · rfl
    · rename_i h
      by_contra hne
      exact h (b.mem_tables (Ne.symm hne))
  | some name =>
    refine (b.docsOf_drainTables [name] table).trans ?_
    simp [eq_comm]

/-- What stays buffered for a table is what is not selected. -/
lemma buffer_drain (table : String) : (b.drain selection).2.buffer table =
    if (b.selected selection table).isEmpty then b.buffer table else [] := by
  have hsplit := b.docsOf_drain_append selection table
  rw [docsOf_drain] at hsplit
  unfold selected at hsplit ⊢
  split at hsplit
  · rename_i hselected
    rw [if_pos hselected]
    rw [List.append_right_eq_self.mp hsplit]
    split
    · rename_i hempty
      exact (List.isEmpty_iff.mp hempty).symm
    · rfl
  · rename_i hselected
    rw [if_neg hselected]
    exact hsplit

/-- After draining all tables nothing is buffered. -/
lemma buffer_drain_none (t : String) : (b.drain none).2.buffer t = [] := by
  refine (buffer_drainTables b b.tables t).trans ?_
  split
  · rfl
  · rename_i h
    by_contra hne
    exact h (mem_tables b hne)

lemma mem_drain {pair : String × List Document} (h : pair ∈ (b.drain selection).1) :
    pair.2 ≠ [] ∧ pair.2 = b.buffer pair.1 := by
  cases selection <;> exact mem_drainTables b h

lemma nodup_drain : ((b.drain selection).1.map Prod.fst).Nodup := by
  cases selection <;> exact b.nodup_drainTables _

/-- A batch that counts no documents has empty buffers. -/
lemma buffer_of_count_eq_zero (h : b.count = 0) (t : String) : b.buffer t = [] := by
  unfold buffer
  cases hget : b.buffers.get? t with
  | none => rfl
  | some docs =>
    have hnone := List.flatMap_eq_nil_iff.mp (List.eq_nil_of_length_eq_zero h)
    exact hnone (t, docs) (Mapping.mem_of_get? hget)

/-- A batch that counts no documents has nothing to drain. -/
lemma drain_of_count_eq_zero (h : b.count = 0) : (b.drain selection).1 = [] := by
  refine List.eq_nil_iff_forall_not_mem.mpr fun pair hpair => ?_
  obtain ⟨hne, hbuffer⟩ := b.mem_drain selection hpair
  exact hne (hbuffer.trans (b.buffer_of_count_eq_zero h pair.1))

/-- The tables that are drained are those selected that have something buffered. -/
lemma mem_drained (table : String) :
    table ∈ (b.drain selection).1.map Prod.fst ↔ b.selected selection table ≠ [] := by
  rw [← b.docsOf_drain]
  constructor
  · intro htable
    obtain ⟨pair, hpair, rfl⟩ := List.mem_map.mp htable
    obtain ⟨hne, -⟩ := b.mem_drain selection hpair
    intro hnone
    have hdocs := List.flatMap_eq_nil_iff.mp hnone pair hpair
    rw [if_pos rfl] at hdocs
    exact hne hdocs
  · intro hne
    obtain ⟨pair, hpair, rfl⟩ := exists_mem_of_docsOf_ne_nil hne
    exact List.mem_map_of_mem hpair

end LoadBinding.Batch
