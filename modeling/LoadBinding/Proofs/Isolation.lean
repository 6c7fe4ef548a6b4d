import LoadBinding.Proofs.Intactness
import LoadBinding.Proofs.Records

/-!
# Isolation of locations

A worker with a location only works on the documents of its location: its reads, updates, deletions
and scans have the same results, log the same, and do the same to the documents of the location, as
if no other documents were stored; and they leave all other documents as they are.

`World.within` takes the documents without some property out of all tables.  That an activity
commutes with it and leaves alone what is taken out is `World.Confines`.  This is shown for each
call whose filter passes over the other documents (`Filter.PassesOver`), and then for everything
built from such calls.
-/

namespace LoadBinding

open LoadBinding.Text LoadBinding.Action World Collection

variable {α β : Type} {p : Document → Bool}

/-! ## Documents with a property -/

/-- The collection without the documents that do not have a property. -/
def Collection.within (c : Collection) (p : Document → Bool) : Collection :=
  { c with rows := c.rows.filter fun row => p row.doc }

/-- The database without the documents that do not have a property. -/
def Database.within (d : Database) (p : Document → Bool) : Database :=
  { d with collections := d.collections.mapValues fun c => c.within p }

/-- The cluster without the documents that do not have a property. -/
def Cluster.within (c : Cluster) (p : Document → Bool) : Cluster :=
  { c with databases := c.databases.mapValues fun d => d.within p }

/-- The world without the stored documents that do not have a property. -/
def World.within (w : World) (p : Document → Bool) : World :=
  { w with cluster := w.cluster.within p }

/-- The harness without the stored documents that do not have a property. -/
def Harness.within (h : Harness) (p : Document → Bool) : Harness :=
  { h with world := h.world.within p }

/-- The rows of a collection whose documents do not have a property. -/
def Collection.outside (c : Collection) (p : Document → Bool) : List Row :=
  c.rows.filter fun row => !p row.doc

/-- The rows of a table whose documents do not have a property. -/
def World.outside (w : World) (p : Document → Bool) (database table : String) : List Row :=
  (w.cluster.collection database table).outside p

/-! ### Reading what is left -/

namespace Cluster

variable (c : Cluster)

lemma database_within (name : String) :
    (c.within p).database name = (c.database name).within p := by
  unfold within database
  rw [Mapping.get?_mapValues]
  cases c.databases.get? name <;> rfl

lemma collection_within (database name : String) :
    (c.within p).collection database name = (c.collection database name).within p := by
  unfold collection
  rw [database_within]
  unfold Database.collection Database.within
  rw [Mapping.get?_mapValues]
  cases (c.database database).collections.get? name <;> rfl

lemma within_setDatabase (name : String) (d : Database) :
    (c.setDatabase name d).within p = (c.within p).setDatabase name (d.within p) := by
  unfold setDatabase within
  rw [Mapping.mapValues_set]

lemma within_setCollection (database name : String) (x : Collection) :
    (c.setCollection database name x).within p =
      (c.within p).setCollection database name (x.within p) := by
  unfold setCollection
  rw [within_setDatabase, database_within]
  unfold Database.within
  rw [Mapping.mapValues_set]

lemma within_useDatabase (name : String) :
    (c.useDatabase name).within p = (c.within p).useDatabase name := by
  unfold useDatabase
  rw [within_setDatabase, database_within]

lemma within_useCollection (database name : String) :
    (c.useCollection database name).within p = (c.within p).useCollection database name := by
  unfold useCollection
  rw [within_setCollection, collection_within]

end Cluster

lemma Target.content_within (t : Target) (c : Cluster) :
    t.content (c.within p) = (t.content c).within p :=
  c.collection_within t.database t.collection

lemma World.within_put (w : World) (t : Target) (x : Collection) :
    (w.put t x).within p = (w.within p).put t (x.within p) := by
  unfold put World.within
  rw [Cluster.within_setCollection]

/-! ## Filters -/

/-- A filter passes over a document unless the document has a property: it can be tried, and does
not hold. -/
def Filter.PassesOver (f : Filter) (p : Document → Bool) (doc : Document) : Prop :=
  p doc = false → f.holds doc = .ok false

/-- What a filter finds has the property. -/
lemma Filter.PassesOver.of_holds {f : Filter} {doc : Document} (h : f.PassesOver p doc)
    (hholds : f.holds doc = .ok true) : p doc = true := by
  by_contra hnot
  rw [h (Bool.not_eq_true _ ▸ hnot)] at hholds
  cases hholds

namespace Collection

variable {f : Filter} {rows : List Row} {c : Collection}

lemma select_filter (h : ∀ row ∈ rows, f.PassesOver p row.doc) :
    select f (rows.filter fun row => p row.doc) = select f rows := by
  induction rows with
  | nil => rfl
  | cons row rest ih =>
    have hrest := ih fun other hother => h other (List.mem_cons_of_mem _ hother)
    rw [List.filter_cons]
    cases hp : p row.doc with
    | true =>
      rw [if_pos rfl]
      unfold select
      rw [hrest]
    | false =>
      rw [if_neg (by decide), hrest]
      conv_rhs => unfold select
      rw [h row List.mem_cons_self hp]
      cases select f rest <;> rfl

lemma selectFirst_filter (h : ∀ row ∈ rows, f.PassesOver p row.doc) :
    selectFirst f (rows.filter fun row => p row.doc) =
      (selectFirst f rows).map (Option.map fun hit =>
        (hit.1.filter fun row => p row.doc, hit.2.1, hit.2.2.filter fun row => p row.doc)) := by
  induction rows with
  | nil => rfl
  | cons row rest ih =>
    have hrest := ih fun other hother => h other (List.mem_cons_of_mem _ hother)
    rw [List.filter_cons]
    cases hp : p row.doc with
    | true =>
      rw [if_pos rfl]
      unfold selectFirst
      rw [hrest]
      rcases f.holds row.doc with e | _ | _
      · rfl
      · rcases selectFirst f rest with e | _ | hit
        · rfl
        · rfl
        · simp [Except.map, hp]
      · rfl
    | false =>
      rw [if_neg (by decide), hrest]
      conv_rhs => unfold selectFirst
      rw [h row List.mem_cons_self hp]
      rcases selectFirst f rest with e | _ | hit
      · rfl
      · rfl
      · simp [Except.map, hp]

lemma reject_filter (h : ∀ row ∈ rows, f.PassesOver p row.doc) :
    reject f (rows.filter fun row => p row.doc) =
      (reject f rows).map (List.filter fun row => p row.doc) := by
  induction rows with
  | nil => rfl
  | cons row rest ih =>
    have hrest := ih fun other hother => h other (List.mem_cons_of_mem _ hother)
    rw [List.filter_cons]
    cases hp : p row.doc with
    | true =>
      rw [if_pos rfl]
      unfold reject
      rw [hrest]
      rcases f.holds row.doc with e | found
      · rfl
      · cases reject f rest <;> cases found <;> simp [Except.map, hp]
    | false =>
      rw [if_neg (by decide), hrest]
      conv_rhs => unfold reject
      rw [h row List.mem_cons_self hp]
      cases reject f rest <;> simp [Except.map, hp]

/-- A deletion keeps the documents that its filter passes over. -/
lemma outside_of_reject (h : ∀ row ∈ rows, f.PassesOver p row.doc) {kept : List Row}
    (hk : reject f rows = .ok kept) :
    (kept.filter fun row => !p row.doc) = rows.filter fun row => !p row.doc := by
  induction rows generalizing kept with
  | nil =>
    cases hk
    rfl
  | cons row rest ih =>
    unfold reject at hk
    cases hrow : f.holds row.doc with
    | error e =>
      rw [hrow] at hk
      cases hk
    | ok found =>
      rw [hrow] at hk
      cases hrest : reject f rest with
      | error e =>
        rw [hrest] at hk
        cases hk
      | ok others =>
        rw [hrest] at hk
        cases hk
        have hothers := ih (fun other hother => h other (List.mem_cons_of_mem _ hother)) hrest
        cases found with
        | false => simp only [Bool.false_eq_true, if_false, List.filter_cons, hothers]
        | true =>
          have hp := (h row List.mem_cons_self).of_holds hrow
          simp only [if_true, List.filter_cons, hothers, hp, Bool.not_true, Bool.false_eq_true,
            if_false]

/-! ### Calls on a collection -/

variable (h : ∀ row ∈ c.rows, f.PassesOver p row.doc)
include h

lemma findOne_within (part : Option Projection) :
    (c.within p).findOne f part = c.findOne f part := by
  unfold findOne within
  rw [selectFirst_filter h]
  rcases selectFirst f c.rows with e | _ | hit <;> rfl

lemma find_within (part : Option Projection) : (c.within p).find f part = c.find f part := by
  unfold find within
  rw [select_filter h]

lemma updateOne_within {changes : Document} (hc : ∀ doc, p (doc.update changes) = p doc) :
    (c.within p).updateOne f changes =
      (c.updateOne f changes).map fun r => (r.1.within p, r.2) := by
  unfold updateOne
  dsimp only [within]
  rw [selectFirst_filter h]
  cases hfound : selectFirst f c.rows with
  | error e => rfl
  | ok found =>
    rcases found with _ | ⟨before, row, after⟩
    · rfl
    · have hp := (h row ((selectFirst_eq_some hfound).1 ▸ List.mem_append_right _
        List.mem_cons_self)).of_holds (selectFirst_eq_some hfound).2.1
      simp [Except.map, List.filter_append, hc, hp]

/-- An update changes none of the documents that its filter passes over. -/
lemma outside_of_updateOne {changes : Document} (hc : ∀ doc, p (doc.update changes) = p doc)
    {x : Collection} {count : UpdateCount} (hx : c.updateOne f changes = .ok (x, count)) :
    x.outside p = c.outside p := by
  unfold outside
  rcases updateOne_eq_ok hx with ⟨rfl, -⟩ | ⟨before, row, after, hrows, hrow, -, hx', -⟩
  · rfl
  · -- The document that was changed has the property, before and after.
    have hp := (h row (hrows ▸ List.mem_append_right _ List.mem_cons_self)).of_holds hrow
    rw [hx', hrows, List.filter_append, List.filter_append, List.filter_cons, List.filter_cons]
    dsimp only
    rw [hc, hp]
    rfl

lemma deleteMany_within :
    (c.within p).deleteMany f = (c.deleteMany f).map fun x => x.within p := by
  unfold deleteMany
  dsimp only [within]
  rw [reject_filter h]
  cases reject f c.rows <;> rfl

lemma outside_of_deleteMany {x : Collection} (hx : c.deleteMany f = .ok x) :
    x.outside p = c.outside p := by
  unfold deleteMany at hx
  cases hkept : reject f c.rows with
  | error e =>
    rw [hkept] at hx
    cases hx
  | ok kept =>
    rw [hkept] at hx
    cases hx
    exact outside_of_reject h hkept

end Collection

/-! ## Locations -/

namespace Settings

variable {s : Settings}

/-- Whether a document is at the location of a run. -/
def isHere (s : Settings) (doc : Document) : Bool :=
  ((doc.get? s.locationField).getD .null).same (.text s.location)

lemma isHere_eq_true_of_get? {doc : Document}
    (h : doc.get? s.locationField = some (.text s.location)) : s.isHere doc = true := by
  unfold isHere
  rw [h]
  exact (Value.same_text _ _).mpr rfl

/-- A document stays where it is if its location is not set. -/
lemma isHere_update {changes : Document} (h : changes.get? s.locationField = none)
    (doc : Document) : s.isHere (doc.update changes) = s.isHere doc := by
  unfold isHere
  rw [Mapping.get?_update_of_not_mem (Mapping.not_mem_keys_of_get?_eq_none h)]

end Settings

/-- Conditions that can all be tried are answered. -/
lemma exists_holds_eq {f : Filter} {doc : Document}
    (h : ∀ pair ∈ f, ∃ found, pair.2.holds ((doc.get? pair.1).getD .null) = .ok found) :
    ∃ found, f.holds doc = .ok found := by
  induction f with
  | nil => exact ⟨true, rfl⟩
  | cons pair rest ih =>
    obtain ⟨found, hfound⟩ := h pair List.mem_cons_self
    rw [holds_cons hfound]
    cases found with
    | false => exact ⟨false, rfl⟩
    | true => exact ih fun other hother => h other (List.mem_cons_of_mem _ hother)

/-- A filter that asks for the location of a run passes over the documents at other locations. -/
lemma Filter.passesOver_of_mem {f : Filter} {s : Settings} {doc : Document}
    (hmem : (s.locationField, .equals (.text s.location)) ∈ f)
    (h : ∀ pair ∈ f, ∃ found, pair.2.holds ((doc.get? pair.1).getD .null) = .ok found) :
    f.PassesOver s.isHere doc := by
  intro hnot
  obtain ⟨found, hfound⟩ := exists_holds_eq h
  cases found with
  | false => exact hfound
  | true =>
    rw [Settings.isHere_eq_true_of_get? (get?_of_holds hfound hmem)] at hnot
    cases hnot

namespace Settings.RoutesApart

variable {s : Settings} (hs : s.RoutesApart) (hl : s.location.isEmpty = false)
include hs hl

/-- The filter of a record asks for the location. -/
lemma passesOver_recordFilter (key : String) (doc : Document) :
    (s.recordFilter key).PassesOver s.isHere doc := by
  rw [hs.recordFilter_eq]
  refine Filter.passesOver_of_mem (List.mem_cons_of_mem _ ?_) fun pair hpair => ?_
  · have hrouting : (s.locationField, s.location) ∈ s.routing key := by
      rw [hs.routing_eq, hl]
      exact List.mem_append_right _ (List.mem_singleton_self _)
    exact List.mem_map_of_mem hrouting
  · rcases List.mem_cons.mp hpair with rfl | hpair
    · exact ⟨_, rfl⟩
    · obtain ⟨field, -, rfl⟩ := List.mem_map.mp hpair
      exact ⟨_, rfl⟩

/-- The filter of a scan asks for the location, and can be tried on keys that are texts. -/
lemma passesOver_scanFilter (start : String) {doc : Document} (hdoc : HasTextKey doc) :
    (s.scanFilter start).PassesOver s.isHere doc := by
  rw [hs.scanFilter_eq, hl]
  refine Filter.passesOver_of_mem (List.mem_cons_of_mem _ (List.mem_singleton_self _))
    fun pair hpair => ?_
  rcases List.mem_cons.mp hpair with rfl | hpair
  · obtain ⟨key, hkey⟩ := hdoc
    dsimp only
    rw [hkey]
    exact ⟨_, rfl⟩
  · rw [List.mem_singleton.mp hpair]
    exact ⟨_, rfl⟩

end Settings.RoutesApart

/-! ## Activities -/

namespace World

/-- Between two worlds the documents without a property have stayed as they are. -/
def SameOutside (p : Document → Bool) (w w' : World) : Prop :=
  ∀ database table, w'.outside p database table = w.outside p database table

lemma SameRows.sameOutside {w w' : World} (h : SameRows w w') : SameOutside p w w' :=
  fun database table =>
    congrArg (List.filter fun row : Row => !p row.doc) (h database table)

/-- A table is replaced by one with the same documents without the property. -/
lemma sameOutside_put {w : World} {t : Target} {x : Collection}
    (h : x.outside p = (t.content w.cluster).outside p) : SameOutside p w (w.put t x) := by
  intro database table
  unfold outside put
  dsimp only
  rw [Cluster.collection_setCollection]
  split
  · rename_i heq
    rw [h, heq.1, heq.2]
    rfl
  · rfl

/-- An activity in a world goes as it would with only the documents that have a property, and leaves
all other documents as they are. -/
structure Confines (p : Document → Bool) (a : StateM World α) (w : World) : Prop where
  run_within : a.run (w.within p) = ((a.run w).1, (a.run w).2.within p)
  sameOutside : SameOutside p w (a.run w).2

lemma confines_pure (x : α) (w : World) : Confines p (pure x : StateM World α) w :=
  ⟨rfl, fun _ _ => rfl⟩

lemma Confines.bind {a : StateM World α} {f : α → StateM World β} {w : World}
    (ha : Confines p a w) (hf : Confines p (f (a.run w).1) (a.run w).2) :
    Confines p (a >>= f) w := by
  refine ⟨?_, fun database table => ?_⟩
  · rw [run_bind, run_bind, ha.run_within]
    exact hf.run_within
  · exact (hf.sameOutside database table).trans (ha.sameOutside database table)

/-- Putting what an activity returns in another form changes nothing. -/
lemma Confines.map {a : StateM World α} {w : World} (ha : Confines p a w) (f : α → β) :
    Confines p (f <$> a) w := by
  refine ⟨?_, ha.sameOutside⟩
  change (f (a.run (w.within p)).1, (a.run (w.within p)).2) = _
  rw [ha.run_within]
  rfl

/-- In a sequence of actions the second matters only where the first succeeds. -/
lemma Confines.attempt_bind {a : Action α} {f : α → Action β} {w : World}
    (ha : Confines p (attempt a) w)
    (hf : ∀ x w', exec a w = (.ok x, w') → Confines p (attempt (f x)) w') :
    Confines p (attempt (a >>= f)) w := by
  have hwithin := ha.run_within
  have houtside := ha.sameOutside
  rw [run_attempt] at houtside
  rw [run_attempt, run_attempt] at hwithin
  refine ⟨?_, fun database table => ?_⟩
  · rw [run_attempt, run_attempt, exec_bind, exec_bind, hwithin]
    rcases hrun : exec a w with ⟨e | x, w'⟩
    · rfl
    · exact (hf x w' hrun).run_within
  · rw [run_attempt, exec_bind]
    rcases hrun : exec a w with ⟨e | x, w'⟩
    · rw [hrun] at houtside
      exact houtside database table
    · rw [hrun] at houtside
      exact ((hf x w' hrun).sameOutside database table).trans (houtside database table)

/-- An action may look at the world first.  The two runs see different worlds there, so what they do
next is compared as a whole. -/
lemma confines_get {f : World → Action α} {w : World}
    (hrun : exec (f (w.within p)) (w.within p) = ((exec (f w) w).1, (exec (f w) w).2.within p))
    (hsame : SameOutside p w (exec (f w) w).2) : Confines p (attempt (get >>= f)) w := by
  constructor
  · rw [run_attempt, run_attempt, exec_bind_of_ok (exec_get _), exec_bind_of_ok (exec_get _)]
    exact hrun
  · rw [run_attempt, exec_bind_of_ok (exec_get _)]
    exact hsame

lemma confines_record (call : Call) (w : World) : Confines p (attempt (record call)) w := by
  refine ⟨?_, ((sameRows_record call) w).sameOutside⟩
  rw [run_attempt, run_attempt, exec_record, exec_record]
  rfl

lemma confines_modifyCluster {f : Cluster → Cluster} {w : World}
    (hf : (f w.cluster).within p = f (w.cluster.within p))
    (hsame : ∀ database table,
      (f w.cluster).collection database table = w.cluster.collection database table) :
    Confines p (attempt (modifyCluster f)) w := by
  have hrows : SameRows w { w with cluster := f w.cluster } :=
    fun database table => congrArg Collection.rows (hsame database table)
  refine ⟨?_, hrows.sameOutside⟩
  rw [run_attempt, run_attempt, exec_modifyCluster, exec_modifyCluster]
  unfold World.within
  rw [hf]

end World

/-! ### Calls -/

lemma exec_record_eq_ok {call : Call} {w w' : World} (h : exec (record call) w = (.ok (), w')) :
    w' = w.noted call := by
  rw [exec_record] at h
  exact (Prod.mk.inj h).2.symm

/-- An action that asks the store for what is the same within the documents with the property. -/
lemma confines_ofStore {g : Cluster → Except StoreError α} {w : World}
    (hg : g (w.cluster.within p) = g w.cluster) :
    Confines p (attempt (get >>= fun w => ofStore (g w.cluster))) w := by
  have hrun (w' : World) : exec (ofStore (g w.cluster)) w' =
      ((g w.cluster).mapError Failure.store, w') := by
    cases g w.cluster <;> rfl
  refine confines_get ?_ ?_
  · change exec (ofStore (g (w.cluster.within p))) (w.within p) = _
    rw [hg, hrun, hrun]
  · rw [hrun]
    exact fun _ _ => rfl

/-- What an action returns that has a table changed, and the world after it; the change may be
refused. -/
def World.changed (w : World) (t : Target) :
    Except StoreError (Collection × α) → Except Failure α × World
  | .ok r => (.ok r.2, w.put t r.1)
  | .error e => (.error (.store e), w)

/-- An action that has a table changed, and does so within the documents with the property and
without touching the others. -/
lemma confines_of_changed {a : Action α} {t : Target} {w : World}
    {g : Collection → Except StoreError (Collection × α)}
    (ha : ∀ w', exec a w' = w'.changed t (g (t.content w'.cluster)))
    (hwithin : g ((t.content w.cluster).within p) =
      (g (t.content w.cluster)).map fun r => (r.1.within p, r.2))
    (houtside : ∀ r, g (t.content w.cluster) = .ok r →
      r.1.outside p = (t.content w.cluster).outside p) :
    Confines p (attempt a) w := by
  have hcontent : t.content (w.within p).cluster = (t.content w.cluster).within p :=
    t.content_within w.cluster
  refine ⟨?_, ?_⟩
  · rw [run_attempt, run_attempt, ha, ha, hcontent, hwithin]
    cases g (t.content w.cluster) with
    | error e => rfl
    | ok r => exact congrArg _ (within_put w t r.1).symm
  · rw [run_attempt, ha]
    cases hr : g (t.content w.cluster) with
    | error e => exact fun _ _ => rfl
    | ok r => exact sameOutside_put (houtside r hr)

namespace Target

variable {t : Target} {f : Filter} {w : World}
  (h : ∀ row ∈ w.rows t.database t.collection, f.PassesOver p row.doc)
include h

lemma confines_findOne (part : Option Projection) :
    Confines p (attempt (t.findOne f part)) w := by
  refine (confines_record _ w).attempt_bind fun _ w₁ hrecord => ?_
  obtain rfl := exec_record_eq_ok hrecord
  refine confines_ofStore (g := fun c => (t.content c).findOne f part) ?_
  rw [t.content_within]
  exact findOne_within h part

lemma confines_find (part : Option Projection) : Confines p (attempt (t.find f part)) w := by
  refine (confines_record _ w).attempt_bind fun _ w₁ hrecord => ?_
  obtain rfl := exec_record_eq_ok hrecord
  refine confines_ofStore (g := fun c => (t.content c).find f part) ?_
  rw [t.content_within]
  exact find_within h part

lemma confines_scan (part : Option Projection) (count : ℤ) :
    Confines p (attempt (t.scan f part count)) w := by
  refine (confines_find h part).attempt_bind fun _ w₁ _ => ?_
  refine (confines_record _ w₁).attempt_bind fun _ w₂ _ => ?_
  refine (confines_record _ w₂).attempt_bind fun _ w₃ _ => ?_
  have hiterate : Confines p (attempt (outcome (record .iterate))) w₃ :=
    (confines_record _ w₃).map Except.ok
  refine hiterate.attempt_bind fun r w₄ _ => ?_
  refine (confines_record _ w₄).attempt_bind fun _ w₅ _ => ?_
  cases r with
  | ok _ => exact confines_pure _ w₅
  | error _ => exact confines_pure _ w₅

lemma confines_updateOne {changes : Document} (hc : ∀ doc, p (doc.update changes) = p doc) :
    Confines p (attempt (t.updateOne f changes)) w := by
  refine (confines_record _ w).attempt_bind fun _ w₁ hrecord => ?_
  obtain rfl := exec_record_eq_ok hrecord
  refine confines_of_changed (g := fun c => c.updateOne f changes) (fun w' => ?_)
    (updateOne_within h hc) fun r hr => outside_of_updateOne h hc hr
  rw [exec_bind_of_ok (exec_get _)]
  cases (t.content w'.cluster).updateOne f changes <;> rfl

lemma confines_deleteMany : Confines p (attempt (t.deleteMany f)) w := by
  refine (confines_record _ w).attempt_bind fun _ w₁ hrecord => ?_
  obtain rfl := exec_record_eq_ok hrecord
  refine confines_of_changed (t := t) (g := fun c => (c.deleteMany f).map fun x => (x, ()))
    (fun w' => ?_) ?_ fun r hr => ?_
  · rw [exec_bind_of_ok (exec_get _)]
    cases (t.content w'.cluster).deleteMany f <;> rfl
  · have hwithin : ((t.content w.cluster).within p).deleteMany f = _ := deleteMany_within h
    dsimp only [World.noted_cluster]
    rw [hwithin]
    cases (t.content w.cluster).deleteMany f <;> rfl
  · dsimp only [World.noted_cluster] at hr
    cases hx : (t.content w.cluster).deleteMany f with
    | error e =>
      rw [hx] at hr
      cases hr
    | ok x =>
      rw [hx] at hr
      cases hr
      exact outside_of_deleteMany h hx

end Target

/-! ### Operations -/

namespace Context

variable {c : Context} {w : World}

lemma confines_failed (text : String) (e : Failure) (w : World) :
    Confines p (failed text e : StateM World (Outcome α)) w :=
  ⟨rfl, fun _ _ => rfl⟩

lemma confines_complained (text : String) (w : World) :
    Confines p (complained text : StateM World (Outcome α)) w :=
  ⟨rfl, fun _ _ => rfl⟩

lemma confines_table (s : Settings) (selected : Option Endpoint) (name : String) (w : World) :
    Confines p (attempt (table s selected name)) w := by
  cases selected with
  | none => exact confines_pure _ w
  | some e =>
    have hdatabase : Confines p (attempt (e.client.useDatabase s.database)) w :=
      confines_modifyCluster (Cluster.within_useDatabase _ _)
        fun database table => Cluster.collection_useDatabase ..
    refine hdatabase.attempt_bind fun _ w₁ _ => ?_
    refine (confines_record _ w₁).attempt_bind fun _ w₂ _ => ?_
    refine (confines_modifyCluster (Cluster.within_useCollection _ _ _)
      fun database table => Cluster.collection_useCollection ..).attempt_bind fun _ w₃ _ => ?_
    exact confines_pure _ w₃

lemma confines_prepareFields (c : Context) (excluded : String → Bool) (doc : Document)
    (values : List (String × Bytes)) (w : World) :
    Confines p (attempt (c.prepareFields excluded doc values)) w := by
  have hprepare (field : String) (data : Bytes) (w : World) :
      Confines p (attempt (c.prepareField field data)) w := by
    unfold prepareField
    constructor
    · rw [run_attempt, run_attempt, exec_prepare, exec_prepare]
      rfl
    · rw [run_attempt, exec_prepare]
      exact fun _ _ => rfl
  induction values generalizing doc w with
  | nil => exact confines_pure _ w
  | cons pair rest ih =>
    obtain ⟨field, data⟩ := pair
    unfold prepareFields
    split
    · exact ih doc w
    · exact (hprepare field data w).attempt_bind fun v w₁ _ => ih (doc.set field v) w₁

/-- Preparing payloads leaves the excluded fields of a document alone. -/
lemma get?_prepareFields {excluded : String → Bool} {doc doc' : Document}
    {values : List (String × Bytes)} {w w' : World}
    (h : exec (c.prepareFields excluded doc values) w = (.ok doc', w')) {field : String}
    (hfield : excluded field = true) : doc'.get? field = doc.get? field := by
  induction values generalizing doc w with
  | nil =>
    cases h
    rfl
  | cons pair rest ih =>
    obtain ⟨first, data⟩ := pair
    unfold prepareFields at h
    split at h
    · exact ih h
    · rename_i hfirst
      obtain ⟨v, w₁, -, h⟩ := exec_bind_eq_ok h
      have hne : field ≠ first := by
        rintro rfl
        exact hfirst hfield
      rw [ih h, Mapping.get?_set, if_neg hne]

lemma confines_read {key : String}
    (h : w.AllRows fun _ _ row => (c.settings.recordFilter key).PassesOver p row.doc)
    (name : String) (fields : Option (List String)) : Confines p (c.read name key fields) w := by
  unfold read
  rw [next_eq]
  dsimp only
  rw [settings_advance]
  refine Confines.bind ((confines_table _ _ _ w).attempt_bind fun t w₁ htable =>
    Target.confines_findOne (h.of_exec (sameRows_table _ _ _) htable _ _) _) ?_
  split
  · exact confines_pure _ _
  · exact (confines_complained _ _).bind (confines_pure _ _)
  · exact (confines_failed _ _ _).bind (confines_pure _ _)

lemma confines_scan {start : String}
    (h : w.AllRows fun _ _ row => (c.settings.scanFilter start).PassesOver p row.doc)
    (name : String) (count : ℤ) (fields : Option (List String)) :
    Confines p (c.scan name start count fields) w := by
  unfold scan
  rw [next_eq]
  dsimp only
  rw [settings_advance]
  refine Confines.bind ((confines_table _ _ _ w).attempt_bind fun t w₁ htable =>
    Target.confines_scan (h.of_exec (sameRows_table _ _ _) htable _ _) _ _) ?_
  split
  · exact (confines_complained _ _).bind (confines_pure _ _)
  · exact confines_pure _ _
  · exact (confines_failed _ _ _).bind (confines_pure _ _)

lemma confines_delete {key : String}
    (h : w.AllRows fun _ _ row => (c.settings.recordFilter key).PassesOver p row.doc)
    (name : String) : Confines p (c.delete name key) w := by
  unfold delete
  rw [next_eq]
  dsimp only
  rw [settings_advance]
  refine Confines.bind ((confines_table _ _ _ w).attempt_bind fun t w₁ htable =>
    Target.confines_deleteMany (h.of_exec (sameRows_table _ _ _) htable _ _)) ?_
  split
  · exact confines_pure _ _
  · exact (confines_failed _ _ _).bind (confines_pure _ _)

/-- An update does not move documents from or to the location of the run. -/
lemma confines_update {key : String} (h : w.AllRows fun _ _ row =>
      (c.settings.recordFilter key).PassesOver c.settings.isHere row.doc)
    (hmarker : c.settings.locationField ≠ markerField) (name : String) (values : Mapping Bytes) :
    Confines c.settings.isHere (c.update name key values) w := by
  unfold update
  rw [next_eq]
  dsimp only
  rw [settings_advance]
  refine Confines.bind ((confines_table _ _ _ w).attempt_bind fun t w₁ htable => ?_) ?_
  · have hnext : Confines c.settings.isHere (attempt nextMarker) w₁ := ⟨rfl, fun _ _ => rfl⟩
    have hsame : Keeps SameRows (attempt nextMarker) := fun _ _ _ => rfl
    refine hnext.attempt_bind fun marker w₂ hmarked => ?_
    refine (confines_prepareFields _ _ _ _ w₂).attempt_bind fun changes w₃ hprepared => ?_
    have hrows := ((h.of_exec (sameRows_table _ _ _) htable).of_exec hsame hmarked).of_exec
      (keeps_prepareFields _ _ _ _) hprepared
    have himmutable : c.settings.isImmutable c.settings.locationField = true := by
      unfold Settings.isImmutable
      rw [beq_self_eq_true, Bool.true_or]
    -- The changes begin with the marker, which is not the field of the location.
    have hnone : changes.get? c.settings.locationField = none := by
      rw [get?_prepareFields hprepared himmutable, Mapping.get?_cons,
        if_neg (by simpa using hmarker)]
      rfl
    exact Target.confines_updateOne (hrows _ _) (Settings.isHere_update hnone)
  · split
    · split
      · exact (confines_complained _ _).bind (confines_pure _ _)
      · split
        · exact (confines_complained _ _).bind (confines_pure _ _)
        · exact confines_pure _ _
    · exact (confines_failed _ _ _).bind (confines_pure _ _)

end Context

/-! ## Requests -/

/-- Requests that work on records by filters. -/
def Request.IsFiltered : Request → Prop
  | read _ _ _ _ => True
  | update _ _ _ _ => True
  | delete _ _ _ => True
  | scan _ _ _ _ _ => True
  | _ => False

namespace Harness

variable {h : Harness} {name : String} {w : Worker} {active : Active} {c : Context}
  {request : Request} {op : Operation Answer}

/-- The operation of a request is confined to the documents at the location of its context. -/
lemma confines_operation (hs : c.settings.RoutesApart) (hl : c.settings.location.isEmpty = false)
    {world : World} (hkeys : world.AllRows fun _ _ row => HasTextKey row.doc)
    (hr : request.IsFiltered) (hop : request.operation? = some (name, op)) (b : Batch) :
    Confines c.settings.isHere (op c b) world := by
  have hrecord (key : String) : world.AllRows fun _ _ row =>
      (c.settings.recordFilter key).PassesOver c.settings.isHere row.doc :=
    fun _ _ row _ => hs.passesOver_recordFilter hl key row.doc
  cases request with
  | read _ table key fields =>
    cases hop
    exact (Context.confines_read (hrecord key) table fields).map _
  | update _ table key values =>
    cases hop
    exact (Context.confines_update (hrecord key) (hs.location hl).2 table values).map _
  | delete _ table key =>
    cases hop
    exact (Context.confines_delete (hrecord key) table).map _
  | scan _ table start count fields =>
    cases hop
    refine (Context.confines_scan (fun d t row hrow => ?_) table count fields).map _
    exact hs.passesOver_scanFilter hl start (hkeys d t row hrow)
  | _ => cases hr

/-- Workers are the same whatever documents are stored. -/
lemma Holds.within (hw : h.Holds name w active c) : (h.within p).Holds name w active c :=
  ⟨hw.worker, hw.registered, hw.context⟩

/-- A request whose operation is confined. -/
lemma step_of_confines (hw : h.Holds name w active c)
    (hop : request.operation? = some (name, op))
    (hconfines : Confines p (op c active.batch) h.world) :
    (∀ database table, (h.step request).2.world.outside p database table =
      h.world.outside p database table) ∧
    (h.within p).step request = ((h.step request).1, (h.step request).2.within p) := by
  have hworld : (h.within p).world = h.world.within p := rfl
  rw [step_of_operation hop hw, step_of_operation hop hw.within, hworld, hconfines.run_within]
  exact ⟨hconfines.sameOutside, rfl⟩

/-- A worker with a location reads, updates, deletes or scans records, in any table and with any
key, payload, fields and count, in a deployment whose documents have texts as keys and whatever
faults it shows.  All documents at other locations stay as they are; and the answer, the calls, the
entries of the log and the documents at the location are those that there would be if only the
documents at the location had been stored. -/
theorem locations_isolated (hw : h.Holds name w active c) (hs : c.settings.RoutesApart)
    (hl : c.settings.location.isEmpty = false)
    (hkeys : h.world.AllRows fun _ _ row => HasTextKey row.doc) (hr : request.IsFiltered)
    (hop : request.operation? = some (name, op)) :
    (∀ database table, (h.step request).2.world.outside c.settings.isHere database table =
      h.world.outside c.settings.isHere database table) ∧
    (h.within c.settings.isHere).step request =
      ((h.step request).1, (h.step request).2.within c.settings.isHere) :=
  step_of_confines hw hop (confines_operation hs hl hkeys hr hop active.batch)

/-- A worker of one location, in a deployment with a record of its own location behind one of
another location. -/
def twoLocations : Harness where
  world :=
    { cluster := ({} : Cluster).setCollection "ycsb" "t"
        { rows := [rowOf [(idField, .text "1"), ("location", .text "EU")],
            rowOf [(idField, .text "2"), ("location", .text "US")]] } }
  contexts :=
    [{ settings := { location := "US" }
       pool := { endpoints := [⟨"localhost", ⟨0, "localhost"⟩⟩] }
       generators := [] }]
  workers := [("a", { bag := [], provider := "p", active := some ⟨0, { size := 1 }⟩ })]

/-- A scan for one record passes over the first, which does not count, and finds the second. -/
theorem locations_isolated_twoLocations :
    ∃ w active c, twoLocations.Holds "a" w active c ∧ c.settings.RoutesApart ∧
      c.settings.location.isEmpty = false ∧
      (twoLocations.world.AllRows fun _ _ row => HasTextKey row.doc) ∧
      (twoLocations.world.outside c.settings.isHere "ycsb" "t").length = 1 ∧
      (twoLocations.step (.scan "a" "t" "1" 1 none)).1.toOption.bind Answer.status? = some .ok ∧
      (∀ database table, (twoLocations.step (.scan "a" "t" "1" 1 none)).2.world.outside
          c.settings.isHere database table =
        twoLocations.world.outside c.settings.isHere database table) ∧
      (twoLocations.within c.settings.isHere).step (.scan "a" "t" "1" 1 none) =
        ((twoLocations.step (.scan "a" "t" "1" 1 none)).1,
          (twoLocations.step (.scan "a" "t" "1" 1 none)).2.within c.settings.isHere) := by
  have hroutes : ({ location := "US" } : Settings).RoutesApart :=
    ⟨by decide, by decide, by decide⟩
  have hkeys : twoLocations.world.AllRows fun _ _ row => HasTextKey row.doc := by
    intro database table row hrow
    unfold twoLocations World.rows at hrow
    rw [Cluster.collection_setCollection] at hrow
    split at hrow
    · rcases List.mem_cons.mp hrow with rfl | hrow
      · exact ⟨"1", rfl⟩
      · rw [List.mem_singleton.mp hrow]
        exact ⟨"2", rfl⟩
    · cases hrow
  have hholds : twoLocations.Holds "a" _ _ _ := ⟨rfl, rfl, rfl⟩
  have hfiltered : (Request.scan "a" "t" "1" 1 none).IsFiltered := trivial
  have hisolated := locations_isolated hholds hroutes (by decide) hkeys hfiltered rfl
  exact ⟨_, _, _, hholds, hroutes, by decide, hkeys, by decide +kernel, by decide +kernel,
    hisolated⟩

end Harness

end LoadBinding
