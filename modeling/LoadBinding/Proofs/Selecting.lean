import LoadBinding.Proofs.Closing
import LoadBinding.Proofs.Reachable

/-!
# Selections in turn

The workers of a provider share one pool, and every operation on records asks the store through the
endpoint whose turn it is.  A selection shows in the record of calls as the look-up of a table:
`Call.lookUps` are the tables that some calls look up, `Context.inTurn` those that a context looks
up for some names, each through the next endpoint, and `Context.Takes` says of an activity that it
makes exactly these selections, whether or not it fails.

An operation takes one turn for each table that it touches (`Request.Touches`): an insertion, a
read, an update, a deletion and a scan for their table, and a flush for every table whose buffer it
writes (`Request.takesEach_operation`).
-/

namespace LoadBinding

open LoadBinding.Text LoadBinding.Action World

variable {α β : Type}

/-! ## Look-ups -/

namespace Call

/-- The table that a call looks up. -/
def lookUp? : Call → Option Target
  | use t => some t
  | _ => none

/-- The tables that some calls look up, in order. -/
def lookUps (calls : List Call) : List Target :=
  calls.filterMap lookUp?

@[simp] lemma lookUps_append (first second : List Call) :
    lookUps (first ++ second) = lookUps first ++ lookUps second :=
  List.filterMap_append

end Call

open Call

/-- Between two worlds some tables were looked up. -/
def World.Selects (targets : List Target) (w w' : World) : Prop :=
  lookUps w'.calls = lookUps w.calls ++ targets

namespace World

variable {w w' w'' : World}

/-- The look-ups of a sequence are those of its parts, one after the other. -/
lemma Selects.trans {first second : List Target} (h : Selects first w w')
    (h' : Selects second w' w'') : Selects (first ++ second) w w'' := by
  unfold Selects at *
  rw [h', h, List.append_assoc]

/-- A change that makes no call looks nothing up. -/
lemma selects_of_silent (h : w'.calls = w.calls) : Selects [] w w' := by
  unfold Selects
  rw [h, List.append_nil]

/-- A single call, which may be a look-up. -/
lemma selects_noted (w : World) (call : Call) : Selects call.lookUp?.toList w (w.noted call) := by
  have hsingle : lookUps [call] = call.lookUp?.toList := by
    cases call <;> rfl
  unfold Selects
  rw [noted_calls, lookUps_append, hsingle]

instance : IsPreorder World (Selects []) where
  refl _ := selects_of_silent rfl
  trans _ _ _ h h' := h.trans h'

/-- Nothing is looked up while connections are closed. -/
lemma Closes.selects (h : Closes w w') : Selects [] w w' := by
  obtain ⟨issued, hissued, hclose⟩ := h.calls
  have hnone : lookUps issued = [] := by
    refine List.filterMap_eq_nil_iff.mpr fun call hcall => ?_
    have hcall' := hclose call hcall
    cases call with
    | close _ => rfl
    | _ => cases hcall'
  unfold Selects
  rw [hissued, lookUps_append, hnone]

end World

/-! ### What looks nothing up -/

instance : CallOrder (Selects []) where
  of_same hc _ _ := selects_of_silent hc

/-- A call that looks no table up makes no selection. -/
lemma selects_record {call : Call} (h : call.lookUp? = none) :
    Keeps (Selects []) (attempt (record call)) := by
  intro w
  have hnoted := selects_noted w call
  rw [h] at hnoted
  rw [run_attempt, exec_record]
  exact hnoted

lemma selects_put (t : Target) (x : Collection) : Keeps (Selects []) (attempt (t.put x)) :=
  fun _ => selects_of_silent rfl

lemma selects_insertMany (t : Target) (docs : List Document) :
    Keeps (Selects []) (attempt (t.insertMany docs)) :=
  Target.keeps_insertMany (selects_record rfl) (selects_put t)

/-- Reading a cursor looks nothing up. -/
lemma selects_cursor {call : Call} (h : call.isCursor = true) :
    Keeps (Selects []) (attempt (record call)) := by
  cases call with
  | sort => exact selects_record rfl
  | limit _ => exact selects_record rfl
  | iterate => exact selects_record rfl
  | closeCursor => exact selects_record rfl
  | _ => cases h

namespace Context

/-! ## Turns of a context -/

/-- The tables of some names, each through the next endpoint of a context. -/
def inTurn (c : Context) : List String → List Target
  | [] => []
  | name :: rest =>
    (c.selected.map fun e => (⟨e.client, c.settings.database, name⟩ : Target)).toList ++
      (c.advance 1).inTurn rest

/-- The tables that come later start where the turns of the earlier ones end. -/
lemma inTurn_append (c : Context) (first second : List String) :
    c.inTurn (first ++ second) = c.inTurn first ++ (c.advance first.length).inTurn second := by
  induction first generalizing c with
  | nil => rfl
  | cons name rest ih =>
    have hadvance : (c.advance 1).advance rest.length = c.advance (rest.length + 1) := by
      rw [advance_advance, Nat.add_comm]
    rw [List.cons_append, inTurn, inTurn, ih, hadvance, List.append_assoc]
    rfl

/-- An activity on a context selects an endpoint for each of some tables, looks the table up there,
and selects nothing else.  `contextOf` is the place of the context in what the activity returns. -/
structure Takes (c : Context) (contextOf : α → Context) (tables : List String)
    (a : StateM World α) : Prop where
  selects : Keeps (Selects (c.inTurn tables)) a
  advances : Returns (fun x => contextOf x = c.advance tables.length) a

namespace Takes

variable {c : Context} {contextOf : α → Context} {tables : List String}

/-- An activity that makes no selection. -/
lemma pure {x : α} (h : contextOf x = c) : c.Takes contextOf [] (Pure.pure x) :=
  ⟨fun _ => selects_of_silent rfl, returns_pure (h.trans rfl)⟩

/-- What comes before the selections may look nothing up. -/
lemma bind {a : StateM World β} {f : β → StateM World α} (ha : Keeps (Selects []) a)
    (hf : ∀ x, c.Takes contextOf tables (f x)) : c.Takes contextOf tables (a >>= f) := by
  refine ⟨fun w => ?_, returns_bind a fun x => (hf x).advances⟩
  rw [run_bind]
  exact Selects.trans (ha w) ((hf _).selects _)

/-- What comes after an activity on the context finds the context as the activity leaves it. -/
lemma andThen {a : StateM World β} {before : β → Context} {f : β → StateM World α}
    {first second : List String} (ha : c.Takes before first a)
    (hf : ∀ x, before x = c.advance first.length → (before x).Takes contextOf second (f x)) :
    c.Takes contextOf (first ++ second) (a >>= f) := by
  constructor
  · intro w
    have hbefore := ha.advances w
    have hsecond := (hf _ hbefore).selects (a.run w).2
    rw [hbefore] at hsecond
    rw [run_bind, inTurn_append]
    exact (ha.selects w).trans hsecond
  · intro w
    have hbefore := ha.advances w
    have hafter := (hf _ hbefore).advances (a.run w).2
    rw [run_bind, hafter, hbefore, advance_advance, List.length_append]

/-- What comes after an activity on the context may make no selection. -/
lemma finish {a : StateM World β} {before : β → Context} {f : β → StateM World α}
    (ha : c.Takes before tables a) (hf : ∀ x, (before x).Takes contextOf [] (f x)) :
    c.Takes contextOf tables (a >>= f) := by
  have hboth := ha.andThen fun x _ => hf x
  rw [List.append_nil] at hboth
  exact hboth

/-- A table is looked up at the next endpoint, and nothing else is. -/
lemma once {name : String} {a : StateM World β} {f : β → StateM World α}
    (ha : Keeps (Selects (c.inTurn [name])) a)
    (hf : ∀ x, (c.advance 1).Takes contextOf [] (f x)) :
    c.Takes contextOf [name] (a >>= f) := by
  refine ⟨fun w => ?_, returns_bind a fun x => (hf x).advances⟩
  have hboth := (ha w).trans ((hf (a.run w).1).selects (a.run w).2)
  rw [inTurn, List.append_nil] at hboth
  exact hboth

lemma failed {text : String} {e : Failure} {place : Outcome β → α}
    (h : ∀ o, contextOf (place o) = c) :
    c.Takes contextOf [] (do return place (← Context.failed text e)) :=
  .bind (keeps_failed text e) fun o => .pure (h o)

lemma complained {text : String} {place : Outcome β → α} (h : ∀ o, contextOf (place o) = c) :
    c.Takes contextOf [] (do return place (← Context.complained text)) :=
  .bind (keeps_complained text) fun o => .pure (h o)

lemma map {contextOf' : β → Context} {a : StateM World α} {place : α → β}
    (ha : c.Takes contextOf tables a) (hplace : ∀ x, contextOf' (place x) = contextOf x) :
    c.Takes contextOf' tables (place <$> a) :=
  ⟨ha.selects, fun w => (hplace _).trans (ha.advances w)⟩

end Takes

/-! ### Operations -/

/-- A table is looked up at the endpoint whose turn it is, whether or not this succeeds. -/
lemma selects_table (c : Context) (name : String) :
    Keeps (Selects (c.inTurn [name])) (attempt (table c.settings c.selected name)) := by
  intro w
  rw [run_attempt]
  cases hs : c.selected with
  | none =>
    have hnone : c.inTurn [name] = [] := by simp [inTurn, hs]
    rw [hnone]
    exact selects_of_silent rfl
  | some e =>
    have hone : c.inTurn [name] = [⟨e.client, c.settings.database, name⟩] := by simp [inTurn, hs]
    have hnoted := selects_noted w (.use ⟨e.client, c.settings.database, name⟩)
    rw [hone, table]
    cases hf : w.faults.get? (lookUpAddress name) with
    | some f =>
      rw [exec_use_of_fault hf]
      exact hnoted
    | none =>
      rw [exec_use_of_no_fault hf]
      exact hnoted

/-- What is done with the table looks nothing up. -/
lemma selects_withTable (c : Context) (name : String) {f : Target → Action α}
    (hf : ∀ t, Keeps (Selects []) (attempt (f t))) :
    Keeps (Selects (c.inTurn [name])) (attempt (do
      let t ← table c.settings c.selected name
      f t)) := by
  intro w
  have htable := selects_table c name w
  rw [run_attempt] at htable
  rw [run_attempt, exec_bind]
  cases hrun : exec (table c.settings c.selected name) w with
  | mk r w₁ =>
    rw [hrun] at htable
    cases r with
    | error e => exact htable
    | ok t =>
      have hboth := Selects.trans htable (hf t w₁)
      rw [List.append_nil] at hboth
      exact hboth

/-- A read looks its table up once, at the next endpoint. -/
lemma takes_read (c : Context) (name key : String) (fields : Option (List String)) :
    c.Takes Prod.snd [name] (c.read name key fields) := by
  unfold read
  rw [next_eq]
  refine .once (c.selects_withTable name fun t => Target.keeps_findOne (selects_record rfl)) ?_
  rintro (e | _ | _ | _)
  · exact .failed fun _ => rfl
  · exact .complained fun _ => rfl
  · exact .complained fun _ => rfl
  · exact .pure rfl

lemma takes_scan (c : Context) (name start : String) (count : ℤ) (fields : Option (List String)) :
    c.Takes Prod.snd [name] (c.scan name start count fields) := by
  unfold scan
  rw [next_eq]
  refine .once (c.selects_withTable name fun t =>
    Target.keeps_scan (selects_record rfl) (fun _ => selects_cursor) _) ?_
  rintro (e | _ | _)
  · exact .failed fun _ => rfl
  · exact .complained fun _ => rfl
  · exact .pure rfl

lemma takes_update (c : Context) (name key : String) (values : Mapping Bytes) :
    c.Takes Prod.snd [name] (c.update name key values) := by
  unfold update
  rw [next_eq]
  refine .once (c.selects_withTable name fun t => ?_) fun counted => ?_
  · refine keeps_attempt_bind keeps_nextMarker fun _ => ?_
    refine keeps_attempt_bind (keeps_prepareFields _ _ _ _) fun _ => ?_
    exact Target.keeps_updateOne (selects_record rfl) (selects_put t)
  · cases counted with
    | error e => exact .failed fun _ => rfl
    | ok count =>
      dsimp only
      split
      · exact .complained fun _ => rfl
      · split
        · exact .complained fun _ => rfl
        · exact .pure rfl

lemma takes_delete (c : Context) (name key : String) :
    c.Takes Prod.snd [name] (c.delete name key) := by
  unfold delete
  rw [next_eq]
  refine .once (c.selects_withTable name fun t =>
    Target.keeps_deleteMany (selects_record rfl) (selects_put t)) ?_
  rintro (e | _)
  · exact .failed fun _ => rfl
  · exact .pure rfl

/-- An insertion looks its table up once, even if it only fills the buffer. -/
lemma takes_insert (c : Context) (b : Batch) (name key : String) (values : Mapping Bytes) :
    c.Takes (fun result => result.2.1) [name] (c.insert b name key values) := by
  rw [insert_eq]
  refine .once (c.selects_withTable name fun t =>
    keeps_attempt_bind (keeps_document _ _ _) fun _ => keeps_attempt_pure _) ?_
  rintro (e | ⟨t, doc⟩)
  · exact .failed fun _ => rfl
  -- Whatever becomes of the document, its table is not looked up again.
  dsimp only
  split
  · refine .bind (Target.keeps_insertOne (selects_record rfl) (selects_put t)) ?_
    rintro (e | _)
    · exact .failed fun _ => rfl
    · exact .pure rfl
  · split
    · refine .bind (selects_insertMany t _) ?_
      rintro (e | _)
      · exact .failed fun _ => rfl
      · exact .pure rfl
    · exact .pure rfl

lemma takes_flushTable (c : Context) (name : String) (docs : List Document) :
    c.Takes Prod.snd [name] (c.flushTable name docs) := by
  unfold flushTable
  rw [next_eq]
  refine .once (c.selects_withTable name fun t => selects_insertMany t docs) ?_
  rintro (e | _)
  · exact .failed fun _ => rfl
  · exact .bind (keeps_log _ _ _) fun _ => .pure rfl

/-- A flush looks up the tables in the order of their buffers, each at the next endpoint. -/
lemma takes_flushTables (c : Context) (outcome : Outcome Unit)
    (drained : List (String × List Document)) :
    c.Takes Prod.snd (drained.map Prod.fst) (c.flushTables outcome drained) := by
  induction drained generalizing c outcome with
  | nil => exact .pure rfl
  | cons pair rest ih =>
    obtain ⟨name, docs⟩ := pair
    exact (takes_flushTable c name docs).andThen fun result _ => ih result.2 _

/-- A flush selects an endpoint for each buffer that it drains. -/
lemma takes_flush (c : Context) (b : Batch) (selection : Option String) :
    c.Takes (fun result => result.2.1) ((b.drain selection).1.map Prod.fst)
      (c.flush b selection) := by
  unfold flush
  split
  · rename_i hcount
    rw [b.drain_of_count_eq_zero selection (by simpa using hcount)]
    exact .pure rfl
  · exact (takes_flushTables c (.ok none) (b.drain selection).1).finish fun _ => .pure rfl

/-! ### Going round -/

section Turns

variable {c : Context}

/-- The turn of each name is that of the endpoint reached by counting round. -/
lemma exists_getElem?_inTurn (hc : c.pool.endpoints ≠ []) {names : List String} {k : ℕ} {t : Target}
    (h : (c.inTurn names)[k]? = some t) :
    ∃ e, c.pool.endpoints[(c.pool.selections + k) % c.pool.endpoints.length]? = some e ∧
      t.client = e.client := by
  induction names generalizing c k with
  | nil => cases h
  | cons name rest ih =>
    obtain ⟨e, he⟩ := exists_selected hc
    have hcons : c.inTurn (name :: rest) =
        ⟨e.client, c.settings.database, name⟩ :: (c.advance 1).inTurn rest := by
      rw [inTurn, he]
      rfl
    rw [hcons] at h
    cases k with
    | zero =>
      cases h
      exact ⟨e, he, rfl⟩
    | succ k =>
      have hlater := ih (c := c.advance 1) hc h
      have hsum : (c.advance 1).pool.selections + k = c.pool.selections + (k + 1) := by
        change c.pool.selections + 1 + k = _
        omega
      rw [hsum] at hlater
      exact hlater

/-- No turn is lost: every name gets its table. -/
lemma length_inTurn (hc : c.pool.endpoints ≠ []) (names : List String) :
    (c.inTurn names).length = names.length := by
  induction names generalizing c with
  | nil => rfl
  | cons name rest ih =>
    obtain ⟨e, he⟩ := exists_selected hc
    rw [inTurn, he, List.length_append, ih (c := c.advance 1) hc, Option.map_some,
      Option.toList_some, List.length_singleton, List.length_cons, Nat.add_comm]

/-- Endpoints with clients of their own stand where their clients do. -/
lemma eq_of_client_eq (hc : (c.pool.endpoints.map Endpoint.client).Nodup) {i j : ℕ}
    {e e' : Endpoint} (hi : c.pool.endpoints[i]? = some e) (hj : c.pool.endpoints[j]? = some e')
    (h : e.client = e'.client) : i = j := by
  have hlt : i < (c.pool.endpoints.map Endpoint.client).length := by
    rw [List.length_map]
    exact (List.getElem?_eq_some_iff.mp hi).1
  refine (List.getElem?_inj hlt hc).mp ?_
  rw [List.getElem?_map, List.getElem?_map, hi, hj]
  exact congrArg some h

/-- An endpoint with a client of its own is asked as often as its number is counted. -/
lemma count_inTurn (hc : (c.pool.endpoints.map Endpoint.client).Nodup) {i : ℕ} {e : Endpoint}
    (he : c.pool.endpoints[i]? = some e) (names : List String) :
    ((c.inTurn names).map Target.client).count e.client =
      Nat.count (fun k => (c.pool.selections + k) % c.pool.endpoints.length = i) names.length := by
  have hne : c.pool.endpoints ≠ [] :=
    List.ne_nil_of_mem (List.mem_of_getElem? he)
  induction names generalizing c with
  | nil => simp [inTurn]
  | cons name rest ih =>
    obtain ⟨d, hd⟩ := exists_selected hne
    have hturn : d.client = e.client ↔
        (c.pool.selections + 0) % c.pool.endpoints.length = i := by
      constructor
      · intro heq
        exact eq_of_client_eq hc hd he heq
      · intro heq
        rw [← heq] at he
        exact congrArg Endpoint.client (Option.some.inj (hd.symm.trans he))
    have hcons : c.inTurn (name :: rest) =
        ⟨d.client, c.settings.database, name⟩ :: (c.advance 1).inTurn rest := by
      rw [inTurn, hd]
      rfl
    have hrest := ih (c := c.advance 1) hc he hne
    have hshift : (fun k => ((c.advance 1).pool.selections + k) %
        (c.advance 1).pool.endpoints.length = i) =
          fun k => (c.pool.selections + (k + 1)) % c.pool.endpoints.length = i := by
      funext k
      rw [Nat.add_comm k 1, ← Nat.add_assoc]
      rfl
    rw [hcons, List.map_cons, List.count_cons, hrest, List.length_cons, Nat.count_succ']
    simp only [hshift, beq_iff_eq, hturn]

end Turns

end Context

/-! ## Tables that are touched -/

/-- An activity on a context selects an endpoint once for each table of some kind. -/
def Context.TakesEach (c : Context) (contextOf : α → Context) (touched : String → Prop)
    (a : StateM World α) : Prop :=
  ∃ tables : List String, tables.Nodup ∧ (∀ table, table ∈ tables ↔ touched table) ∧
    c.Takes contextOf tables a

namespace Context.Takes

variable {c : Context} {contextOf : α → Context} {a : StateM World α}

/-- An activity that looks up one table selects an endpoint for that table only. -/
lemma one {table : String} (h : c.Takes contextOf [table] a) :
    c.TakesEach contextOf (fun t => t = table) a :=
  ⟨[table], List.nodup_singleton _, fun _ => List.mem_singleton, h⟩

lemma none (h : c.Takes contextOf [] a) : c.TakesEach contextOf (fun _ => False) a :=
  ⟨[], List.nodup_nil, fun _ => iff_of_false List.not_mem_nil id, h⟩

end Context.Takes

/-! ## Requests -/

namespace Request

/-- The worker whose context a request uses. -/
def worker? : Request → Option String
  | isOpen name => some name
  | insert name _ _ _ => some name
  | update name _ _ _ => some name
  | read name _ _ _ => some name
  | delete name _ _ => some name
  | scan name _ _ _ _ => some name
  | flush name _ => some name
  | verify name _ _ => some name
  | readVerify name _ _ => some name
  | cleanUp name => some name
  | _ => none

/-- Whether a request touches a table, given what its worker has buffered: the table that it names,
or one whose buffer it writes. -/
def Touches (b : Batch) : Request → String → Prop
  | insert _ name _ _, table => table = name
  | update _ name _ _, table => table = name
  | read _ name _ _, table => table = name
  | delete _ name _, table => table = name
  | scan _ name _ _ _, table => table = name
  | readVerify _ name _, table => table = name
  | flush _ selection, table => b.selected selection table ≠ []
  | cleanUp _, table => b.buffer table ≠ []
  | _, _ => False

variable {request : Request} {name : String} {op : Operation Answer}

/-- An operation selects an endpoint for each table that it touches. -/
lemma takesEach_operation (hop : request.operation? = some (name, op)) (c : Context) (b : Batch) :
    c.TakesEach (fun result => result.2.1) (request.Touches b) (op c b) := by
  cases request with
  | isOpen _ =>
    cases hop
    have hopen : c.Takes Prod.snd [] (do return (c.isOpen, c)) := .pure rfl
    exact Context.Takes.none (.map hopen fun _ => rfl)
  | insert _ table key values =>
    cases hop
    exact Context.Takes.one (.map (c.takes_insert b table key values) fun _ => rfl)
  | update _ table key values =>
    cases hop
    exact Context.Takes.one (.map (c.takes_update table key values) fun _ => rfl)
  | read _ table key fields =>
    cases hop
    exact Context.Takes.one (.map (c.takes_read table key fields) fun _ => rfl)
  | delete _ table key =>
    cases hop
    exact Context.Takes.one (.map (c.takes_delete table key) fun _ => rfl)
  | scan _ table start count fields =>
    cases hop
    exact Context.Takes.one (.map (c.takes_scan table start count fields) fun _ => rfl)
  | flush _ selection =>
    cases hop
    exact ⟨_, b.nodup_drain selection, b.mem_drained selection,
      .map (c.takes_flush b selection) fun _ => rfl⟩
  | verify _ key cells =>
    cases hop
    have hverify : c.Takes Prod.snd []
        (do return (← (Harness.verifierOf c).verify key cells, c)) :=
      .bind (keeps_verify _ _ _) fun _ => .pure rfl
    exact Context.Takes.none (.map hverify fun _ => rfl)
  | readVerify _ table key =>
    cases hop
    have hverify : c.Takes Prod.snd [table] (do
        let found ← c.read table key Option.none
        let row := (found.1.data.getD []).mapValues Cell.bytes
        return (← (Harness.verifierOf found.2).verify key row, found.2)) :=
      (c.takes_read table key Option.none).finish fun _ =>
        .bind (keeps_verify _ _ _) fun _ => .pure rfl
    exact Context.Takes.one (.map hverify fun _ => rfl)
  | _ => cases hop

end Request

end LoadBinding
