import LoadBinding.Proofs.Batches
import LoadBinding.Proofs.Consulting
import LoadBinding.Proofs.Launching

/-!
# What every run preserves

A run may interleave any requests: workers come and go, contexts are made, shared and closed, and in
between records are read and written.  All requests on records have one form, an operation on the
context and the batch of a worker (`Request.operation?`), and `Harness.step_of_operation` is the
answer to such a request.

`Harness.Steady W B` says of a harness that its world has the property `W`, that every registered
worker has a context and a batch with the property `B`, and that every context serves its settings.
It holds after every step if `W` and `B` survive the operations, and `W` the making of contexts
(`Harness.Steady.step`); so an invariant of a run is shown once for each operation, whatever happens
around it.
-/

namespace LoadBinding

open LoadBinding.Action World

variable {α : Type}

/-! ## Operations -/

/-- An operation on the context and the batch of a worker. -/
abbrev Operation (α : Type) := Context → Batch → StateM World (α × Context × Batch)

/-- Putting what an activity returns in another form changes nothing of what it does. -/
lemma Context.Operates.map {β : Type} {c : Context} {contextOf : α → Context}
    {contextOf' : β → Context} {a : StateM World α} {place : α → β} (ha : c.Operates contextOf a)
    (hplace : ∀ x, contextOf' (place x) = contextOf x) :
    c.Operates contextOf' (place <$> a) := by
  refine ⟨ha.visits, fun w => ?_⟩
  obtain ⟨count, hcount⟩ := ha.advances w
  exact ⟨count, (hplace _).trans hcount⟩

/-- The status of an answer that is an outcome. -/
def Answer.status? : Answer → Option Status
  | outcome o => some o.status
  | record o => some o.status
  | records o => some o.status
  | _ => none

namespace Request

/-- The worker that a request is for and what it does with the context and the batch of the worker,
if the request is for an operation. -/
def operation? : Request → Option (String × Operation Answer)
  | isOpen name =>
    some (name, fun c b => (fun r => (.flag r.1, r.2, b)) <$> do return (c.isOpen, c))
  | insert name table key values =>
    some (name, fun c b => (fun r => (.outcome r.1, r.2)) <$> c.insert b table key values)
  | update name table key values =>
    some (name, fun c b => (fun r => (.outcome r.1, r.2, b)) <$> c.update table key values)
  | read name table key fields =>
    some (name, fun c b => (fun r => (.record r.1, r.2, b)) <$> c.read table key fields)
  | delete name table key =>
    some (name, fun c b => (fun r => (.outcome r.1, r.2, b)) <$> c.delete table key)
  | scan name table start count fields =>
    some (name, fun c b => (fun r => (.records r.1, r.2, b)) <$> c.scan table start count fields)
  | flush name selection =>
    some (name, fun c b => (fun r => (.outcome r.1, r.2)) <$> c.flush b selection)
  | verify name key cells =>
    some (name, fun c b => (fun r => (.outcome r.1, r.2, b)) <$> do
      return (← (Harness.verifierOf c).verify key cells, c))
  | readVerify name table key =>
    some (name, fun c b => (fun r => (.outcome r.1, r.2, b)) <$> do
      let found ← c.read table key none
      let row := (found.1.data.getD []).mapValues Cell.bytes
      return (← (Harness.verifierOf found.2).verify key row, found.2))
  | _ => none

variable {request : Request} {name : String} {op : Operation Answer}

/-- An operation asks the store through the endpoints of its context, and only advances it. -/
lemma operates_operation (h : request.operation? = some (name, op)) (c : Context) (b : Batch) :
    c.Operates (fun result => result.2.1) (op c b) := by
  cases request with
  | isOpen _ =>
    cases h
    exact .pure 0 rfl
  | insert _ table key values =>
    cases h
    exact (c.operates_insert b table key values).map fun _ => rfl
  | update _ table key values =>
    cases h
    exact (c.operates_update table key values).map fun _ => rfl
  | read _ table key fields =>
    cases h
    exact (c.operates_read table key fields).map fun _ => rfl
  | delete _ table key =>
    cases h
    exact (c.operates_delete table key).map fun _ => rfl
  | scan _ table start count fields =>
    cases h
    exact (c.operates_scan table start count fields).map fun _ => rfl
  | flush _ selection =>
    cases h
    exact (c.operates_flush b selection).map fun _ => rfl
  | verify _ key cells =>
    cases h
    have hverify : c.Operates Prod.snd
        (do return (← (Harness.verifierOf c).verify key cells, c)) :=
      .bind (keeps_verify _ _ _) fun _ => .pure 0 rfl
    exact hverify.map fun _ => rfl
  | readVerify _ table key =>
    cases h
    have hverify : c.Operates Prod.snd (do
        let found ← c.read table key none
        let row := (found.1.data.getD []).mapValues Cell.bytes
        return (← (Harness.verifierOf found.2).verify key row, found.2)) :=
      (c.operates_read table key none).andThen fun _ =>
        .bind (keeps_verify _ _ _) fun _ => .pure 0 rfl
    exact hverify.map fun _ => rfl
  | _ => cases h

end Request

namespace Harness

variable {h : Harness} {name : String} {request : Request} {op : Operation Answer}

/-- An operation whose result is put in another form. -/
lemma operate_map {β : Type} (h : Harness) (name : String) (op : Operation α) (f : α → β) :
    h.operate name (fun c b => (fun r => (f r.1, r.2)) <$> op c b) =
      ((h.operate name op).1.map f, (h.operate name op).2) := by
  by_cases hw : ∃ w active c, h.Holds name w active c
  · obtain ⟨w, active, c, hw⟩ := hw
    rw [operate_of_holds hw, operate_of_holds hw]
    rfl
  · have hnone : ∀ w active c, ¬ h.Holds name w active c :=
      fun w active c hw' => hw ⟨w, active, c, hw'⟩
    rw [operate_of_not_holds hnone, operate_of_not_holds hnone]
    rfl

/-- An operation that leaves the batch alone, and whose result is put in another form. -/
lemma operateOn_map {β : Type} (h : Harness) (name : String)
    (op : Context → StateM World (α × Context)) (f : α → β) :
    h.operate name (fun c b => (fun r => (f r.1, r.2, b)) <$> op c) =
      ((h.operateOn name op).1.map f, (h.operateOn name op).2) :=
  operate_map h name (fun c b => do
    let result ← op c
    return (result.1, result.2, b)) f

/-- The answer to a request for an operation is what the operation returns. -/
lemma answer_of_operation (hop : request.operation? = some (name, op)) :
    h.answer request = h.operate name op := by
  cases request with
  | isOpen _ =>
    cases hop
    exact (operateOn_map h name (fun c => return (c.isOpen, c)) Answer.flag).symm
  | insert _ table key values =>
    cases hop
    exact (operate_map h name (fun c b => c.insert b table key values) Answer.outcome).symm
  | update _ table key values =>
    cases hop
    exact (operateOn_map h name _ Answer.outcome).symm
  | read _ table key fields =>
    cases hop
    exact (operateOn_map h name (fun c => c.read table key fields) Answer.record).symm
  | delete _ table key =>
    cases hop
    exact (operateOn_map h name _ Answer.outcome).symm
  | scan _ table start count fields =>
    cases hop
    exact (operateOn_map h name (fun c => c.scan table start count fields) Answer.records).symm
  | flush _ selection =>
    cases hop
    exact (operate_map h name (fun c b => c.flush b selection) Answer.outcome).symm
  | verify _ key cells =>
    cases hop
    exact (operateOn_map h name _ Answer.outcome).symm
  | readVerify _ table key =>
    cases hop
    exact (operateOn_map h name _ Answer.outcome).symm
  | _ => cases hop

/-- The answer to a request for an operation, and the harness after it. -/
lemma step_of_operation {w : Worker} {active : Active} {c : Context}
    (hop : request.operation? = some (name, op)) (hw : h.Holds name w active c) :
    h.step request =
      (.ok ((op c active.batch).run h.world).1.1,
        (h.operated name w active ((op c active.batch).run h.world).1.2.1
          ((op c active.batch).run h.world).1.2.2
          ((op c active.batch).run h.world).2).noteContexts) := by
  unfold step
  rw [answer_of_operation hop, operate_of_holds hw]

/-- Without a context a worker does nothing. -/
lemma step_of_not_holds (hop : request.operation? = some (name, op))
    (hw : ∀ w active c, ¬ h.Holds name w active c) :
    h.step request = (.error .workerInactive, h.noteContexts) := by
  unfold step
  rw [answer_of_operation hop, operate_of_not_holds hw]

/-! ## The invariant -/

/-- A pool that was opened has an endpoint for every server. -/
lemma length_of_openFrom {s : Settings} {encryption : Option (String → Action Value)}
    {opened endpoints : List Endpoint} {servers : List String} {w w' : World}
    (h : exec (Pool.openFrom s encryption opened servers) w = (.ok endpoints, w')) :
    endpoints.length = opened.length + servers.length := by
  induction servers generalizing opened w with
  | nil =>
    cases h
    rfl
  | cons server rest ih =>
    obtain ⟨e, w₁, -, hrest⟩ := openFrom_cons_eq_ok h
    rw [ih hrest, List.length_append, List.length_singleton, List.length_cons]
    omega

/-- A context that was created serves its settings. -/
lemma serves_of_create {bag : Bag} {w w' : World} {c : Context}
    (h : exec (Context.create bag) w = (.ok c, w')) : c.Serves c.settings := by
  cases hs : (Settings.resolve bag).1 with
  | refused problems =>
    obtain ⟨entries, hrefused⟩ := exec_create_of_refused hs w
    rw [hrefused] at h
    cases h
  | ok s =>
    rw [exec_create_of_resolve hs] at h
    obtain ⟨p, w₁, hpool, hannounce⟩ := exec_bind_eq_ok h
    have hlength := length_of_openFrom (openFrom_of_openPool hpool).1
    have hendpoints : p.endpoints ≠ [] := by
      intro hnil
      rw [hnil, List.length_nil, Nat.zero_add, eq_comm, List.length_eq_zero_iff] at hlength
      exact Settings.endpoints_ne_nil hs hlength
    cases hannounce
    exact ⟨rfl, rfl, hendpoints⟩

/-- An operation preserves a property of worlds and a property of what is buffered under some
settings. -/
def Maintains (W : World → Prop) (B : Settings → Batch → Prop) (op : Operation α) : Prop :=
  ∀ c b w, c.Serves c.settings → W w → B c.settings b →
    W ((op c b).run w).2 ∧ B c.settings ((op c b).run w).1.2.2

/-- The world has the property `W`, and every registered worker has a context and a batch that has
the property `B` under the settings of the context. -/
structure Steady (W : World → Prop) (B : Settings → Batch → Prop) (h : Harness) : Prop where
  world : W h.world
  contexts : ∀ c ∈ h.contexts, c.Serves c.settings
  workers : ∀ pair ∈ h.workers, ∀ active, pair.2.active = some active →
    ∃ c, h.contexts[active.context]? = some c ∧ B c.settings active.batch
  providers : ∀ pair ∈ h.providers, ∀ number, pair.2.context = some number →
    number < h.contexts.length

/-- Contexts that were there are still there, under the same settings. -/
def KeepsContexts (h h' : Harness) : Prop :=
  ∀ (number : ℕ) (c : Context), h.contexts[number]? = some c →
    ∃ c' : Context, h'.contexts[number]? = some c' ∧ c'.settings = c.settings

section Steady

variable {W : World → Prop} {B : Settings → Batch → Prop} {h' : Harness} {w : Worker}
  {active : Active} {c : Context}

lemma KeepsContexts.of_eq (heq : h'.contexts = h.contexts) : h.KeepsContexts h' :=
  fun _ c hc => ⟨c, heq ▸ hc, rfl⟩

/-- A context may be replaced by one under the same settings. -/
lemma KeepsContexts.of_set {number : ℕ} {c' : Context} (hc : h.contexts[number]? = some c)
    (heq : h'.contexts = h.contexts.set number c') (hsettings : c'.settings = c.settings) :
    h.KeepsContexts h' := by
  intro n d hd
  rw [heq]
  by_cases hn : number = n
  · subst hn
    obtain rfl : c = d := Option.some.inj (hc.symm.trans hd)
    exact ⟨c', List.getElem?_set_self (List.getElem?_eq_some_iff.mp hc).1, hsettings⟩
  · exact ⟨d, by rw [List.getElem?_set_ne hn, hd], rfl⟩

/-- A context may be added. -/
lemma KeepsContexts.of_append {c' : Context} (heq : h'.contexts = h.contexts ++ [c']) :
    h.KeepsContexts h' := by
  intro n d hd
  refine ⟨d, ?_, rfl⟩
  rw [heq, List.getElem?_append_left (List.getElem?_eq_some_iff.mp hd).1, hd]

lemma KeepsContexts.lt (hk : h.KeepsContexts h') {number : ℕ} (hn : number < h.contexts.length) :
    number < h'.contexts.length := by
  obtain ⟨c', hc', -⟩ := hk number _ (List.getElem?_eq_getElem hn)
  exact (List.getElem?_eq_some_iff.mp hc').1

namespace Steady

lemma noteContexts (hs : h.Steady W B) : h.noteContexts.Steady W B :=
  ⟨hs.world, hs.contexts, hs.workers, hs.providers⟩

/-- What happens to the world and to the contexts, while the workers stay as they are. -/
lemma change (hs : h.Steady W B) (hworld : W h'.world)
    (hcontexts : ∀ c ∈ h'.contexts, c.Serves c.settings) (hk : h.KeepsContexts h')
    (hworkers : h'.workers = h.workers)
    (hproviders : ∀ pair ∈ h'.providers, pair ∈ h.providers ∨
      ∀ number, pair.2.context = some number → number < h'.contexts.length) :
    h'.Steady W B := by
  refine ⟨hworld, hcontexts, fun pair hpair active hactive => ?_, fun pair hpair number hn => ?_⟩
  · obtain ⟨c, hc, hb⟩ := hs.workers pair (hworkers ▸ hpair) active hactive
    obtain ⟨c', hc', hsettings⟩ := hk _ c hc
    exact ⟨c', hc', hsettings ▸ hb⟩
  · rcases hproviders pair hpair with hold | hnew
    · exact hk.lt (hs.providers pair hold number hn)
    · exact hnew number hn

/-- A worker may be replaced, together with its registration. -/
lemma setWorker (hs : h.Steady W B) (name : String)
    (hw : ∀ active, w.active = some active →
      ∃ c, h.contexts[active.context]? = some c ∧ B c.settings active.batch) :
    Steady W B { h with workers := h.workers.set name w } := by
  refine ⟨hs.world, hs.contexts, fun pair hpair => ?_, hs.providers⟩
  rcases Mapping.mem_set hpair with rfl | hpair
  · exact hw
  · exact hs.workers pair hpair

/-- A provider may be replaced. -/
lemma setProvider (hs : h.Steady W B) (name : String) {p : Provider}
    (hp : ∀ number, p.context = some number → number < h.contexts.length) :
    (h.setProvider name p).Steady W B :=
  hs.change hs.world hs.contexts (.of_eq rfl) rfl fun pair hpair => by
    rcases Mapping.mem_set hpair with rfl | hpair
    · exact .inr hp
    · exact .inl hpair

/-- The context of a provider is one of those that there are. -/
lemma lt_of_provider (hs : h.Steady W B) {name : String} {number : ℕ}
    (hn : (h.provider name).context = some number) : number < h.contexts.length := by
  unfold Harness.provider at hn
  cases hget : h.providers.get? name with
  | none =>
    rw [hget] at hn
    cases hn
  | some p =>
    rw [hget] at hn
    exact hs.providers _ (Mapping.mem_of_get? hget) number hn

/-- A registered worker holds a context. -/
lemma exists_holds (hs : h.Steady W B) (hw : h.workers.get? name = some w)
    (ha : w.active = some active) :
    ∃ c, h.Holds name w active c ∧ c.Serves c.settings ∧ B c.settings active.batch := by
  obtain ⟨c, hc, hb⟩ := hs.workers _ (Mapping.mem_of_get? hw) active ha
  exact ⟨c, ⟨hw, ha, hc⟩, hs.contexts c (List.mem_of_getElem? hc), hb⟩

/-- The context that a worker holds serves its settings, and the batch has the property. -/
lemma serves_of_holds (hs : h.Steady W B) (hw : h.Holds name w active c) :
    c.Serves c.settings ∧ B c.settings active.batch := by
  obtain ⟨c', hw', hserves, hb⟩ := hs.exists_holds hw.worker hw.registered
  obtain rfl : c = c' := Option.some.inj (hw.context.symm.trans hw'.context)
  exact ⟨hserves, hb⟩

/-! ### Operations -/

lemma operated (hs : h.Steady W B) (hw : h.Holds name w active c) {c' : Context} {b : Batch}
    {world : World} (hc' : ∃ count, c' = c.advance count) (hworld : W world)
    (hb : B c.settings b) : (h.operated name w active c' b world).Steady W B := by
  obtain ⟨count, rfl⟩ := hc'
  have hserves := hs.contexts c (List.mem_of_getElem? hw.context)
  let h' : Harness := { h with
    world := world
    contexts := h.contexts.set active.context (c.advance count) }
  have hset : h'.contexts[active.context]? = some (c.advance count) :=
    List.getElem?_set_self (List.getElem?_eq_some_iff.mp hw.context).1
  have hs' : h'.Steady W B :=
    hs.change hworld
      (fun d hd => (List.mem_or_eq_of_mem_set hd).elim (hs.contexts d)
        fun heq => heq ▸ hserves.advance count)
      (.of_set hw.context rfl rfl) rfl fun pair hpair => .inl hpair
  exact hs'.setWorker name fun active' hactive' => by
    cases hactive'
    exact ⟨_, hset, hb⟩

/-- An operation that preserves the properties preserves the invariant. -/
lemma operate (hs : h.Steady W B) (name : String) {op : Operation α}
    (ho : ∀ (c : Context) b, c.Operates (fun result => result.2.1) (op c b))
    (hm : Maintains W B op) : (h.operate name op).2.Steady W B := by
  by_cases hw : ∃ w active c, h.Holds name w active c
  · obtain ⟨w, active, c, hw⟩ := hw
    obtain ⟨hserves, hb⟩ := hs.serves_of_holds hw
    obtain ⟨hworld, hbatch⟩ := hm c active.batch h.world hserves hs.world hb
    rw [operate_of_holds hw]
    exact hs.operated hw ((ho c active.batch).advances h.world) hworld hbatch
  · have hnone : ∀ w active c, ¬ h.Holds name w active c :=
      fun w active c hw' => hw ⟨w, active, c, hw'⟩
    rw [operate_of_not_holds hnone]
    exact hs

/-- A request for an operation preserves the invariant if its operation preserves the properties. -/
lemma step_operation (hs : h.Steady W B) (hop : request.operation? = some (name, op))
    (hm : Maintains W B op) : (h.step request).2.Steady W B := by
  unfold step
  rw [answer_of_operation hop]
  exact (hs.operate name (Request.operates_operation hop) hm).noteContexts

end Steady

end Steady

/-! ### Everything around the operations -/

/-- Two properties that survive what happens around the operations of workers: contexts are made and
closed, and new batches begin empty. -/
structure Endures (W : World → Prop) (B : Settings → Batch → Prop) : Prop where
  consults : ∀ {w w' : World}, W w → w.Consults w' → W w'
  create : ∀ bag w, W w → W (exec (Context.create bag) w).2
  empty : ∀ s : Settings, B s { size := s.batchSize }
  flush : Maintains W B fun c b => c.flush b none

section Endures

variable {W : World → Prop} {B : Settings → Batch → Prop} {w : Worker} {h' : Harness}

/-- Selecting endpoints only advances a context. -/
lemma exists_advance_selectEndpoints (c : Context) (count : ℕ) :
    ∃ n, (selectEndpoints c count).2 = c.advance n := by
  induction count generalizing c with
  | zero => exact ⟨0, rfl⟩
  | succ count ih =>
    unfold selectEndpoints
    rw [Context.next_eq]
    cases c.selected with
    | none => exact ⟨1, rfl⟩
    | some e =>
      obtain ⟨n, hn⟩ := ih (c.advance 1)
      exact ⟨1 + n, hn.trans (c.advance_advance 1 n)⟩

lemma context_of_lastContext? {number : ℕ} {c : Context}
    (hlast : h.lastContext? name = some (number, c)) : h.contexts[number]? = some c := by
  obtain ⟨n, -, hrest⟩ := Option.bind_eq_some_iff.mp hlast
  obtain ⟨d, hd, hpair⟩ := Option.bind_eq_some_iff.mp hrest
  cases hpair
  exact hd

namespace Steady

lemma consults (hs : h.Steady W B) (he : Endures W B) {world : World}
    (hw : h.world.Consults world) : Steady W B { h with world := world } :=
  hs.change (he.consults hs.world hw) hs.contexts (.of_eq rfl) rfl fun _ hpair => .inl hpair

/-- A context may be replaced by one that serves the same settings. -/
lemma setContext (hs : h.Steady W B) {number : ℕ} {c c' : Context}
    (hc : h.contexts[number]? = some c) (hc' : c'.Serves c.settings) :
    (h.setContext number c').Steady W B :=
  hs.change hs.world
    (fun d hd => (List.mem_or_eq_of_mem_set hd).elim (hs.contexts d)
      fun heq => heq ▸ hc'.settings.symm ▸ hc')
    (.of_set hc rfl hc'.settings) rfl fun _ hpair => .inl hpair

/-- Registering with a provider gives a context that there is, and leaves the workers alone. -/
lemma acquire (hs : h.Steady W B) (he : Endures W B) (name : String) (bag : Bag) :
    (h.acquire name bag).2.Steady W B ∧ (h.acquire name bag).2.workers = h.workers ∧
      ∀ number, (h.acquire name bag).1 = .ok number →
        number < (h.acquire name bag).2.contexts.length := by
  cases hcontext : (h.provider name).context with
  | some number =>
    have hlt := hs.lt_of_provider hcontext
    rw [acquire_of_context hcontext]
    exact ⟨hs.setProvider name fun n hn => Option.some.inj hn ▸ hlt, rfl,
      fun n hn => Except.ok.inj hn ▸ hlt⟩
  | none =>
    have hcreate := he.create bag h.world hs.world
    cases hmade : exec (Context.create bag) h.world with
    | mk r world =>
      rw [hmade] at hcreate
      cases r with
      | error e =>
        rw [acquire_of_error hcontext hmade]
        have hworld : Steady W B { h with world := world } :=
          hs.change hcreate hs.contexts (.of_eq rfl) rfl fun _ hpair => .inl hpair
        refine ⟨hworld.setProvider name fun n hn => ?_, rfl, nofun⟩
        cases hcontext.symm.trans hn
      | ok c =>
        rw [acquire_of_ok hcontext hmade]
        have hlt : h.contexts.length < (h.contexts ++ [c]).length := by simp
        have hadded : Steady W B { h with world := world, contexts := h.contexts ++ [c] } := by
          refine hs.change hcreate (fun d hd => ?_) (.of_append rfl) rfl fun _ hpair => .inl hpair
          rcases List.mem_append.mp hd with hd | hd
          · exact hs.contexts d hd
          · exact List.mem_singleton.mp hd ▸ serves_of_create hmade
        exact ⟨hadded.setProvider name fun n hn => Option.some.inj hn ▸ hlt, rfl,
          fun n hn => Except.ok.inj hn ▸ hlt⟩

/-- Registering a worker preserves the invariant. -/
lemma initWorker (hs : h.Steady W B) (he : Endures W B) (name : String) (w : Worker) :
    (h.initWorker name w).2.Steady W B := by
  cases hactive : w.active with
  | some active =>
    rw [initWorker_of_active hactive]
    exact hs
  | none =>
    obtain ⟨hacquired, -, hlt⟩ := hs.acquire he w.provider w.bag
    unfold Harness.initWorker
    rw [hactive]
    dsimp only
    cases hrun : h.acquire w.provider w.bag with
    | mk r h' =>
      rw [hrun] at hacquired hlt
      cases r with
      | error e => exact hacquired
      | ok number =>
        obtain ⟨c, hc⟩ : ∃ c, h'.contexts[number]? = some c :=
          ⟨_, List.getElem?_eq_getElem (hlt number rfl)⟩
        dsimp only
        rw [hc, Option.map_some, Option.getD_some]
        cases hbatch : Batch.create c.settings.batchSize with
        | error e => exact hacquired
        | ok batch =>
          obtain rfl := Batch.eq_of_create hbatch
          refine hacquired.setWorker name fun active hactive => ?_
          cases hactive
          exact ⟨c, hc, he.empty c.settings⟩

/-- Taking back a registration preserves the invariant. -/
lemma release (hs : h.Steady W B) (he : Endures W B) (name : String) :
    (h.release name).Steady W B := by
  have hsame {p : Provider} (hp : p.context = (h.provider name).context) :
      (h.setProvider name p).Steady W B :=
    hs.setProvider name fun n hn => hs.lt_of_provider (hp.symm.trans hn)
  unfold Harness.release
  dsimp only
  split
  · exact (hsame rfl).consults he (keeps_log _ _ _ _)
  · split
    · rename_i number hnumber
      split
      · exact hs.setProvider name fun n hn => by cases hn
      · rename_i c hc
        have hserves := hs.contexts c (List.mem_of_getElem? hc)
        have hclosed := (hs.consults he (c.closes_close h.world).consults).setContext hc
          (hserves.close h.world)
        have hreset := hclosed.setProvider name (p := {}) fun n hn => by cases hn
        exact hreset.consults he (keeps_log _ _ _ _)
    · exact hsame rfl

/-- A clean-up preserves the invariant. -/
lemma cleanUpWorker (hs : h.Steady W B) (he : Endures W B) (name : String) (w : Worker) :
    (h.cleanUpWorker name w).Steady W B := by
  cases hactive : w.active with
  | none =>
    rw [cleanUpWorker_of_idle hactive]
    exact hs
  | some active =>
    have hflushed : (h.flushed name active.batch).Steady W B := by
      unfold Harness.flushed
      split
      · exact hs
      · exact hs.operate name (fun c b => c.operates_flush b none) he.flush
    rw [cleanUpWorker_of_active hactive]
    have hretired : ((h.flushed name active.batch).retired name w).Steady W B :=
      hflushed.setWorker name fun active' hactive' => by cases hactive'
    exact hretired.release he w.provider

/-- Requests that are not for an operation preserve the invariant. -/
lemma answer (hs : h.Steady W B) (he : Endures W B) (hop : request.operation? = none) :
    (h.answer request).2.Steady W B := by
  cases request with
  | acquire name bag =>
    have hacquired := (hs.acquire he name bag).1
    unfold Harness.answer
    dsimp only
    cases hrun : h.acquire name bag with
    | mk r h' =>
      rw [hrun] at hacquired
      cases r with
      | error e => exact hacquired
      | ok number =>
        dsimp only
        cases h'.contexts[number]? <;> exact hacquired
  | release name => exact hs.release he name
  | select name count =>
    unfold Harness.answer
    dsimp only
    cases hlast : h.lastContext? name with
    | none => exact hs
    | some found =>
      obtain ⟨number, c⟩ := found
      have hc := context_of_lastContext? hlast
      obtain ⟨n, hn⟩ := exists_advance_selectEndpoints c count
      refine hs.setContext hc ?_
      rw [hn]
      exact (hs.contexts c (List.mem_of_getElem? hc)).advance n
  | closeContext name =>
    unfold Harness.answer
    dsimp only
    cases hlast : h.lastContext? name with
    | none => exact hs
    | some found =>
      obtain ⟨number, c⟩ := found
      have hc := context_of_lastContext? hlast
      have hserves := hs.contexts c (List.mem_of_getElem? hc)
      exact (hs.consults he (c.closes_close h.world).consults).setContext hc
        (hserves.close h.world)
  | makeContext => exact hs
  | setFaults faults =>
    exact hs.consults he ⟨⟨[], (List.append_nil _).symm, by simp⟩, .refl h.world.cluster⟩
  | newWorker name provider bag =>
    have hmentioned : (h.mention provider).Steady W B :=
      hs.setProvider provider fun n hn => hs.lt_of_provider hn
    exact hmentioned.setWorker name fun active hactive => by cases hactive
  | init name =>
    unfold Harness.answer
    dsimp only
    cases h.workers.get? name with
    | none => exact hs
    | some w => exact hs.initWorker he name w
  | enter name =>
    unfold Harness.answer
    dsimp only
    cases h.workers.get? name with
    | none => exact hs
    | some w => exact hs.initWorker he name w
  | cleanUp name =>
    unfold Harness.answer
    dsimp only
    cases h.workers.get? name with
    | none => exact hs
    | some w => exact hs.cleanUpWorker he name w
  | _ => cases hop

/-- Every step preserves the invariant, if the operation that is requested preserves the
properties. -/
theorem step (hs : h.Steady W B) (he : Endures W B)
    (hm : ∀ name op, request.operation? = some (name, op) → Maintains W B op) :
    (h.step request).2.Steady W B := by
  cases hop : request.operation? with
  | some found =>
    obtain ⟨name, op⟩ := found
    exact hs.step_operation hop (hm name op hop)
  | none => exact (hs.answer he hop).noteContexts

end Steady

/-- In the beginning there are neither contexts nor registered workers. -/
lemma steady_start {cluster : Cluster} {draws : Draws} {faults : Faults} (provider : String)
    (bags : Mapping Bag)
    (hw : W { cluster := cluster, draws := draws, faults := faults }) :
    (start cluster draws faults provider bags).Steady W B := by
  refine ⟨hw, fun c hc => absurd hc List.not_mem_nil, fun pair hpair active hactive => ?_,
    fun pair hpair => absurd hpair List.not_mem_nil⟩
  obtain ⟨pair', -, rfl⟩ := List.mem_map.mp hpair
  cases hactive

/-- The invariant holds after every run. -/
theorem steady_run (he : Endures W B) {cluster : Cluster} {draws : Draws} {faults : Faults}
    (provider : String) (bags : Mapping Bag)
    (hw : W { cluster := cluster, draws := draws, faults := faults }) {requests : List Request}
    (hm : ∀ request ∈ requests, ∀ name op, request.operation? = some (name, op) →
      Maintains W B op) :
    ((start cluster draws faults provider bags).run requests).2.Steady W B := by
  refine run_induction (P := fun h => h.Steady W B) _ (fun h hs request hr => ?_)
    (steady_start provider bags hw)
  exact hs.step he (hm request hr)

/-- No property of the world or of what is buffered is needed for a worker to have its context. -/
lemma endures_true : Endures (fun _ => True) fun _ _ => True :=
  ⟨fun _ _ => trivial, fun _ _ _ => trivial, fun _ => trivial,
    fun _ _ _ _ _ _ => ⟨trivial, trivial⟩⟩

/-- In every state of a run registered workers have their contexts, and all contexts serve their
settings. -/
lemma steady_true (cluster : Cluster) (draws : Draws) (faults : Faults) (provider : String)
    (bags : Mapping Bag) (requests : List Request) :
    ((start cluster draws faults provider bags).run requests).2.Steady (fun _ => True)
      fun _ _ => True :=
  steady_run endures_true provider bags trivial fun _ _ _ _ _ _ _ _ _ _ _ => ⟨trivial, trivial⟩

/-- Workers that were launched have their context and an empty batch. -/
lemma Launched.steady {cluster : Cluster} {draws : Draws} {faults : Faults} {provider : String}
    {bags : Mapping Bag} {c : Context} (hl : Launched cluster draws faults provider bags h)
    (hshares : h.Shares provider bags c) (hw : W h.world)
    (hb : B c.settings { size := c.settings.batchSize }) : h.Steady W B := by
  have hrun : h = ((start cluster draws faults provider bags).run
      (bags.keys.map Request.init)).2 := (congrArg Prod.snd hl.run).symm
  have hsteady : h.Steady (fun _ => True) fun _ _ => True := by
    rw [hrun]
    exact steady_true _ _ _ _ _ _
  refine ⟨hw, hsteady.contexts, fun pair hpair active hactive => ?_, hsteady.providers⟩
  rw [hshares.workers] at hpair
  obtain ⟨pair', -, rfl⟩ := List.mem_map.mp hpair
  cases hactive
  exact ⟨c, by rw [hshares.contexts]; rfl, hb⟩

end Endures

end Harness

end LoadBinding
