import LoadBinding.Proofs.Closing

/-!
# The lifetime of a shared context

The workers of a provider come and go in any order, and any call to the store may show a fault.  A
provider that is used through its workers only keeps its books straight all the same: it counts the
registered workers, it has a context exactly as long as there is one, and that context is the one
that they all hold.  In particular no operation ever asks the store through a closed connection.

The invariant behind this, `Harness.Sound`, says more than a caller sees: every client of the shared
context is connected and has not been closed.  Registering makes a new context or joins the one
there is, operations only visit the endpoints of the context, and a clean-up closes them after the
last worker alone.
-/

namespace LoadBinding

open LoadBinding.Action World

variable {α : Type}

namespace Context

/-- A context that operations can rely on: it is open, and so are the clients of its pool. -/
structure Ready (c : Context) (w : World) : Prop where
  isOpen : c.isOpen = true
  poolIsOpen : c.pool.isOpen = true
  one_le_batchSize : 1 ≤ c.settings.batchSize
  connected : ∀ e ∈ c.pool.endpoints, e.Connected w

lemma Opened.ready {bag : Bag} {w : World} {c : Context} (h : c.Opened bag w) : c.Ready w :=
  ⟨h.isOpen, h.poolIsOpen, Settings.one_le_batchSize h.settings, h.connected⟩

/-- What an operation leaves of a context can be relied on again. -/
lemma Ready.advance {c : Context} {w w' : World} (h : c.Ready w)
    (hv : Visits c.pool.endpoints w w') (count : ℕ) : (c.advance count).Ready w' := by
  refine ⟨h.isOpen, h.poolIsOpen, h.one_le_batchSize, fun e he => ?_⟩
  obtain ⟨hlt, hopen⟩ := h.connected e he
  exact ⟨hv.connections ▸ hlt, hv.not_closed hopen⟩

/-- Closing a context closes connections that there are. -/
lemma opens_close {c : Context} {w : World} (h : c.Ready w) : Opens 0 w (c.close.run w).2 := by
  unfold close
  rw [if_pos h.isOpen, run_bind, run_pure]
  unfold Pool.close
  rw [run_bind, run_pure]
  exact opens_closeEndpoints fun e he => ⟨Nat.zero_le _, (h.connected e he).1⟩

end Context

/-! ## The invariant -/

namespace Harness

/-- The books of a provider that is used through its workers: it counts the registered workers, and
while there is one it has a context that can be relied on and that they all hold. -/
structure Sound (h : Harness) (provider : String) : Prop where
  tidy : h.world.Tidy
  workers : ∀ pair ∈ h.workers, pair.2.provider = provider
  registrations : (h.provider provider).registrations = h.activeCount
  unused : (h.provider provider).context = none → h.activeCount = 0
  used : ∀ number, (h.provider provider).context = some number →
    0 < h.activeCount ∧ ∃ c, h.contexts[number]? = some c ∧ c.Ready h.world
  held : ∀ pair ∈ h.workers, ∀ active, pair.2.active = some active →
    (h.provider provider).context = some active.context

variable {h : Harness} {provider name : String} {w : Worker}

/-- In the beginning nobody is registered. -/
lemma sound_start (cluster : Cluster) (draws : Draws) (faults : Faults) (provider : String)
    (bags : Mapping Bag) : (start cluster draws faults provider bags).Sound provider := by
  have idle : ∀ pair ∈ (start cluster draws faults provider bags).workers,
      pair.2.provider = provider ∧ pair.2.active = none := by
    intro pair hpair
    obtain ⟨⟨name, bag⟩, -, rfl⟩ := List.mem_map.mp hpair
    exact ⟨rfl, rfl⟩
  have count : (start cluster draws faults provider bags).activeCount = 0 := by
    refine List.countP_eq_zero.mpr fun pair hpair => ?_
    rw [(idle pair hpair).2]
    simp
  refine ⟨fun client hc => absurd hc (List.not_mem_nil), fun pair hpair => (idle pair hpair).1,
    count.symm, fun _ => count, ?_, ?_⟩
  · intro number hnumber
    cases hnumber
  · intro pair hpair active hactive
    rw [(idle pair hpair).2] at hactive
    cases hactive

lemma Sound.noteContexts (hs : h.Sound provider) : h.noteContexts.Sound provider :=
  ⟨hs.tidy, hs.workers, hs.registrations, hs.unused, hs.used, hs.held⟩

lemma Sound.provider_eq (hs : h.Sound provider) {number : ℕ}
    (hc : (h.provider provider).context = some number) :
    h.provider provider = ⟨h.activeCount, some number⟩ := by
  rw [← hs.registrations, ← hc]

/-- A registered worker holds the context of the provider. -/
lemma Sound.holds (hs : h.Sound provider) {active : Active} (hw : h.workers.get? name = some w)
    (ha : w.active = some active) :
    ∃ c, h.Holds name w active c ∧ c.Ready h.world := by
  have hcontext := hs.held _ (Mapping.mem_of_get? hw) active ha
  obtain ⟨-, c, hc, hready⟩ := hs.used _ hcontext
  exact ⟨c, ⟨hw, ha, hc⟩, hready⟩

/-! ### Operations -/

/-- An operation of a worker preserves the invariant. -/
lemma Sound.operated (hs : h.Sound provider) {active : Active} {c : Context}
    (hw : h.Holds name w active c) {world : World} (hv : Visits c.pool.endpoints h.world world)
    (hready : c.Ready h.world) (count : ℕ) (b : Batch) :
    (h.operated name w active (c.advance count) b world).Sound provider := by
  have hcontext := hs.held _ (Mapping.mem_of_get? hw.worker) active hw.registered
  have hcount := activeCount_operated hw (c.advance count) b world
  refine ⟨hv.tidy hs.tidy, ?_, hs.registrations.trans hcount.symm,
    fun hnone => hcount.trans (hs.unused hnone), ?_, ?_⟩
  · intro pair hpair
    rcases Mapping.mem_set hpair with rfl | hpair
    · exact hs.workers (name, w) (Mapping.mem_of_get? hw.worker)
    · exact hs.workers pair hpair
  · intro number hnumber
    obtain rfl : active.context = number := Option.some.inj (hcontext.symm.trans hnumber)
    refine ⟨hcount ▸ (hs.used _ hcontext).1, c.advance count, ?_, hready.advance hv count⟩
    exact List.getElem?_set_self (List.getElem?_eq_some_iff.mp hw.context).1
  · intro pair hpair active' hactive'
    rcases Mapping.mem_set hpair with rfl | hpair
    · cases hactive'
      exact hcontext
    · exact hs.held pair hpair active' hactive'

lemma Sound.operate (hs : h.Sound provider) (name : String)
    {operation : Context → Batch → StateM World (α × Context × Batch)}
    (ho : ∀ (c : Context) b, c.Operates (fun result => result.2.1) (operation c b)) :
    (h.operate name operation).2.Sound provider := by
  by_cases hw : ∃ w active c, h.Holds name w active c
  · obtain ⟨w, active, c, hw⟩ := hw
    obtain ⟨c', hw', hready⟩ := hs.holds hw.worker hw.registered
    obtain rfl : c = c' := Option.some.inj (hw.context.symm.trans hw'.context)
    obtain ⟨count, hc⟩ := (ho c active.batch).advances h.world
    rw [operate_of_holds hw, hc]
    exact hs.operated hw ((ho c active.batch).visits h.world) hready count _
  · have hnone : ∀ w active c, ¬ h.Holds name w active c :=
      fun w active c hw' => hw ⟨w, active, c, hw'⟩
    rw [operate_of_not_holds hnone]
    exact hs

/-! ### Registering -/

/-- A worker that has just been counted takes its place among those that hold the context. -/
lemma sound_registered {number : ℕ} {c : Context} (htidy : h.world.Tidy)
    (hworkers : ∀ pair ∈ h.workers, pair.2.provider = provider)
    (hprovider : h.provider provider = ⟨h.activeCount + 1, some number⟩)
    (hc : h.contexts[number]? = some c) (hready : c.Ready h.world)
    (hheld : ∀ pair ∈ h.workers, ∀ active, pair.2.active = some active → active.context = number)
    (hw : h.workers.get? name = some w) (hidle : w.active = none) :
    (h.registered name w number c).Sound provider := by
  have hcount := activeCount_registered hw hidle number c
  have hcontext : ((h.registered name w number c).provider provider).context = some number :=
    congrArg Provider.context hprovider
  refine ⟨htidy, ?_, ?_, ?_, ?_, ?_⟩
  · intro pair hpair
    rcases Mapping.mem_set hpair with rfl | hpair
    · exact hworkers (name, w) (Mapping.mem_of_get? hw)
    · exact hworkers pair hpair
  · exact (congrArg Provider.registrations hprovider).trans hcount.symm
  · intro hnone
    rw [hcontext] at hnone
    cases hnone
  · intro number' hnumber'
    obtain rfl : number = number' := Option.some.inj (hcontext.symm.trans hnumber')
    exact ⟨by omega, c, hc, hready⟩
  · intro pair hpair active hactive
    rw [hcontext]
    rcases Mapping.mem_set hpair with rfl | hpair
    · cases hactive
      rfl
    · rw [hheld pair hpair active hactive]

/-- Registering a worker preserves the invariant, also when its context cannot be made. -/
lemma Sound.initWorker (hs : h.Sound provider) (hw : h.workers.get? name = some w) :
    (h.initWorker name w).2.Sound provider := by
  obtain rfl : w.provider = provider := hs.workers (name, w) (Mapping.mem_of_get? hw)
  cases hactive : w.active with
  | some active =>
    rw [initWorker_of_active hactive]
    exact hs
  | none =>
    cases hcontext : (h.provider w.provider).context with
    | some number =>
      obtain ⟨-, c, hc, hready⟩ := hs.used number hcontext
      rw [initWorker_of_ok hactive (acquire_of_context hcontext w.bag) hc
        hready.one_le_batchSize]
      refine sound_registered (h := h.setProvider w.provider _) hs.tidy hs.workers ?_ hc hready ?_
        hw hactive
      · rw [provider_setProvider, hs.registrations]
        rfl
      · intro pair hpair active hactive'
        exact Option.some.inj ((hs.held pair hpair active hactive').symm.trans hcontext)
    | none =>
      have hnobody := hs.unused hcontext
      have hidle : ∀ pair ∈ h.workers, pair.2.active = none := by
        intro pair hpair
        have := List.countP_eq_zero.mp hnobody pair hpair
        simpa using this
      cases hmade : exec (Context.create w.bag) h.world with
      | mk r world =>
        have hopens : Opens h.world.cluster.connections.length h.world world :=
          rel_of_exec (opens_create w.bag hs.tidy) hmade
        cases r with
        | error e =>
          rw [initWorker_of_error hactive (acquire_of_error hcontext hmade)]
          have hsame : ({ h with world := world }.setProvider w.provider
              (h.provider w.provider)).provider w.provider = h.provider w.provider :=
            provider_setProvider _ _ _
          refine ⟨hopens.tidy hs.tidy, hs.workers, by rw [hsame]; exact hs.registrations,
            fun _ => hnobody, ?_, ?_⟩
          · intro number hnumber
            rw [hsame, hcontext] at hnumber
            cases hnumber
          · intro pair hpair active hactive'
            rw [hidle pair hpair] at hactive'
            cases hactive'
        | ok c =>
          have hready := (opened_of_create hs.tidy hmade).ready
          have hc : (h.contexts ++ [c])[h.contexts.length]? = some c :=
            List.getElem?_concat_length
          rw [initWorker_of_ok hactive (acquire_of_ok hcontext hmade) hc hready.one_le_batchSize]
          refine sound_registered (hopens.tidy hs.tidy) hs.workers ?_ hc hready ?_ hw hactive
          · rw [provider_setProvider, hs.registrations]
            rfl
          · intro pair hpair active hactive'
            rw [hidle pair hpair] at hactive'
            cases hactive'

/-! ### Unregistering -/

/-- Taking back the registration of a worker preserves the invariant. -/
lemma Sound.release (hs : h.Sound provider) {w' : Worker} {active : Active}
    (hw : h.workers.get? name = some w) (ha : w.active = some active)
    (hw' : w'.provider = provider) : ((h.retired name w').release provider).Sound provider := by
  obtain ⟨c, hholds, hready⟩ := hs.holds hw ha
  have hcontext := hs.held (name, w) (Mapping.mem_of_get? hw) active ha
  have hcount := activeCount_retired hw ha w'
  have hworkers : ∀ pair ∈ (h.retired name w').workers, pair.2.provider = provider := by
    intro pair hpair
    rcases Mapping.mem_set hpair with rfl | hpair
    · exact hw'
    · exact hs.workers pair hpair
  have hheld : ∀ pair ∈ (h.retired name w').workers, ∀ active', pair.2.active = some active' →
      (h.provider provider).context = some active'.context := by
    intro pair hpair active' hactive'
    rcases Mapping.mem_set hpair with rfl | hpair
    · cases hactive'
    · exact hs.held pair hpair active' hactive'
  cases hleft : (h.retired name w').activeCount with
  | zero =>
    have hprovider : (h.retired name w').provider provider = ⟨1, some active.context⟩ := by
      rw [← Nat.zero_add 1, ← hleft, hcount]
      exact hs.provider_eq hcontext
    have hidle : ∀ pair ∈ (h.retired name w').workers, pair.2.active = none := by
      intro pair hpair
      simpa using List.countP_eq_zero.mp hleft pair hpair
    have hclosed : Opens 0 h.world (c.close.run h.world).2 := Context.opens_close hready
    have hlogged : Opens 0 h.world ((log .info logSource "Binding context closed").run
        (c.close.run h.world).2).2 :=
      IsTrans.trans _ _ _ hclosed (keeps_log _ _ _ _)
    rw [release_of_one hprovider hholds.context]
    refine ⟨hlogged.tidy hs.tidy, hworkers, ?_, fun _ => hleft, ?_, ?_⟩
    · rw [provider_setProvider]
      exact hleft.symm
    · rw [provider_setProvider]
      exact nofun
    · intro pair hpair active' hactive'
      rw [hidle pair hpair] at hactive'
      cases hactive'
  | succ count =>
    have hprovider : (h.retired name w').provider provider = ⟨count + 2, some active.context⟩ := by
      rw [show count + 2 = count + 1 + 1 from rfl, ← hleft, hcount]
      exact hs.provider_eq hcontext
    have hpos : 0 < (h.retired name w').activeCount := by omega
    rw [release_of_many hprovider]
    refine ⟨hs.tidy, hworkers, ?_, ?_, ?_, ?_⟩
    · rw [provider_setProvider]
      exact hleft.symm
    · rw [provider_setProvider]
      exact nofun
    · rw [provider_setProvider]
      rintro number ⟨⟩
      exact ⟨hpos, c, hholds.context, hready⟩
    · rw [provider_setProvider]
      intro pair hpair active' hactive'
      exact hcontext.symm.trans (hheld pair hpair active' hactive')

/-- Writing what a worker has buffered preserves the invariant, and keeps the worker registered. -/
lemma Sound.flushed (hs : h.Sound provider) {active : Active} {c : Context}
    (hw : h.Holds name w active c) :
    (h.flushed name active.batch).Sound provider ∧
      ∃ w' active', (h.flushed name active.batch).workers.get? name = some w' ∧
        w'.active = some active' := by
  unfold Harness.flushed
  split
  · exact ⟨hs, w, active, hw.worker, hw.registered⟩
  · refine ⟨hs.operate name fun c b => Context.operates_flush c b none, ?_⟩
    rw [operate_of_holds hw]
    exact ⟨_, _, get?_operated _ _ _ _ _ _ _, rfl⟩

/-- A clean-up preserves the invariant. -/
lemma Sound.cleanUpWorker (hs : h.Sound provider) (hw : h.workers.get? name = some w) :
    (h.cleanUpWorker name w).Sound provider := by
  cases hactive : w.active with
  | none =>
    rw [cleanUpWorker_of_idle hactive]
    exact hs
  | some active =>
    obtain ⟨c, hholds, -⟩ := hs.holds hw hactive
    obtain ⟨hflushed, w', active', hw', ha'⟩ := hs.flushed hholds
    obtain rfl : w.provider = provider := hs.workers (name, w) (Mapping.mem_of_get? hw)
    rw [cleanUpWorker_of_active hactive]
    exact hflushed.release hw' ha' rfl

end Harness

/-! ## Requests -/

namespace Request

/-- Whether a request uses the provider through its workers at most. -/
def usesWorkers : Request → Bool
  | acquire _ _ => false
  | release _ => false
  | select _ _ => false
  | closeContext _ => false
  | makeContext => false
  | newWorker _ _ _ => false
  | _ => true

/-- Whether a request registers a worker. -/
def registers : Request → Bool
  | init _ => true
  | enter _ => true
  | _ => false

end Request

namespace Harness

variable {h : Harness} {provider name : String} {w : Worker}

/-- What a request that uses the provider through its workers comes to. -/
inductive Kind (h : Harness) : Request → Prop
  | faults (faults : Faults) : Kind h (.setFaults faults)
  /-- The request is for a worker that is not known. -/
  | unknown {request : Request} (answer : (h.answer request).2 = h) : Kind h request
  | registration {request : Request} {name : String} {w : Worker}
    (registers : request.registers = true) (worker : h.workers.get? name = some w)
    (answer : (h.answer request).2 = (h.initWorker name w).2) : Kind h request
  | cleanUp {request : Request} {name : String} {w : Worker} (worker : h.workers.get? name = some w)
    (answer : (h.answer request).2 = h.cleanUpWorker name w) : Kind h request
  /-- The request is for an operation on the context of a worker. -/
  | operation {α : Type} {request : Request} {name : String}
    {operation : Context → Batch → StateM World (α × Context × Batch)}
    (operates : ∀ (c : Context) b, c.Operates (fun result => result.2.1) (operation c b))
    (answer : (h.answer request).2 = (h.operate name operation).2) : Kind h request

/-- An operation that leaves the batch alone. -/
lemma kind_of_operateOn {request : Request} {name : String}
    {operation : Context → StateM World (α × Context)}
    (operates : ∀ c : Context, c.Operates Prod.snd (operation c))
    (answer : (h.answer request).2 = (h.operateOn name operation).2) : Kind h request :=
  .operation (fun c _ => (operates c).andThen fun _ => .pure 0 rfl) answer

lemma kind_of_usesWorkers {request : Request} (hr : request.usesWorkers = true) :
    Kind h request := by
  cases request with
  | acquire _ _ => cases hr
  | release _ => cases hr
  | select _ _ => cases hr
  | closeContext _ => cases hr
  | makeContext => cases hr
  | newWorker _ _ _ => cases hr
  | setFaults faults => exact .faults faults
  | init name =>
    cases hw : h.workers.get? name with
    | none => exact .unknown (by simp only [answer, hw])
    | some w => exact .registration rfl hw (by simp only [answer, hw])
  | enter name =>
    cases hw : h.workers.get? name with
    | none => exact .unknown (by simp only [answer, hw])
    | some w => exact .registration rfl hw (by simp only [answer, hw])
  | cleanUp name =>
    cases hw : h.workers.get? name with
    | none => exact .unknown (by simp only [answer, hw])
    | some w => exact .cleanUp hw (by simp only [answer, hw])
  | isOpen name =>
    have operates (c : Context) : c.Operates Prod.snd (return (c.isOpen, c)) := .pure 0 rfl
    exact kind_of_operateOn operates rfl
  | insert name table key values =>
    exact .operation (fun c b => c.operates_insert b table key values) rfl
  | update name table key values =>
    exact kind_of_operateOn (fun c => c.operates_update table key values) rfl
  | read name table key fields =>
    exact kind_of_operateOn (fun c => c.operates_read table key fields) rfl
  | delete name table key => exact kind_of_operateOn (fun c => c.operates_delete table key) rfl
  | scan name table start count fields =>
    exact kind_of_operateOn (fun c => c.operates_scan table start count fields) rfl
  | flush name table => exact .operation (fun c b => c.operates_flush b table) rfl
  | verify name key cells =>
    have operates (c : Context) :
        c.Operates Prod.snd (do return (← (verifierOf c).verify key cells, c)) :=
      .bind (keeps_verify _ _ _) fun _ => .pure 0 rfl
    exact kind_of_operateOn operates rfl
  | readVerify name table key =>
    have operates (c : Context) : c.Operates Prod.snd (do
        let result ← c.read table key none
        let row := (result.1.data.getD []).mapValues Cell.bytes
        return (← (verifierOf result.2).verify key row, result.2)) :=
      (c.operates_read table key none).andThen fun _ =>
        .bind (keeps_verify _ _ _) fun _ => .pure 0 rfl
    exact kind_of_operateOn operates rfl

/-- Every request to a worker preserves the invariant. -/
lemma Sound.answer (hs : h.Sound provider) {request : Request} (hk : Kind h request) :
    (h.answer request).2.Sound provider := by
  cases hk with
  | faults faults =>
    refine ⟨hs.tidy, hs.workers, hs.registrations, hs.unused, fun number hnumber => ?_, hs.held⟩
    obtain ⟨hpos, c, hc, hready⟩ := hs.used number hnumber
    exact ⟨hpos, c, hc, hready.isOpen, hready.poolIsOpen, hready.one_le_batchSize,
      hready.connected⟩
  | unknown answer =>
    rw [answer]
    exact hs
  | registration _ worker answer =>
    rw [answer]
    exact hs.initWorker worker
  | cleanUp worker answer =>
    rw [answer]
    exact hs.cleanUpWorker worker
  | operation operates answer =>
    rw [answer]
    exact hs.operate _ operates

/-- The invariant holds after every run. -/
lemma sound_run (cluster : Cluster) (draws : Draws) (faults : Faults) (provider : String)
    (bags : Mapping Bag) {requests : List Request}
    (hrequests : ∀ request ∈ requests, request.usesWorkers = true) :
    ((start cluster draws faults provider bags).run requests).2.Sound provider := by
  refine run_induction (P := fun h => h.Sound provider) _ (fun h hs request hr => ?_)
    (sound_start cluster draws faults provider bags)
  exact (hs.answer (kind_of_usesWorkers (hrequests request hr))).noteContexts

/-! ## What callers see -/

/-- A provider counts the registered workers, has a context exactly as long as there is one, and
that context is open, and held by all of them. -/
structure Connected (h : Harness) (provider : String) : Prop where
  registrations : (h.provider provider).registrations = h.activeCount
  context_isSome : (h.provider provider).context.isSome = true ↔ 0 < h.activeCount
  isOpen : ∀ number, (h.provider provider).context = some number →
    ∃ c, h.contexts[number]? = some c ∧ c.isOpen = true ∧ c.pool.isOpen = true
  held : ∀ pair ∈ h.workers, ∀ active, pair.2.active = some active →
    (h.provider provider).context = some active.context

lemma Sound.connected (hs : h.Sound provider) : h.Connected provider := by
  refine ⟨hs.registrations, ?_, fun number hnumber => ?_, hs.held⟩
  · cases hcontext : (h.provider provider).context with
    | none => simp [hs.unused hcontext]
    | some number => simp [(hs.used number hcontext).1]
  · obtain ⟨-, c, hc, hready⟩ := hs.used number hnumber
    exact ⟨c, hc, hready.isOpen, hready.poolIsOpen⟩

/-- Every one of some calls, unless it closes a connection, goes through the client of an endpoint
of the provider's context that nothing has closed before it. -/
def AsksOpen (h : Harness) (provider : String) (issued : List Call) : Prop :=
  ∀ before call after, issued = before ++ call :: after → call.isClose = false →
    ∃ number c, (h.provider provider).context = some number ∧ h.contexts[number]? = some c ∧
      ∃ e ∈ c.pool.endpoints, call.clientAfter before = some e.client ∧
        Call.close e.client ∉ h.world.calls ++ before

lemma asksOpen_nil : h.AsksOpen provider [] := by
  intro before call after heq
  exact absurd heq (by simp)

/-- An operation of a worker asks open clients only. -/
lemma Sound.asksOpen (hs : h.Sound provider) {active : Active} {c : Context}
    (hw : h.Holds name w active c) (hready : c.Ready h.world) {issued : List Call}
    (hthrough : ThroughEndpoints c.pool.endpoints issued)
    (hclose : ∀ call ∈ issued, call.isClose = false) : h.AsksOpen provider issued := by
  intro before call after heq _
  obtain ⟨e, he, hclient⟩ := hthrough before call after heq
  refine ⟨active.context, c, hs.held _ (Mapping.mem_of_get? hw.worker) active hw.registered,
    hw.context, e, he, hclient, fun hmem => ?_⟩
  rcases List.mem_append.mp hmem with hmem | hmem
  · exact (hready.connected e he).2 hmem
  · have := hclose _ (heq ▸ List.mem_append_left _ hmem)
    simp [Call.isClose] at this

/-- Calls that close connections may follow. -/
lemma AsksOpen.append {issued closes : List Call} (ha : h.AsksOpen provider issued)
    (hc : ∀ call ∈ closes, call.isClose = true) : h.AsksOpen provider (issued ++ closes) := by
  intro before call after heq hcall
  rcases List.append_eq_append_iff.mp heq with ⟨rest, hb, hs⟩ | ⟨rest, hf, hs⟩
  · have := hc call (hs ▸ List.mem_append_right _ List.mem_cons_self)
    rw [hcall] at this
    cases this
  · cases rest with
    | nil =>
      have hmem : call ∈ [] ++ closes := hs ▸ List.mem_cons_self
      have := hc call hmem
      rw [hcall] at this
      cases this
    | cons first rest =>
      obtain ⟨rfl, -⟩ : call = first ∧ _ := by simpa using hs
      exact ha before call rest hf hcall

lemma Sound.operate_asksOpen (hs : h.Sound provider) (name : String)
    {operation : Context → Batch → StateM World (α × Context × Batch)}
    (ho : ∀ (c : Context) b, c.Operates (fun result => result.2.1) (operation c b)) :
    ∃ issued, (h.operate name operation).2.world.calls = h.world.calls ++ issued ∧
      h.AsksOpen provider issued := by
  by_cases hw : ∃ w active c, h.Holds name w active c
  · obtain ⟨w, active, c, hw⟩ := hw
    obtain ⟨c', hw', hready⟩ := hs.holds hw.worker hw.registered
    obtain rfl : c = c' := Option.some.inj (hw.context.symm.trans hw'.context)
    obtain ⟨issued, hissued, hthrough, hclose⟩ := ((ho c active.batch).visits h.world).calls
    rw [operate_of_holds hw]
    exact ⟨issued, hissued, hs.asksOpen hw hready hthrough hclose⟩
  · have hnone : ∀ w active c, ¬ h.Holds name w active c :=
      fun w active c hw' => hw ⟨w, active, c, hw'⟩
    rw [operate_of_not_holds hnone]
    exact ⟨[], (List.append_nil _).symm, asksOpen_nil⟩

lemma Sound.cleanUp_asksOpen (hs : h.Sound provider) (name : String) (w : Worker) :
    ∃ issued, (h.cleanUpWorker name w).world.calls = h.world.calls ++ issued ∧
      h.AsksOpen provider issued := by
  cases hactive : w.active with
  | none =>
    rw [cleanUpWorker_of_idle hactive]
    exact ⟨[], (List.append_nil _).symm, asksOpen_nil⟩
  | some active =>
    obtain ⟨issued, hissued, hasks⟩ : ∃ issued,
        (h.flushed name active.batch).world.calls = h.world.calls ++ issued ∧
          h.AsksOpen provider issued := by
      unfold Harness.flushed
      split
      · exact ⟨[], (List.append_nil _).symm, asksOpen_nil⟩
      · exact hs.operate_asksOpen name fun c b => Context.operates_flush c b none
    obtain ⟨closes, hcloses, hclose⟩ :=
      (closes_release ((h.flushed name active.batch).retired name w) w.provider).calls
    rw [cleanUpWorker_of_active hactive]
    refine ⟨issued ++ closes, ?_, hasks.append hclose⟩
    rw [hcloses, ← List.append_assoc, ← hissued]
    rfl

/-- What a request other than a registration asks of the store, it asks through open clients of the
shared context. -/
lemma Sound.answer_asksOpen (hs : h.Sound provider) {request : Request} (hk : Kind h request)
    (hr : request.registers = false) :
    ∃ issued, (h.answer request).2.world.calls = h.world.calls ++ issued ∧
      h.AsksOpen provider issued := by
  cases hk with
  | faults faults => exact ⟨[], (List.append_nil _).symm, asksOpen_nil⟩
  | unknown answer =>
    rw [answer]
    exact ⟨[], (List.append_nil _).symm, asksOpen_nil⟩
  | registration registers => exact absurd (registers.symm.trans hr) (by decide)
  | cleanUp _ answer =>
    rw [answer]
    exact hs.cleanUp_asksOpen _ _
  | operation operates answer =>
    rw [answer]
    exact hs.operate_asksOpen _ operates

/-- Whatever the workers of a provider do, and whatever faults the deployment shows: after every run
the provider counts the registered workers, has an open context exactly as long as there is one, and
every one of them holds that context; and whatever the next operation or clean-up asks of the store,
it asks through a client of the shared context that has not been closed. -/
theorem workers_share_open_context (cluster : Cluster) (draws : Draws) (faults : Faults)
    (provider : String) (bags : Mapping Bag) {requests : List Request}
    (hrequests : ∀ request ∈ requests, request.usesWorkers = true) :
    ((start cluster draws faults provider bags).run requests).2.Connected provider ∧
      ∀ request, request.usesWorkers = true → request.registers = false →
        ∃ issued,
          (((start cluster draws faults provider bags).run requests).2.step
            request).2.world.calls =
            ((start cluster draws faults provider bags).run requests).2.world.calls ++ issued ∧
          ((start cluster draws faults provider bags).run requests).2.AsksOpen provider issued := by
  have hs := sound_run cluster draws faults provider bags hrequests
  exact ⟨hs.connected, fun request hr hregisters =>
    hs.answer_asksOpen (kind_of_usesWorkers hr) hregisters⟩

/-- Two workers register, one of them inserts, and the other is cleaned up. -/
def oneOfTwo : Harness :=
  ((start {} {} [] "p" [("a", []), ("b", [])]).run
    [.init "a", .init "b", .insert "a" "t" "k" [], .cleanUp "b"]).2

/-- One worker is left, and reads through an open client. -/
theorem workers_share_open_context_oneOfTwo :
    oneOfTwo.activeCount = 1 ∧ oneOfTwo.Connected "p" ∧
      ∃ issued, (oneOfTwo.step (.read "a" "t" "k" none)).2.world.calls =
        oneOfTwo.world.calls ++ issued ∧ oneOfTwo.AsksOpen "p" issued := by
  have hrequests : ∀ request ∈ [Request.init "a", .init "b", .insert "a" "t" "k" [], .cleanUp "b"],
      request.usesWorkers = true := by simp [Request.usesWorkers]
  have h := workers_share_open_context {} {} [] "p" [("a", []), ("b", [])] hrequests
  unfold oneOfTwo
  exact ⟨by decide +kernel, h.1, h.2 (.read "a" "t" "k" none) rfl rfl⟩

end Harness

end LoadBinding
