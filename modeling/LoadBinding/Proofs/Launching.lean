import LoadBinding.Proofs.Opening
import LoadBinding.Proofs.Preparing
import LoadBinding.Proofs.Stepping

/-!
# Launching workers

A run of workers begins with the registration of each of them.  When all registrations succeed, the
harness is `Launched`: there is one context, made from the property bag of the first worker, and
every worker holds it with an empty batch.
-/

namespace LoadBinding

open LoadBinding.Action World

namespace Harness

variable {h : Harness} {provider : String}

/-- A worker with a property bag, before its registration. -/
def idleWorker (provider : String) (bag : Bag) : Worker :=
  { bag := bag, provider := provider }

/-- A worker with a property bag that holds a context, with an empty batch. -/
def freshWorker (provider : String) (c : Context) (bag : Bag) : Worker :=
  { bag := bag, provider := provider, active := some ⟨0, { size := c.settings.batchSize }⟩ }

/-- All workers of a provider have been registered, one after the other, and nothing else has
happened. -/
structure Launched (cluster : Cluster) (draws : Draws) (faults : Faults) (provider : String)
    (bags : Mapping Bag) (h : Harness) : Prop where
  nodup : bags.keys.Nodup
  run : (start cluster draws faults provider bags).run (bags.keys.map Request.init) =
    (bags.map fun _ => .ok .done, h)

/-- The workers of a provider share one context, and none of them has buffered anything. -/
structure Shares (h : Harness) (provider : String) (bags : Mapping Bag) (c : Context) : Prop where
  contexts : h.contexts = [c]
  provider_eq : h.provider provider = ⟨bags.length, some 0⟩
  workers : h.workers = bags.mapValues (freshWorker provider c)

lemma answer_init {name : String} {w : Worker} (hw : h.workers.get? name = some w) :
    h.answer (.init name) =
      ((h.initWorker name w).1.map fun _ => .done, (h.initWorker name w).2) := by
  simp only [answer, hw]

/-- Registering a worker while there is a context. -/
lemma step_init_of_context {name : String} {bag : Bag} {count : ℕ} {c : Context}
    (hw : h.workers.get? name = some (idleWorker provider bag)) (hc : h.contexts = [c])
    (hp : h.provider provider = ⟨count, some 0⟩) (hsize : 1 ≤ c.settings.batchSize) :
    (h.step (.init name)).2 =
      ((h.setProvider provider ⟨count + 1, some 0⟩).registered name (idleWorker provider bag) 0
        c).noteContexts := by
  have hcontext : (h.provider provider).context = some 0 := congrArg Provider.context hp
  have hacquire := acquire_of_context hcontext bag
  rw [hp] at hacquire
  have hget : (h.setProvider provider ⟨count + 1, some 0⟩).contexts[0]? = some c := by
    rw [contexts_setProvider, hc]
    rfl
  have hinit : h.initWorker name (idleWorker provider bag) = _ :=
    initWorker_of_ok rfl hacquire hget hsize
  unfold step
  rw [answer_init hw, hinit]

/-- Registering the remaining workers. -/
lemma run_init {done : Mapping Worker} {rest : Mapping Bag} {count : ℕ} {c : Context}
    (hnodup : (Mapping.keys done ++ rest.keys).Nodup) (hc : h.contexts = [c])
    (hp : h.provider provider = ⟨count, some 0⟩) (hsize : 1 ≤ c.settings.batchSize)
    (hw : h.workers = done ++ rest.mapValues (idleWorker provider)) :
    (h.run (rest.keys.map Request.init)).2.contexts = [c] ∧
      (h.run (rest.keys.map Request.init)).2.provider provider = ⟨count + rest.length, some 0⟩ ∧
      (h.run (rest.keys.map Request.init)).2.workers =
        done ++ rest.mapValues (freshWorker provider c) ∧
      (h.run (rest.keys.map Request.init)).2.world = h.world := by
  induction rest generalizing h done count with
  | nil => exact ⟨hc, hp, hw, rfl⟩
  | cons pair rest ih =>
    obtain ⟨name, bag⟩ := pair
    have hname : name ∉ Mapping.keys done := by
      intro hmem
      exact (List.nodup_append.mp hnodup).2.2 name hmem name List.mem_cons_self rfl
    have hget : h.workers.get? name = some (idleWorker provider bag) := by
      rw [hw, Mapping.get?_append_of_not_mem hname]
      exact (Mapping.get?_cons _ _ _ _).trans (if_pos (beq_self_eq_true name))
    have hstep := step_init_of_context hget hc hp hsize
    have hworkers : (h.step (.init name)).2.workers =
        (done ++ [(name, freshWorker provider c bag)]) ++
          Mapping.mapValues (idleWorker provider) rest := by
      rw [hstep, workers_noteContexts]
      change h.workers.set name _ = _
      rw [hw, Mapping.set_append_of_not_mem hname, List.append_assoc]
      exact congrArg (done ++ ·) (if_pos (beq_self_eq_true name))
    have hnodup' : (Mapping.keys (done ++ [(name, freshWorker provider c bag)]) ++
        Mapping.keys rest).Nodup := by
      simpa [Mapping.keys] using hnodup
    have hcontexts : (h.step (.init name)).2.contexts = [c] := by
      rw [hstep]
      exact hc
    have hprovider : (h.step (.init name)).2.provider provider = ⟨count + 1, some 0⟩ := by
      rw [hstep, provider_noteContexts]
      exact provider_setProvider _ _ _
    have hworld : (h.step (.init name)).2.world = h.world := by
      rw [hstep]
      rfl
    obtain ⟨h₁, h₂, h₃, h₄⟩ := ih hnodup' hcontexts hprovider hworkers
    refine ⟨h₁, h₂.trans ?_, h₃.trans ?_, h₄.trans hworld⟩
    · rw [List.length_cons, Nat.add_assoc, Nat.add_comm 1]
    · rw [List.append_assoc]
      rfl

/-- The harness in which the first worker of a provider has made a context. -/
lemma step_init_of_ok {name : String} {bag : Bag} {c : Context} {world : World}
    (hw : h.workers.get? name = some (idleWorker provider bag))
    (hnone : h.provider provider = {}) (hc : h.contexts = [])
    (hmade : exec (Context.create bag) h.world = (.ok c, world))
    (hsize : 1 ≤ c.settings.batchSize) :
    (h.step (.init name)).2 =
      (({ h with world := world, contexts := [c] }.setProvider provider ⟨1, some 0⟩).registered name
        (idleWorker provider bag) 0 c).noteContexts := by
  have hcontext : (h.provider provider).context = none := congrArg Provider.context hnone
  have hacquire := acquire_of_ok hcontext hmade
  rw [hnone, hc] at hacquire
  have hinit : h.initWorker name (idleWorker provider bag) = _ :=
    initWorker_of_ok rfl hacquire rfl hsize
  unfold step
  rw [answer_init hw, hinit]
  rfl

/-- The first registration succeeds only if a context can be made. -/
lemma exists_create_of_step_init {name : String} {bag : Bag} {answer : Answer}
    (hw : h.workers.get? name = some (idleWorker provider bag))
    (hnone : h.provider provider = {}) (ha : (h.step (.init name)).1 = .ok answer) :
    ∃ c world, exec (Context.create bag) h.world = (.ok c, world) := by
  have hcontext : (h.provider provider).context = none := congrArg Provider.context hnone
  cases hmade : exec (Context.create bag) h.world with
  | mk r world =>
    cases r with
    | ok c => exact ⟨c, world, rfl⟩
    | error e =>
      have hinit : h.initWorker name (idleWorker provider bag) = _ :=
        initWorker_of_error rfl (acquire_of_error hcontext hmade)
      unfold step at ha
      rw [answer_init hw, hinit] at ha
      cases ha

/-- In the beginning nothing has been closed. -/
lemma tidy_start (cluster : Cluster) (draws : Draws) (faults : Faults) :
    ({ cluster := cluster, draws := draws, faults := faults } : World).Tidy :=
  fun _ hc => absurd hc List.not_mem_nil

/-- The workers that were launched share the context made from the first property bag, and nothing
has happened to the world but its creation. -/
theorem Launched.shares {cluster : Cluster} {draws : Draws} {faults : Faults} {first : String}
    {bag : Bag} {others : Mapping Bag}
    (hl : Launched cluster draws faults provider ((first, bag) :: others) h) :
    ∃ c, h.Shares provider ((first, bag) :: others) c ∧
      exec (Context.create bag) { cluster := cluster, draws := draws, faults := faults } =
        (.ok c, h.world) := by
  have hget : (start cluster draws faults provider ((first, bag) :: others)).workers.get? first =
      some (idleWorker provider bag) :=
    (Mapping.get?_cons _ _ _ _).trans (if_pos (beq_self_eq_true first))
  have hrun := hl.run
  rw [show Mapping.keys ((first, bag) :: others) = first :: Mapping.keys others from rfl,
    List.map_cons, run_cons, List.map_cons, Prod.mk.injEq, List.cons.injEq] at hrun
  obtain ⟨⟨hfirst, -⟩, hrest⟩ := hrun
  obtain ⟨c, world, hmade⟩ := exists_create_of_step_init hget rfl hfirst
  have hopened := opened_of_create (tidy_start cluster draws faults) hmade
  have hsize := Settings.one_le_batchSize hopened.settings
  have hstep := step_init_of_ok hget rfl rfl hmade hsize
  rw [hstep] at hrest
  set h₁ := (({ start cluster draws faults provider ((first, bag) :: others) with
    world := world, contexts := [c] }.setProvider provider ⟨1, some 0⟩).registered first
      (idleWorker provider bag) 0 c).noteContexts
  have hworkers : h₁.workers = [(first, freshWorker provider c bag)] ++
      others.mapValues (idleWorker provider) := if_pos (beq_self_eq_true first)
  have hprovider : h₁.provider provider = ⟨1, some 0⟩ := provider_setProvider _ _ _
  have hworld : h₁.world = world := rfl
  have hnodup : (Mapping.keys [(first, freshWorker provider c bag)] ++ others.keys).Nodup :=
    hl.nodup
  obtain ⟨hc, hp, hw, hsame⟩ := run_init hnodup rfl hprovider hsize hworkers
  rw [hrest] at hc hp hw hsame
  refine ⟨c, ⟨hc, ?_, hw⟩, ?_⟩
  · rw [hp, List.length_cons, Nat.add_comm]
  · rw [hsame]
    exact hmade

/-- The context of launched workers is as it was opened. -/
lemma Launched.shares_opened {cluster : Cluster} {draws : Draws} {faults : Faults} {first : String}
    {bag : Bag} {others : Mapping Bag}
    (hl : Launched cluster draws faults provider ((first, bag) :: others) h) :
    ∃ c, h.Shares provider ((first, bag) :: others) c ∧ c.Opened bag h.world := by
  obtain ⟨c, hshares, hmade⟩ := hl.shares
  exact ⟨c, hshares, opened_of_create (tidy_start cluster draws faults) hmade⟩

/-- Launching workers takes no draws and no update markers, and leaves the faults as they are. -/
lemma Launched.opens {cluster : Cluster} {draws : Draws} {faults : Faults} {first : String}
    {bag : Bag} {others : Mapping Bag}
    (hl : Launched cluster draws faults provider ((first, bag) :: others) h) :
    Opens 0 { cluster := cluster, draws := draws, faults := faults } h.world := by
  obtain ⟨c, -, hmade⟩ := hl.shares
  have hopens := rel_of_exec (opens_create bag (tidy_start cluster draws faults)) hmade
  exact hopens.mono (Nat.zero_le _)

/-- A registration that succeeds answers that it is done. -/
lemma eq_done_of_step_init {name : String} (ha : (h.step (.init name)).1.isOk = true) :
    (h.step (.init name)).1 = .ok .done := by
  cases hw : h.workers.get? name with
  | none =>
    have hanswer : (h.step (.init name)).1 = .error .workerInactive := by
      unfold step answer
      simp only [hw]
    rw [hanswer] at ha
    cases ha
  | some w =>
    have hanswer : (h.step (.init name)).1 = (h.initWorker name w).1.map fun _ => .done :=
      congrArg Prod.fst (answer_init hw)
    rw [hanswer] at ha ⊢
    cases hinit : (h.initWorker name w).1 with
    | error e =>
      rw [hinit] at ha
      cases ha
    | ok _ => rfl

/-- Workers are launched when none of their registrations fails. -/
lemma launched_of_isOk {cluster : Cluster} {draws : Draws} {faults : Faults} {bags : Mapping Bag}
    (hnodup : bags.keys.Nodup)
    (ha : ((start cluster draws faults provider bags).run
      (bags.keys.map Request.init)).1.all Except.isOk = true) :
    Launched cluster draws faults provider bags
      ((start cluster draws faults provider bags).run (bags.keys.map Request.init)).2 := by
  have answers : ∀ (names : List String) (h : Harness),
      (h.run (names.map Request.init)).1.all Except.isOk = true →
      (h.run (names.map Request.init)).1 = names.map fun _ => .ok .done := by
    intro names
    induction names with
    | nil => exact fun _ _ => rfl
    | cons name rest ih =>
      intro h ha
      rw [List.map_cons, run_cons, List.all_cons, Bool.and_eq_true] at ha
      rw [List.map_cons, run_cons, eq_done_of_step_init ha.1, ih _ ha.2, List.map_cons]
  refine ⟨hnodup, Prod.ext ?_ rfl⟩
  rw [answers _ _ ha]
  exact List.map_map

/-- Every worker that was launched holds the context. -/
lemma Shares.holds {bags : Mapping Bag} {c : Context} (hs : h.Shares provider bags c)
    {name : String} (hname : name ∈ bags.keys) :
    ∃ bag, h.Holds name (freshWorker provider c bag) ⟨0, { size := c.settings.batchSize }⟩ c := by
  obtain ⟨bag, hbag⟩ := Mapping.exists_get?_of_mem_keys hname
  refine ⟨bag, ?_, rfl, by rw [hs.contexts]; rfl⟩
  rw [hs.workers, Mapping.get?_mapValues, hbag]
  rfl

end Harness

/-- A context that was opened works under its settings. -/
lemma Context.Opened.serves {bag : Bag} {w : World} {c : Context} (h : c.Opened bag w) :
    c.Serves c.settings :=
  ⟨rfl, h.generators, h.endpoints_ne_nil⟩

/-! ## The size of a batch -/

/-- Opening a pool does not depend on the size of a batch. -/
lemma openFrom_withBatchSize (s : Settings) (size : ℤ)
    (encryption : Option (String → Action Value)) (opened : List Endpoint)
    (servers : List String) :
    Pool.openFrom { s with batchSize := size } encryption opened servers =
      Pool.openFrom s encryption opened servers := by
  induction servers generalizing opened with
  | nil => rfl
  | cons server rest ih =>
    unfold Pool.openFrom
    refine bind_congr fun made => ?_
    cases made with
    | ok endpoint => exact ih _
    | error e => rfl

lemma openPool_withBatchSize (s : Settings) (size : ℤ) :
    Context.openPool { s with batchSize := size } = Context.openPool s := by
  have hcreate : Pool.create { s with batchSize := size }
      (Context.encryption { s with batchSize := size }) =
        Pool.create s (Context.encryption s) := by
    unfold Pool.create
    rw [openFrom_withBatchSize]
    rfl
  unfold Context.openPool
  rw [hcreate]

/-- Contexts from bags that differ in the size of a batch leave the same world behind. -/
lemma world_create_of_agree {bag bag' : Bag}
    (h : Settings.AgreeBut "batchsize" "batch_size" bag bag') {c c' : Context} {w w₁ w₁' : World}
    (hw : w.Tidy) (hc : exec (Context.create bag) w = (.ok c, w₁))
    (hc' : exec (Context.create bag') w = (.ok c', w₁')) :
    w₁' = w₁ ∧ c'.settings = { c.settings with batchSize := c'.settings.batchSize } := by
  have hs := (opened_of_create hw hc).settings
  have hs' := (opened_of_create hw hc').settings
  obtain ⟨hsettings, hentries⟩ := Settings.resolve_of_agree h hs hs'
  refine ⟨?_, hsettings⟩
  rw [exec_create_of_resolve hs] at hc
  rw [exec_create_of_resolve hs', ← hentries, hsettings, openPool_withBatchSize] at hc'
  rw [exec_bind] at hc hc'
  cases hpool : exec (Context.openPool c.settings)
      { w with entries := w.entries ++ (Settings.resolve bag).2 } with
  | mk r w₂ =>
    rw [hpool] at hc hc'
    cases r with
    | error e => cases hc
    | ok p => exact (congrArg Prod.snd hc').symm.trans (congrArg Prod.snd hc)

end LoadBinding
