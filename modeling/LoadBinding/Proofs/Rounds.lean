import LoadBinding.Proofs.Lifecycle
import LoadBinding.Proofs.Masking
import LoadBinding.Proofs.PoolClients
import LoadBinding.Proofs.Selecting

/-!
# Going round the endpoints

A context begins with the pool that its settings list, each endpoint with a client of its own, and
without a selection (`arranged_of_create`).  From then on its workers make selections in any order,
and others come and go.  `Harness.Uses` says what one request may do to the context: it makes some
selections, ends the context, or begins another one.  So as long as a context is used, the
selections of all its workers together go round its endpoints one by one
(`Harness.selections_in_turn`).
-/

namespace LoadBinding

open LoadBinding.Text LoadBinding.Action World Call

variable {α : Type}

/-! ## The pool of a context -/

/-- The pool of a context is arranged as its settings list the endpoints, each with a client of its
own. -/
structure Context.Arranged (c : Context) : Prop where
  endpoints : List.Forall₂ (fun server e => Endpoint.OpenedAt c.settings server e)
    c.settings.endpoints c.pool.endpoints
  clients : (c.pool.endpoints.map Endpoint.client).Nodup
  nonempty : c.pool.endpoints ≠ []

/-- A context that was created is arranged, and no selection has been made from it. -/
lemma arranged_of_create {bag : Bag} {w w' : World} {c : Context} (hw : w.Tidy)
    (h : exec (Context.create bag) w = (.ok c, w')) : c.Arranged ∧ c.pool.selections = 0 := by
  have hopened := opened_of_create hw h
  have hne := hopened.endpoints_ne_nil
  obtain ⟨_, htrades, -⟩ := trades_create_of_ok h
  rw [exec_create_of_resolve hopened.settings] at h
  obtain ⟨p, w₁, hopen, hannounce⟩ := exec_bind_eq_ok h
  obtain ⟨hendpoints, hpool⟩ := pool_of_openPool hopen
  have hannounced : Except.ok (ε := Failure) (⟨c.settings, p,
      Discrete.forFields c.settings.cardinalities, true⟩ : Context) = .ok c :=
    congrArg Prod.fst hannounce
  have hc : c.pool = p := (congrArg Context.pool (Except.ok.inj hannounced)).symm
  obtain ⟨made, hmade, hopenedAt⟩ := openedAt_of_openFrom hendpoints
  rw [List.nil_append] at hmade
  rw [← hmade] at hopenedAt
  rw [← hc] at hopenedAt hpool
  exact ⟨⟨hopenedAt, htrades.nodup, hne⟩, congrArg Pool.selections hpool⟩

/-- Some look-ups go round the endpoints of a context: the one made after `k` others asks the
endpoint of the URL that stands in place `k` of the settings when these are read over and over. -/
structure Context.GoesRound (c : Context) (targets : List Target) : Prop where
  endpoints : List.Forall₂ (fun server e => Endpoint.OpenedAt c.settings server e)
    c.settings.endpoints c.pool.endpoints
  selected : ∃ e, c.selected = some e
  selections : targets.length = c.pool.selections
  turn : ∀ k t, targets[k]? = some t →
    ∃ e, c.pool.endpoints[k % c.settings.endpoints.length]? = some e ∧ t.client = e.client
  even : ∀ e ∈ c.pool.endpoints, ∀ e' ∈ c.pool.endpoints,
    (targets.map Target.client).count e.client ≤ (targets.map Target.client).count e'.client + 1

/-- Selections made from a new context go round its endpoints. -/
lemma Context.Arranged.goesRound {c : Context} (h : c.Arranged) (hzero : c.pool.selections = 0)
    (names : List String) : (c.advance names.length).GoesRound (c.inTurn names) := by
  have hpos : 0 < c.pool.endpoints.length := List.length_pos_iff.mpr h.nonempty
  have hlength : c.settings.endpoints.length = c.pool.endpoints.length := h.endpoints.length_eq
  refine ⟨h.endpoints, exists_selected h.nonempty, ?_, fun k t ht => ?_, fun e he e' he' => ?_⟩
  · change (c.inTurn names).length = c.pool.selections + names.length
    rw [length_inTurn h.nonempty, hzero, Nat.zero_add]
  · have hturn := exists_getElem?_inTurn h.nonempty ht
    rw [hzero, Nat.zero_add, ← hlength] at hturn
    exact hturn
  · -- The number of an endpoint is counted once in each full round, and at most once more.
    have hcount : ∀ e ∈ c.pool.endpoints,
        names.length / c.pool.endpoints.length ≤
            ((c.inTurn names).map Target.client).count e.client ∧
          ((c.inTurn names).map Target.client).count e.client ≤
            names.length / c.pool.endpoints.length + 1 := by
      intro e he
      obtain ⟨i, hi⟩ := List.mem_iff_getElem?.mp he
      have hilt : i < c.pool.endpoints.length := (List.getElem?_eq_some_iff.mp hi).1
      have hmod : (fun k => (c.pool.selections + k) % c.pool.endpoints.length = i) =
          fun k => k ≡ i [MOD c.pool.endpoints.length] := by
        funext k
        rw [hzero, Nat.zero_add, Nat.ModEq, Nat.mod_eq_of_lt hilt]
      rw [count_inTurn h.clients hi]
      simp only [hmod]
      rw [Nat.count_modEq_card _ hpos]
      split <;> omega
    exact (hcount e he).2.trans (Nat.add_le_add_right (hcount e' he').1 1)

namespace Harness

variable {h : Harness} {provider name : String} {w : Worker} {active : Active} {c : Context}
  {request : Request} {number : ℕ}

/-! ### What a step does to the shared context -/

/-- What one request of the workers of a provider does to its context. -/
inductive Uses (h : Harness) (provider : String) (h' : Harness) : Prop
  /-- The context, if there is one, stays, and may make selections. -/
  | stays (context : (h'.provider provider).context = (h.provider provider).context)
    (length : h.contexts.length ≤ h'.contexts.length)
    (selects : ∀ number c, (h.provider provider).context = some number →
      h.contexts[number]? = some c → ∃ tables : List String,
        h'.contexts[number]? = some (c.advance tables.length) ∧
          Selects (c.inTurn tables) h.world h'.world)
  /-- The provider has no context any more, or has none still. -/
  | ends (context : (h'.provider provider).context = none)
    (length : h.contexts.length ≤ h'.contexts.length)
  /-- A worker has made a new context. -/
  | begins {name : String} {w : Worker} {c : Context}
    (context : (h.provider provider).context = none) (worker : h.workers.get? name = some w)
    (made : exec (Context.create w.bag) h.world = (.ok c, h'.world))
    (contexts : h'.contexts = h.contexts ++ [c])
    (registered : (h'.provider provider).context = some h.contexts.length)

/-- A request that leaves the contexts alone and makes no look-up. -/
lemma Uses.of_same {h' : Harness}
    (hp : (h'.provider provider).context = (h.provider provider).context)
    (hc : h'.contexts = h.contexts) (hw : Selects [] h.world h'.world) : Uses h provider h' := by
  refine .stays hp (by rw [hc]) fun number c _ hget => ⟨[], ?_, hw⟩
  rw [hc]
  exact hget

/-- The tables that a registered worker selects endpoints for. -/
lemma Holds.takes_operation {op : Operation Answer}
    (hop : request.operation? = some (name, op)) (hw : h.Holds name w active c) :
    ∃ tables : List String, tables.Nodup ∧
      (∀ table, table ∈ tables ↔ request.Touches active.batch table) ∧
      Selects (c.inTurn tables) h.world (h.step request).2.world ∧
      (h.step request).2.contexts = h.contexts.set active.context (c.advance tables.length) := by
  obtain ⟨tables, hnodup, htouches, htakes⟩ := Request.takesEach_operation hop c active.batch
  have hstep := congrArg Prod.snd (step_of_operation hop hw)
  have hcontext := htakes.advances h.world
  refine ⟨tables, hnodup, htouches, ?_, ?_⟩
  · rw [hstep]
    exact htakes.selects h.world
  · rw [hstep, ← hcontext]
    rfl

/-- Before a worker gives its context back it selects an endpoint for each table with a buffer. -/
lemma Holds.takes_flushed (hw : h.Holds name w active c) :
    ∃ tables : List String, tables.Nodup ∧
      (∀ table, table ∈ tables ↔ active.batch.buffer table ≠ []) ∧
      Selects (c.inTurn tables) h.world (h.flushed name active.batch).world ∧
      (h.flushed name active.batch).contexts =
        h.contexts.set active.context (c.advance tables.length) := by
  have htakes := c.takes_flush active.batch none
  refine ⟨_, active.batch.nodup_drain none, fun table => ?_, ?_, ?_⟩
  · rw [active.batch.mem_drained, Batch.selected, if_pos (.inl rfl)]
  · rw [world_flushed hw]
    exact htakes.selects h.world
  · unfold Harness.flushed
    split
    · rename_i hcount
      obtain ⟨hlt, rfl⟩ := List.getElem?_eq_some_iff.mp hw.context
      rw [active.batch.drain_of_count_eq_zero none (by simpa using hcount)]
      exact (List.set_getElem_self hlt).symm
    · rw [operate_of_holds hw]
      exact congrArg (h.contexts.set active.context) (htakes.advances h.world)

/-- Taking back a registration leaves the context and its selections alone, unless it ends it. -/
lemma release_cases (h : Harness) (name : String) :
    ((h.release name).provider name).context = none ∨
      ((h.release name).provider name).context = (h.provider name).context ∧
        (h.release name).contexts = h.contexts := by
  unfold release
  dsimp only
  split
  · exact .inr ⟨congrArg Provider.context (provider_setProvider h name _), rfl⟩
  · split
    · split
      · exact .inl (congrArg Provider.context (provider_setProvider h name _))
      · exact .inl (congrArg Provider.context (provider_setProvider _ name _))
    · exact .inr ⟨(congrArg Provider.context (provider_setProvider h name _)).trans rfl, rfl⟩

/-- Registering a worker leaves its context alone or makes a new one. -/
lemma uses_initWorker (hw : h.workers.get? name = some w) (hp : w.provider = provider) :
    Uses h provider (h.initWorker name w).2 := by
  subst hp
  -- What becomes of the workers does not matter here.
  have hacquire : (h.initWorker name w).2 = h ∨ ∃ workers,
      (h.initWorker name w).2 = { (h.acquire w.provider w.bag).2 with workers := workers } := by
    unfold initWorker
    cases w.active with
    | some _ => exact .inl rfl
    | none =>
      dsimp only
      cases h.acquire w.provider w.bag with
      | mk r h' =>
        cases r with
        | error e => exact .inr ⟨h'.workers, rfl⟩
        | ok number =>
          dsimp only
          split
          · exact .inr ⟨h'.workers, rfl⟩
          · exact .inr ⟨_, rfl⟩
  rcases hacquire with hsame | ⟨workers, hacquired⟩
  · rw [hsame]
    exact .of_same rfl rfl (selects_of_silent rfl)
  rw [hacquired]
  cases hcontext : (h.provider w.provider).context with
  | some number =>
    rw [acquire_of_context hcontext]
    refine .of_same ?_ rfl (selects_of_silent rfl)
    exact (congrArg Provider.context (provider_setProvider h w.provider _)).trans hcontext.symm
  | none =>
    cases hmade : exec (Context.create w.bag) h.world with
    | mk r world =>
      cases r with
      | error e =>
        rw [acquire_of_error hcontext hmade]
        refine .ends ?_ le_rfl
        exact (congrArg Provider.context (provider_setProvider _ w.provider _)).trans hcontext
      | ok c =>
        rw [acquire_of_ok hcontext hmade]
        refine .begins hcontext hw hmade rfl ?_
        exact congrArg Provider.context (provider_setProvider _ w.provider _)

/-- An operation makes its selections from the context that its worker holds. -/
lemma Sound.uses_operation (hs : h.Sound provider) {op : Operation Answer}
    (hop : request.operation? = some (name, op)) : Uses h provider (h.step request).2 := by
  by_cases hw : ∃ w active c, h.Holds name w active c
  · obtain ⟨w, active, c, hw⟩ := hw
    have hheld := hs.held _ (Mapping.mem_of_get? hw.worker) active hw.registered
    obtain ⟨tables, -, -, hselects, hcontexts⟩ := hw.takes_operation hop
    have hprovider : (h.step request).2.provider provider = h.provider provider := by
      rw [step_of_operation hop hw]
      rfl
    refine .stays (congrArg Provider.context hprovider) ?_ fun number d hnumber hd => ?_
    · rw [hcontexts, List.length_set]
    · obtain rfl : active.context = number := Option.some.inj (hheld.symm.trans hnumber)
      obtain rfl : c = d := Option.some.inj (hw.context.symm.trans hd)
      refine ⟨tables, ?_, hselects⟩
      rw [hcontexts]
      exact List.getElem?_set_self (List.getElem?_eq_some_iff.mp hd).1
  · have hnone : ∀ w active c, ¬ h.Holds name w active c :=
      fun w active c hw' => hw ⟨w, active, c, hw'⟩
    rw [step_of_not_holds hop hnone]
    exact .of_same rfl rfl (selects_of_silent rfl)

/-- A clean-up makes its selections before the registration is taken back. -/
lemma Sound.uses_cleanUpWorker (hs : h.Sound provider) (hw : h.workers.get? name = some w) :
    Uses h provider (h.cleanUpWorker name w) := by
  obtain rfl : w.provider = provider := hs.workers (name, w) (Mapping.mem_of_get? hw)
  cases hactive : w.active with
  | none =>
    rw [cleanUpWorker_of_idle hactive]
    exact .of_same rfl rfl (selects_of_silent rfl)
  | some active =>
    obtain ⟨c, hholds, -⟩ := hs.holds hw hactive
    have hheld := hs.held _ (Mapping.mem_of_get? hw) active hactive
    obtain ⟨tables, -, -, hselects, hcontexts⟩ := hholds.takes_flushed
    have hprovider : ((h.flushed name active.batch).retired name w).provider w.provider =
        h.provider w.provider := by
      unfold Harness.flushed
      split
      · rfl
      · rw [operate_of_holds hholds]
        rfl
    rw [cleanUpWorker_of_active hactive]
    set h' := (h.flushed name active.batch).retired name w
    have hcontexts' : h'.contexts = h.contexts.set active.context (c.advance tables.length) :=
      hcontexts
    have hreleased := (h'.closes_release w.provider).selects
    have hlength : h.contexts.length ≤ (h'.release w.provider).contexts.length := by
      rcases contexts_release h' w.provider with hsame | ⟨number, d, -, hset⟩
      · rw [hsame, hcontexts', List.length_set]
      · rw [hset, List.length_set, hcontexts', List.length_set]
    rcases release_cases h' w.provider with hnone | ⟨hcontext, hsame⟩
    · exact .ends hnone hlength
    · refine .stays (hcontext.trans (congrArg Provider.context hprovider)) hlength
        fun number d hnumber hd => ?_
      obtain rfl : active.context = number := Option.some.inj (hheld.symm.trans hnumber)
      obtain rfl : c = d := Option.some.inj (hholds.context.symm.trans hd)
      refine ⟨tables, ?_, ?_⟩
      · rw [hsame, hcontexts']
        exact List.getElem?_set_self (List.getElem?_eq_some_iff.mp hd).1
      · have hboth := Selects.trans hselects hreleased
        rw [List.append_nil] at hboth
        exact hboth

/-- What the workers of a provider ask for makes selections from its context, begins it or ends
it. -/
lemma Sound.uses (hs : h.Sound provider) (hr : request.usesWorkers = true) :
    Uses h provider (h.step request).2 := by
  have hsame : Uses h provider h := .of_same rfl rfl (selects_of_silent rfl)
  have noted {h' : Harness} (hu : Uses h provider h') : Uses h provider h'.noteContexts := by
    cases hu with
    | stays context length selects => exact .stays context length selects
    | ends context length => exact .ends context length
    | begins context worker made contexts registered =>
      exact .begins context worker made contexts registered
  cases hop : request.operation? with
  | some found =>
    obtain ⟨name, op⟩ := found
    exact hs.uses_operation hop
  | none =>
    have hinit (name : String) : Uses h provider (h.answer (.init name)).2 := by
      unfold Harness.answer
      dsimp only
      cases hw : h.workers.get? name with
      | none => exact hsame
      | some w => exact uses_initWorker hw (hs.workers (name, w) (Mapping.mem_of_get? hw))
    suffices hanswer : Uses h provider (h.answer request).2 from noted hanswer
    cases request with
    | setFaults faults => exact .of_same rfl rfl (selects_of_silent rfl)
    | init name => exact hinit name
    | enter name =>
      have henter : (h.answer (.enter name)).2 = (h.answer (.init name)).2 := by
        unfold Harness.answer
        dsimp only
        cases h.workers.get? name <;> rfl
      rw [henter]
      exact hinit name
    | cleanUp name =>
      unfold Harness.answer
      dsimp only
      cases hw : h.workers.get? name with
      | none => exact hsame
      | some w => exact hs.uses_cleanUpWorker hw
    | acquire _ _ => cases hr
    | release _ => cases hr
    | select _ _ => cases hr
    | closeContext _ => cases hr
    | makeContext => cases hr
    | newWorker _ _ _ => cases hr
    | _ => cases hop

/-! ### Runs -/

/-- As long as the provider has the context of a number, the selections since some earlier state are
those that the context made then comes to in turn. -/
structure HasSelected (h : Harness) (provider : String) (number : ℕ) (c : Context)
    (calls : List Call) : Prop where
  lt : number < h.contexts.length
  selections : (h.provider provider).context = some number →
    ∃ names : List String, h.contexts[number]? = some (c.advance names.length) ∧
      lookUps h.world.calls = lookUps calls ++ c.inTurn names

/-- Every request of the workers adds to the selections, as long as the context stays. -/
lemma HasSelected.step {calls : List Call} (hh : h.HasSelected provider number c calls)
    (hs : h.Sound provider) (hr : request.usesWorkers = true) :
    (h.step request).2.HasSelected provider number c calls := by
  cases hs.uses hr with
  | stays context length selects =>
    refine ⟨hh.lt.trans_le length, fun hnumber => ?_⟩
    rw [context] at hnumber
    obtain ⟨names, hc, hcalls⟩ := hh.selections hnumber
    obtain ⟨tables, hc', hselects⟩ := selects number _ hnumber hc
    refine ⟨names ++ tables, ?_, ?_⟩
    · rw [hc', Context.advance_advance, List.length_append]
    · rw [hselects, hcalls, Context.inTurn_append, List.append_assoc]
  | ends context length =>
    refine ⟨hh.lt.trans_le length, fun hnumber => ?_⟩
    rw [context] at hnumber
    cases hnumber
  | begins _ _ _ contexts registered =>
    have hlt := hh.lt
    refine ⟨?_, fun hnumber => ?_⟩
    · rw [contexts, List.length_append]
      omega
    · -- A new context has a number of its own.
      rw [registered, Option.some.injEq] at hnumber
      omega

/-- The selections of a run from the state in which a context was made. -/
lemma HasSelected.run {calls : List Call} (hh : h.HasSelected provider number c calls)
    (hs : h.Sound provider) {requests : List Request}
    (hr : ∀ request ∈ requests, request.usesWorkers = true) :
    (h.run requests).2.Sound provider ∧
      (h.run requests).2.HasSelected provider number c calls := by
  refine run_induction (P := fun h => h.Sound provider ∧ h.HasSelected provider number c calls) h
    (fun h hP request hmem => ?_) ⟨hs, hh⟩
  have hkind : Kind h request := kind_of_usesWorkers (hr request hmem)
  exact ⟨(hP.1.answer hkind).noteContexts, hP.2.step hP.1 (hr request hmem)⟩

/-- A step after which a provider has a context that it did not have before has made the context. -/
lemma Sound.begins_of_step (hs : h.Sound provider) (hr : request.usesWorkers = true)
    (hnone : (h.provider provider).context = none)
    (hnew : ((h.step request).2.provider provider).context = some number) :
    ∃ name w c, h.workers.get? name = some w ∧
      exec (Context.create w.bag) h.world = (.ok c, (h.step request).2.world) ∧
      (h.step request).2.contexts = h.contexts ++ [c] ∧ number = h.contexts.length := by
  cases hs.uses hr with
  | stays context length selects =>
    rw [hnew, hnone] at context
    cases context
  | ends context length =>
    rw [hnew] at context
    cases context
  | begins _ worker made contexts registered =>
    rw [hnew, Option.some.injEq] at registered
    exact ⟨_, _, _, worker, made, contexts, registered⟩

/-- Whatever a registered worker asks for, it makes one selection for each table that it touches. -/
lemma Holds.selects_step (hr : request.worker? = some name)
    (hw : h.Holds name w active c) :
    ∃ tables : List String, tables.Nodup ∧
      (∀ table, table ∈ tables ↔ request.Touches active.batch table) ∧
      lookUps (h.step request).2.world.calls = lookUps h.world.calls ++ c.inTurn tables ∧
      ∃ c' : Context, (h.step request).2.contexts[active.context]? = some c' ∧
        c'.pool.selections = c.pool.selections + tables.length := by
  have hlt : active.context < h.contexts.length := (List.getElem?_eq_some_iff.mp hw.context).1
  cases hop : request.operation? with
  | some found =>
    obtain ⟨name', op⟩ := found
    obtain rfl : name' = name := by
      cases request <;> simp_all [Request.worker?, Request.operation?]
    obtain ⟨tables, hnodup, htouches, hselects, hcontexts⟩ := hw.takes_operation hop
    refine ⟨tables, hnodup, htouches, hselects, c.advance tables.length, ?_, rfl⟩
    rw [hcontexts]
    exact List.getElem?_set_self hlt
  | none =>
    obtain rfl : request = .cleanUp name := by
      cases request <;> simp_all [Request.worker?, Request.operation?]
    obtain ⟨tables, hnodup, htouches, hselects, hcontexts⟩ := hw.takes_flushed
    have hreleased := (((h.flushed name active.batch).retired name w).closes_release
      w.provider).selects
    refine ⟨tables, hnodup, htouches, ?_, ?_⟩
    · rw [step_cleanUp hw.worker, cleanUpWorker_of_active hw.registered]
      have hboth := Selects.trans hselects hreleased
      rw [List.append_nil] at hboth
      exact hboth
    · rw [step_cleanUp hw.worker, cleanUpWorker_of_active hw.registered, contexts_noteContexts]
      have hflushed : ((h.flushed name active.batch).retired name w).contexts[active.context]? =
          some (c.advance tables.length) := by
        change (h.flushed name active.batch).contexts[active.context]? = _
        rw [hcontexts]
        exact List.getElem?_set_self hlt
      -- If this was the last worker, its context is closed with its selections.
      rcases contexts_release ((h.flushed name active.batch).retired name w) w.provider with
        hsame | ⟨number, d, hd, hset⟩
      · rw [hsame]
        exact ⟨_, hflushed, rfl⟩
      · rw [hset]
        by_cases hn : number = active.context
        · subst hn
          obtain rfl := Option.some.inj (hd.symm.trans hflushed)
          refine ⟨_, List.getElem?_set_self (List.getElem?_eq_some_iff.mp hd).1, ?_⟩
          unfold Context.close
          split <;> rfl
        · exact ⟨_, (List.getElem?_set_ne hn).trans hflushed, rfl⟩

/-- Whatever the workers of a provider do, and whatever faults the deployment shows: from the
creation of a context as long as it is used, the selections of all its workers together go round the
endpoints that the settings list, and each request of a worker makes one selection for each table
that it touches. -/
theorem selections_in_turn (cluster : Cluster) (draws : Draws) (faults : Faults)
    (provider : String) (bags : Mapping Bag) {before after : List Request} {made : Request}
    {number : ℕ} {h₀ h₁ h₂ : Harness}
    (hrequests : ∀ request ∈ before ++ made :: after, request.usesWorkers = true)
    (hbefore : h₀ = ((start cluster draws faults provider bags).run before).2)
    (hmade : h₁ = (h₀.step made).2) (hafter : h₂ = (h₁.run after).2)
    (hnone : (h₀.provider provider).context = none)
    (hnew : (h₁.provider provider).context = some number)
    (hused : (h₂.provider provider).context = some number) :
    ∃ (c : Context) (targets : List Target), h₂.contexts[number]? = some c ∧
      (∃ name w, h₀.workers.get? name = some w ∧ (Settings.resolve w.bag).1 = .ok c.settings) ∧
      lookUps h₂.world.calls = lookUps h₁.world.calls ++ targets ∧ c.GoesRound targets ∧
      ∀ request name w active, request.worker? = some name → h₂.workers.get? name = some w →
        w.active = some active → active.context = number ∧
          ∃ tables : List String, tables.Nodup ∧
            (∀ table, table ∈ tables ↔ request.Touches active.batch table) ∧
            lookUps (h₂.step request).2.world.calls =
              lookUps h₂.world.calls ++ c.inTurn tables ∧
            ∃ c' : Context, (h₂.step request).2.contexts[number]? = some c' ∧
              c'.pool.selections = c.pool.selections + tables.length := by
  subst hbefore hmade hafter
  set h₀ := ((start cluster draws faults provider bags).run before).2
  have hfirst : made.usesWorkers = true :=
    hrequests made (List.mem_append_right _ List.mem_cons_self)
  have hs₀ : h₀.Sound provider := sound_run cluster draws faults provider bags
    fun request hr => hrequests request (List.mem_append_left _ hr)
  have hkind : Kind h₀ made := kind_of_usesWorkers hfirst
  have hs₁ : (h₀.step made).2.Sound provider := (hs₀.answer hkind).noteContexts
  obtain ⟨name, w, c, hw, hcreate, hcontexts, rfl⟩ := hs₀.begins_of_step hfirst hnone hnew
  obtain ⟨harranged, hzero⟩ := arranged_of_create hs₀.tidy hcreate
  have hh₁ : (h₀.step made).2.HasSelected provider h₀.contexts.length c
      (h₀.step made).2.world.calls := by
    refine ⟨by rw [hcontexts, List.length_append]; exact Nat.lt_succ_self _, fun _ => ⟨[], ?_, ?_⟩⟩
    · rw [hcontexts]
      exact List.getElem?_concat_length
    · exact (List.append_nil _).symm
  obtain ⟨hs₂, hh₂⟩ := hh₁.run hs₁ fun request hr =>
    hrequests request (List.mem_append_right _ (List.mem_cons_of_mem _ hr))
  obtain ⟨names, hc, hcalls⟩ := hh₂.selections hused
  refine ⟨c.advance names.length, c.inTurn names, hc,
    ⟨name, w, hw, (opened_of_create hs₀.tidy hcreate).settings⟩, hcalls,
    harranged.goesRound hzero names, fun request name w active hr hworker hactive => ?_⟩
  have hheld := hs₂.held _ (Mapping.mem_of_get? hworker) active hactive
  have hnumber : active.context = h₀.contexts.length := Option.some.inj (hheld.symm.trans hused)
  have hholds : ((h₀.step made).2.run after).2.Holds name w active (c.advance names.length) :=
    ⟨hworker, hactive, hnumber ▸ hc⟩
  refine ⟨hnumber, ?_⟩
  rw [← hnumber]
  exact hholds.selects_step hr

/-- Two workers, the first of which has two endpoints. -/
def twoWorkers : Harness :=
  start {} {} [] "p" [("a", [("mongodb.url", .text "mongodb://h1|mongodb://h2")]), ("b", [])]

/-- The first worker has begun a context. -/
def twoEndpoints : Harness :=
  (twoWorkers.step (.init "a")).2

/-- What the two workers do then: one of the insertions finds its table unreachable. -/
def fiveRequests : List Request :=
  [.init "b", .insert "b" "t" "1" [], .setFaults [("use:t", ⟨.unreachable, "down"⟩)],
    .insert "a" "t" "2" [], .read "a" "t" "1" none]

/-- Two workers make three selections in turn, the last two of them in vain. -/
theorem selections_in_turn_twoEndpoints :
    (lookUps (twoEndpoints.run fiveRequests).2.world.calls).map (fun t => t.client.url) =
        ["mongodb://h1", "mongodb://h2", "mongodb://h1"] ∧
      ∃ (c : Context) (targets : List Target),
        (twoEndpoints.run fiveRequests).2.contexts[0]? = some c ∧
        lookUps (twoEndpoints.run fiveRequests).2.world.calls =
          lookUps twoEndpoints.world.calls ++ targets ∧ c.GoesRound targets := by
  have hrequests : ∀ request ∈ [] ++ Request.init "a" :: fiveRequests,
      request.usesWorkers = true := by decide
  have hbefore : twoWorkers = (twoWorkers.run []).2 := rfl
  have hmade : twoEndpoints = (twoWorkers.step (.init "a")).2 := rfl
  have hnone : (twoWorkers.provider "p").context = none := rfl
  have hnew : (twoEndpoints.provider "p").context = some 0 := by decide +kernel
  have hused : ((twoEndpoints.run fiveRequests).2.provider "p").context = some 0 := by
    decide +kernel
  obtain ⟨c, targets, hc, -, hcalls, hround, -⟩ := selections_in_turn {} {} [] "p"
    [("a", [("mongodb.url", .text "mongodb://h1|mongodb://h2")]), ("b", [])] hrequests hbefore
    hmade rfl hnone hnew hused
  exact ⟨by decide +kernel, c, targets, hc, hcalls, hround⟩

end Harness

end LoadBinding
