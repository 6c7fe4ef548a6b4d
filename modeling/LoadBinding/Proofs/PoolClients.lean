import LoadBinding.Proofs.Closing

/-!
# The clients of pools

Which clients of pools an activity connects, and which clients it closes, can be read off the calls
that it adds to the record.  The clients of pools are told from the client of a set-up by their
options, which limit the connections that they may open.

`World.Trades opened closed` says that between two worlds these clients were connected for pools and
those closed, in this order.  Making a context either closes none of the clients that it connects
for its pool and hands them over, or fails and closes each of them exactly once
(`trades_create_of_ok`, `trades_create_of_error`); closing a context closes each of its clients once
(`Context.trades_close`).  All this holds whatever faults the deployment shows, those of other
closings included.
-/

namespace LoadBinding

open LoadBinding.Action World

/-! ## Reading the record -/

namespace Call

/-- The client that a call connects for a pool. -/
def poolClient? : Call → Option Client
  | connect client options => if Mapping.has options "maxPoolSize" then some client else none
  | _ => none

/-- The client that a call closes. -/
def closedClient? : Call → Option Client
  | close client => some client
  | _ => none

/-- The clients that some calls connect for pools, but for those that a fault refuses. -/
def pooled (faults : Faults) (calls : List Call) : List Client :=
  calls.filterMap fun call => if faults.has call.address then none else call.poolClient?

/-- The clients that some calls close, successfully or not. -/
def closed (calls : List Call) : List Client :=
  calls.filterMap closedClient?

lemma pooled_append (faults : Faults) (first second : List Call) :
    pooled faults (first ++ second) = pooled faults first ++ pooled faults second :=
  List.filterMap_append

lemma closed_append (first second : List Call) :
    closed (first ++ second) = closed first ++ closed second :=
  List.filterMap_append

lemma pooled_eq_nil_of_poolClient? {call : Call} (h : call.poolClient? = none) (faults : Faults) :
    pooled faults [call] = [] := by
  simp [pooled, h]

/-- A call that meets no fault connects its client. -/
lemma pooled_eq_singleton {call : Call} {client : Client} {faults : Faults}
    (hf : faults.get? call.address = none) (h : call.poolClient? = some client) :
    pooled faults [call] = [client] := by
  simp [pooled, Mapping.has, hf, h]

/-- A call that is refused connects no client. -/
lemma pooled_eq_nil_of_fault {call : Call} {faults : Faults} {f : Fault}
    (h : faults.get? call.address = some f) : pooled faults [call] = [] := by
  simp [pooled, Mapping.has, h]

lemma poolClient?_of_isConnect {call : Call} (h : call.isConnect = false) :
    call.poolClient? = none := by
  cases call <;> first | rfl | cases h

lemma closed_of_isClose {call : Call} (h : call.isClose = false) : closed [call] = [] := by
  cases call <;> first | rfl | cases h

lemma mem_closed {client : Client} {calls : List Call} :
    client ∈ closed calls ↔ Call.close client ∈ calls := by
  refine List.mem_filterMap.trans ⟨?_, fun h => ⟨_, h, rfl⟩⟩
  rintro ⟨call, hmem, hclient⟩
  cases call <;> cases hclient
  exact hmem

end Call

/-! ## What is connected and closed -/

/-- Between two worlds some clients were connected for pools, and some clients closed.  The clients
that were connected are new, and different from one another. -/
structure World.Trades (opened closed : List Client) (w w' : World) : Prop where
  calls : ∃ issued, w'.calls = w.calls ++ issued ∧ Call.pooled w.faults issued = opened ∧
    Call.closed issued = closed
  faults : w'.faults = w.faults
  connections : w.cluster.connections.length ≤ w'.cluster.connections.length
  fresh : ∀ client ∈ opened, w.cluster.connections.length ≤ client.number ∧
    client.number < w'.cluster.connections.length
  nodup : opened.Nodup

namespace World

variable {opened opened' closed closed' : List Client} {w w' w'' : World}

lemma Trades.trans (h : Trades opened closed w w') (h' : Trades opened' closed' w' w'') :
    Trades (opened ++ opened') (closed ++ closed') w w'' := by
  obtain ⟨issued, hcalls, rfl, rfl⟩ := h.calls
  obtain ⟨issued', hcalls', rfl, rfl⟩ := h'.calls
  refine ⟨⟨issued ++ issued', by rw [hcalls', hcalls, List.append_assoc],
      by rw [Call.pooled_append, h.faults], Call.closed_append _ _⟩,
    h'.faults.trans h.faults, h.connections.trans h'.connections, fun client hmem => ?_, ?_⟩
  · rcases List.mem_append.mp hmem with hmem | hmem
    · exact ⟨(h.fresh client hmem).1, (h.fresh client hmem).2.trans_le h'.connections⟩
    · exact ⟨h.connections.trans (h'.fresh client hmem).1, (h'.fresh client hmem).2⟩
  · refine List.nodup_append.mpr ⟨h.nodup, h'.nodup, ?_⟩
    rintro client hold _ hnew rfl
    exact absurd (h.fresh client hold).2 (Nat.not_lt.mpr (h'.fresh client hnew).1)

/-- A call that connects no client of a pool. -/
lemma trades_noted (w : World) {call : Call} (h : Call.pooled w.faults [call] = []) :
    Trades [] (Call.closed [call]) w (w.noted call) :=
  ⟨⟨[call], rfl, h, rfl⟩, rfl, le_rfl, List.forall_mem_nil _, List.nodup_nil⟩

/-- Nothing but the entries of the log was changed. -/
lemma trades_of_silent (hc : w'.calls = w.calls)
    (hn : w'.cluster.connections = w.cluster.connections) (hf : w'.faults = w.faults) :
    Trades [] [] w w' :=
  ⟨⟨[], by rw [hc, List.append_nil], rfl, rfl⟩, hf, hn ▸ le_rfl, List.forall_mem_nil _,
    List.nodup_nil⟩

instance : ConnectionOrder (Trades [] []) where
  refl _ := trades_of_silent rfl rfl rfl
  trans _ _ _ h h' := h.trans h'
  of_silent hc hn hf _ _ := trades_of_silent hc hn hf
  of_noted w _ hn hc := Call.closed_of_isClose hc ▸
    trades_noted w (Call.pooled_eq_nil_of_poolClient? (Call.poolClient?_of_isConnect hn) _)

/-- A quiet activity may come before. -/
lemma Trades.after_quiet (h : Trades [] [] w w') (h' : Trades opened closed w' w'') :
    Trades opened closed w w'' :=
  h.trans h'

/-- A quiet activity may follow. -/
lemma Trades.then_quiet (h : Trades opened closed w w') (h' : Trades [] [] w' w'') :
    Trades opened closed w w'' := by
  have hboth := h.trans h'
  rwa [List.append_nil, List.append_nil] at hboth

/-- The clients that were closed, where it is known from what number on connections were closed. -/
lemma Trades.bounds_of_opens (h : Trades opened closed w w') {base : ℕ} (ho : Opens base w w') :
    ∀ client ∈ closed, base ≤ client.number ∧
      client.number < w'.cluster.connections.length := by
  obtain ⟨issued, hcalls, -, rfl⟩ := h.calls
  obtain ⟨issued', hcalls', hbounds⟩ := ho.calls
  obtain rfl : issued = issued' := List.append_cancel_left (hcalls.symm.trans hcalls')
  exact fun client hmem => hbounds client (Call.mem_closed.mp hmem)

/-! ### Connecting -/

/-- A client that is connected for a pool is a new one. -/
lemma trades_connect (url : String) {options : Document}
    (hpool : Mapping.has options "maxPoolSize" = true) (w : World) :
    (∃ f w', exec (Client.connect url options) w = (.error (.fault f), w') ∧ Trades [] [] w w') ∨
      ∃ client w', exec (Client.connect url options) w = (.ok client, w') ∧
        Trades [client] [] w w' := by
  rcases exec_connect url options w with ⟨f, hf, h⟩ | ⟨hf, h⟩
  · exact .inl ⟨f, _, h, trades_noted w (Call.pooled_eq_nil_of_fault hf)⟩
  · have hpooled : Call.pooled w.faults [.connect (w.cluster.nextClient url) options] =
        [w.cluster.nextClient url] :=
      Call.pooled_eq_singleton hf (if_pos hpool)
    refine .inr ⟨_, _, h, ⟨[_], rfl, hpooled, rfl⟩, rfl, ?_, fun client hmem => ?_,
      List.nodup_singleton _⟩
    · simp [Cluster.connect]
    · obtain rfl := List.mem_singleton.mp hmem
      simp [Cluster.connect, Cluster.nextClient]

/-! ### Closing -/

lemma trades_close (client : Client) (w : World) :
    Trades [] [client] w (exec client.close w).2 := by
  have hnoted : Trades [] (Call.closed [.close client]) w (w.noted (.close client)) :=
    trades_noted w (Call.pooled_eq_nil_of_poolClient? rfl _)
  rcases exec_close client w with ⟨e, h⟩ | h
  · rw [h]
    exact hnoted
  · rw [h]
    exact ⟨hnoted.calls, rfl, by simp [Cluster.close], List.forall_mem_nil _, List.nodup_nil⟩

/-- Closing endpoints closes the client of each, whichever of them cannot be closed. -/
lemma trades_closeEndpoints (endpoints : List Endpoint) (w : World) :
    Trades [] (endpoints.map Endpoint.client) w ((Pool.closeEndpoints endpoints).run w).2 := by
  induction endpoints generalizing w with
  | nil =>
    show Trades [] [] w w
    exact refl w
  | cons e rest ih =>
    have hclose := trades_close e.client w
    unfold Pool.closeEndpoints
    rw [run_bind, run_attempt]
    cases h : exec e.client.close w with
    | mk r w₁ =>
      rw [h] at hclose
      cases r with
      | ok _ => exact hclose.trans (ih w₁)
      | error f => exact (hclose.then_quiet (keeps_log _ _ _ w₁)).trans (ih _)

/-- Endpoints that are closed before anything else has closed them are closed once. -/
lemma Trades.closeEndpoints {endpoints : List Endpoint}
    (h : Trades (endpoints.map Endpoint.client) closed w w')
    (hopen : ∀ e ∈ endpoints, e.client ∉ closed) :
    Trades (endpoints.map Endpoint.client) (closed ++ endpoints.map Endpoint.client) w
        ((Pool.closeEndpoints endpoints).run w').2 ∧
      ∀ client ∈ endpoints.map Endpoint.client,
        (closed ++ endpoints.map Endpoint.client).count client = 1 := by
  constructor
  · have hboth := h.trans (trades_closeEndpoints endpoints w')
    rwa [List.append_nil] at hboth
  · intro client hmem
    obtain ⟨e, he, rfl⟩ := List.mem_map.mp hmem
    have hbefore : closed.count e.client = 0 := List.count_eq_zero.mpr (hopen e he)
    have hnow : (endpoints.map Endpoint.client).count e.client = 1 :=
      List.count_eq_one_of_mem h.nodup hmem
    rw [List.count_append, hbefore, hnow]

/-- Between two worlds no client was connected for a pool. -/
def PoolsNone (w w' : World) : Prop :=
  ∃ closed, Trades [] closed w w'

instance : ConnectionOrder PoolsNone where
  refl w := ⟨[], refl w⟩
  trans _ _ _ h h' := by
    obtain ⟨_, h⟩ := h
    obtain ⟨_, h'⟩ := h'
    exact ⟨_, h.trans h'⟩
  of_silent hc hn hf hd hm := ⟨[], ConnectionOrder.of_silent hc hn hf hd hm⟩
  of_noted w _ hn hc := ⟨[], ConnectionOrder.of_noted w hn hc⟩

/-- A client that is connected for something else. -/
lemma poolsNone_connect (url : String) {options : Document}
    (hpool : Mapping.has options "maxPoolSize" = false) :
    Keeps PoolsNone (attempt (Client.connect url options)) := by
  intro w
  have hnone : (Call.connect (w.cluster.nextClient url) options).poolClient? = none :=
    if_neg (by rw [hpool]; decide)
  have hnoted := trades_noted w (Call.pooled_eq_nil_of_poolClient? hnone w.faults)
  rw [run_attempt]
  rcases exec_connect url options w with ⟨f, -, h⟩ | ⟨-, h⟩
  · rw [h]
    exact ⟨_, hnoted⟩
  · rw [h]
    exact ⟨_, hnoted.calls, rfl, by simp [Cluster.connect], List.forall_mem_nil _, List.nodup_nil⟩

lemma poolsNone_close (client : Client) : Keeps PoolsNone (attempt client.close) :=
  fun w => ⟨_, trades_close client w⟩

end World

/-! ## Options -/

/-- The clients of pools are opened with a limit on their connections. -/
lemma Settings.has_clientOptions (s : Settings) :
    Mapping.has s.clientOptions "maxPoolSize" = true := by
  unfold Settings.clientOptions
  cases s.writeConcern <;> rfl

namespace Encryption

/-- The client of a set-up is opened without one. -/
lemma has_clientOptions (s : Settings) :
    Mapping.has (clientOptions s) "maxPoolSize" = false := by
  unfold clientOptions
  cases s.writeConcern <;> rfl

/-- The set-up of the encryption connects no client of a pool. -/
lemma poolsNone_setUp (s : Settings) (url : String) :
    Keeps PoolsNone (attempt (setUp s url)) := by
  unfold setUp
  split
  · exact keeps_attempt_throw _
  refine keeps_attempt_bind (poolsNone_connect _ (has_clientOptions s)) fun client => ?_
  refine keeps_attempt_bind (ConnectionOrder.keeps_encryptorCreate client _ _) fun encryptor => ?_
  refine keeps_attempt_bind (keeps_attempt_outcome
    (ConnectionOrder.keeps_setUpWith s client encryptor)) fun result => ?_
  refine keeps_attempt_bind (ConnectionOrder.keeps_encryptorClose encryptor) fun _ => ?_
  refine keeps_attempt_bind (poolsNone_close client) fun _ => ?_
  cases result with
  | ok _ => exact keeps_attempt_pure _
  | error _ => exact keeps_attempt_throw _

end Encryption

/-- What provides the encryption of an endpoint closes only what it has connected, and connects no
client of a pool. -/
structure KeepsApart (encryption : Option (String → Action Value)) : Prop where
  closesOwn : ClosesOwn encryption
  poolsNone : ∀ build, encryption = some build → ∀ url, Keeps PoolsNone (attempt (build url))

lemma keepsApart_none : KeepsApart none := by
  constructor
  · intro build hbuild
    cases hbuild
  · intro build hbuild
    cases hbuild

lemma keepsApart_encryption (s : Settings) : KeepsApart (Context.encryption s) := by
  refine ⟨closesOwn_encryption s, fun build hbuild url => ?_⟩
  unfold Context.encryption at hbuild
  split at hbuild
  · cases hbuild
    exact keeps_attempt_bind (Encryption.poolsNone_setUp s url) fun _ => keeps_attempt_pure _
  · cases hbuild

section Opening

variable {s : Settings} {encryption : Option (String → Action Value)} {w₀ w w' : World}

lemma poolsNone_endpointOptions (he : KeepsApart encryption) (s : Settings) (url : String) :
    Keeps PoolsNone (attempt (endpointOptions s encryption url)) := by
  unfold endpointOptions
  split
  · exact keeps_attempt_pure _
  · exact keeps_attempt_bind (he.poolsNone _ rfl url) fun _ => keeps_attempt_pure _

/-- The options of an endpoint limit the connections of its client. -/
lemma has_endpointOptions {url : String} {options : Document}
    (h : exec (endpointOptions s encryption url) w = (.ok options, w')) :
    Mapping.has options "maxPoolSize" = true := by
  unfold endpointOptions at h
  split at h
  · cases h
    exact s.has_clientOptions
  · obtain ⟨v, w₁, -, hset⟩ := exec_bind_eq_ok h
    cases hset
    rw [Mapping.has_set, s.has_clientOptions, Bool.or_true]

/-- An endpoint that is opened connects one client, which nothing has closed; the set-up of the
encryption, if there is one, may have closed its own. -/
lemma trades_openEndpoint (he : KeepsApart encryption) {server : String}
    {r : Except Failure Endpoint}
    (h : exec (Pool.openEndpoint s encryption server) w = (r, w')) :
    ∃ closed, (∀ client ∈ closed, w.cluster.connections.length ≤ client.number ∧
        client.number < w'.cluster.connections.length) ∧
      ((∃ f, r = .error f ∧ Trades [] closed w w' ∧ (encryption = none → f.isExit = false)) ∨
        ∃ e, r = .ok e ∧ Trades [e.client] closed w w' ∧ e.client ∉ closed) := by
  rw [openEndpoint_eq] at h
  dsimp only at h
  set url := Url.embed server s.credentials.authority
  cases hopts : exec (endpointOptions s encryption url) w with
  | mk made w₁ =>
    obtain ⟨closed, hnone⟩ := rel_of_exec (poolsNone_endpointOptions he s url w) hopts
    have hbounds := hnone.bounds_of_opens
      (rel_of_exec (opens_endpointOptions he.closesOwn s url w) hopts)
    refine ⟨closed, ?_⟩
    cases made with
    | error f =>
      rw [exec_bind_of_error hopts] at h
      cases h
      refine ⟨hbounds, .inl ⟨f, rfl, hnone, fun hencryption => ?_⟩⟩
      subst hencryption
      cases hopts
    | ok options =>
      rw [exec_bind_of_ok hopts] at h
      rcases trades_connect url (has_endpointOptions hopts) w₁ with
        ⟨f, w₂, hconnect, h₂⟩ | ⟨client, w₂, hconnect, h₂⟩
      · rw [exec_bind_of_error hconnect] at h
        cases h
        exact ⟨fun client hmem => ⟨(hbounds client hmem).1,
          (hbounds client hmem).2.trans_le h₂.connections⟩,
          .inl ⟨_, rfl, hnone.then_quiet h₂, fun _ => rfl⟩⟩
      · rw [exec_bind_of_ok hconnect] at h
        have h₃ :=
          rel_of_exec (ConnectionOrder.keeps_announce (R := Trades [] []) s url client w₂) h
        have hboth := (hnone.trans h₂).then_quiet h₃
        rw [List.nil_append, List.append_nil] at hboth
        refine ⟨fun client hmem => ⟨(hbounds client hmem).1,
          (hbounds client hmem).2.trans_le (h₂.connections.trans h₃.connections)⟩, .inr ?_⟩
        obtain rfl := announce_eq h
        refine ⟨_, rfl, hboth, fun hmem => ?_⟩
        -- What was closed before has a number below that of the new client.
        exact absurd (hbounds client hmem).2
          (Nat.not_lt.mpr (h₂.fresh client List.mem_cons_self).1)

/-- The endpoints of a pool are opened without closing one of their clients, or each client that was
connected is closed exactly once. -/
lemma trades_openFrom (he : KeepsApart encryption) {servers : List String}
    {opened : List Endpoint} {closed : List Client}
    (hopened : Trades (opened.map Endpoint.client) closed w₀ w)
    (hclosed : ∀ client ∈ closed, client.number < w.cluster.connections.length)
    (hopen : ∀ e ∈ opened, e.client ∉ closed) {r : Except Failure (List Endpoint)}
    (h : exec (Pool.openFrom s encryption opened servers) w = (r, w')) :
    (∃ f clients closed', r = .error f ∧ Trades clients closed' w₀ w' ∧
        ∀ client ∈ clients, closed'.count client = 1) ∨
      ∃ endpoints closed', r = .ok endpoints ∧
        Trades (endpoints.map Endpoint.client) closed' w₀ w' ∧
        ∀ e ∈ endpoints, e.client ∉ closed' := by
  induction servers generalizing opened closed w with
  | nil =>
    cases h
    exact .inr ⟨opened, closed, rfl, hopened, hopen⟩
  | cons server rest ih =>
    have hown : KeepsApart (if opened.isEmpty then encryption else none) := by
      split
      · exact he
      · exact keepsApart_none
    cases hfirst : exec
        (Pool.openEndpoint s (if opened.isEmpty then encryption else none) server) w with
    | mk r₁ w₁ =>
      obtain ⟨closed₁, hbounds, hcases⟩ := trades_openEndpoint hown hfirst
      -- What has just been closed is newer than what was open before.
      have hopen₁ : ∀ e ∈ opened, e.client ∉ closed ++ closed₁ := by
        intro e hmem hin
        rcases List.mem_append.mp hin with hin | hin
        · exact hopen e hmem hin
        · exact absurd (hopened.fresh _ (List.mem_map_of_mem hmem)).2
            (Nat.not_lt.mpr (hbounds _ hin).1)
      rcases hcases with ⟨f, rfl, h₁, hexit⟩ | ⟨e, rfl, h₁, hnew⟩
      · left
        rw [openFrom_of_error hfirst] at h
        have hboth := hopened.trans h₁
        rw [List.append_nil] at hboth
        cases opened with
        | nil =>
          obtain rfl : w₁ = w' := (ite_self w₁).symm.trans (congrArg Prod.snd h)
          exact ⟨f, _, _, (congrArg Prod.fst h).symm, hboth, List.forall_mem_nil _⟩
        | cons first others =>
          rw [hexit rfl, if_neg (by decide)] at h
          cases h
          obtain ⟨hall, honce⟩ := hboth.closeEndpoints hopen₁
          exact ⟨f, _, _, rfl, hall, honce⟩
      · rw [openFrom_of_ok hfirst] at h
        have hboth := hopened.trans h₁
        rw [← List.map_singleton, ← List.map_append] at hboth
        refine ih hboth (fun client hin => ?_) (fun e' hmem => ?_) h
        · rcases List.mem_append.mp hin with hin | hin
          · exact (hclosed client hin).trans_le h₁.connections
          · exact (hbounds client hin).2
        · rcases List.mem_append.mp hmem with hmem | hmem
          · exact hopen₁ e' hmem
          · obtain rfl := List.mem_singleton.mp hmem
            intro hin
            rcases List.mem_append.mp hin with hin | hin
            · exact absurd (hclosed _ hin)
                (Nat.not_lt.mpr (h₁.fresh _ List.mem_cons_self).1)
            · exact hnew hin

end Opening

/-! ## Contexts -/

namespace Context

/-- The clients of the pool of a context. -/
def clients (c : Context) : List Client :=
  c.pool.endpoints.map Endpoint.client

variable {c : Context} {w w' : World}

/-- An open context closes each of its clients once. -/
lemma trades_close (hc : c.isOpen = true) (w : World) :
    Trades [] c.clients w (c.close.run w).2 := by
  unfold close
  rw [if_pos hc]
  exact trades_closeEndpoints c.pool.endpoints w

end Context

section Creating

variable {bag : Bag} {w w' : World}

/-- The endpoints of a new pool, as they are opened or closed again. -/
lemma trades_openFrom_nil (s : Settings) {servers : List String}
    {r : Except Failure (List Endpoint)}
    (h : exec (Pool.openFrom s (Context.encryption s) [] servers) w = (r, w')) :
    (∃ f clients closed, r = .error f ∧ Trades clients closed w w' ∧
        ∀ client ∈ clients, closed.count client = 1) ∨
      ∃ endpoints closed, r = .ok endpoints ∧ Trades (endpoints.map Endpoint.client) closed w w' ∧
        ∀ e ∈ endpoints, e.client ∉ closed :=
  have hnone : Trades ([].map Endpoint.client) [] w w := show Trades [] [] w w from refl w
  trades_openFrom (keepsApart_encryption s) hnone (fun _ hmem => absurd hmem List.not_mem_nil)
    (fun _ hmem => absurd hmem List.not_mem_nil) h

/-- A pool that could not be opened has closed each of its clients exactly once. -/
lemma trades_openPool_of_error {s : Settings} {e : Failure}
    (h : exec (Context.openPool s) w = (.error e, w')) :
    ∃ clients closed, Trades clients closed w w' ∧
      ∀ client ∈ clients, closed.count client = 1 := by
  unfold Context.openPool Pool.create at h
  rw [exec_bind_of_ok (exec_outcome _ w)] at h
  cases hopen : exec (Pool.openFrom s (Context.encryption s) [] s.endpoints) w with
  | mk r w₁ =>
    rcases trades_openFrom_nil s hopen with
      ⟨f, clients, closed, rfl, htrades, honce⟩ | ⟨endpoints, _, rfl, -, -⟩
    · rw [exec_bind_of_error hopen] at h
      refine ⟨clients, closed, htrades.then_quiet ?_, honce⟩
      -- What follows the failure is at most a message.
      dsimp only at h
      split at h
      · cases h
        exact refl _
      · exact rel_of_exec (keeps_fatal _ _ _) h
    · rw [exec_bind_of_ok hopen] at h
      cases h

/-- A context that could not be created has closed each client of its pool exactly once. -/
lemma trades_create_of_error {e : Failure} (h : exec (Context.create bag) w = (.error e, w')) :
    ∃ clients closed, Trades clients closed w w' ∧
      ∀ client ∈ clients, closed.count client = 1 := by
  cases hs : (Settings.resolve bag).1 with
  | refused problems =>
    obtain ⟨entries, hrefused⟩ := exec_create_of_refused hs w
    rw [hrefused] at h
    cases h
    exact ⟨[], [], trades_of_silent rfl rfl rfl, List.forall_mem_nil _⟩
  | ok s =>
    rw [exec_create_of_resolve hs] at h
    set w₁ : World := { w with entries := w.entries ++ (Settings.resolve bag).2 }
    have hlogged : Trades [] [] w w₁ := trades_of_silent rfl rfl rfl
    cases hpool : exec (Context.openPool s) w₁ with
    | mk r w₂ =>
      cases r with
      | ok p =>
        rw [exec_bind_of_ok hpool] at h
        cases h
      | error f =>
        rw [exec_bind_of_error hpool] at h
        cases h
        obtain ⟨clients, closed, htrades, honce⟩ := trades_openPool_of_error hpool
        exact ⟨clients, closed, hlogged.after_quiet htrades, honce⟩

/-- A context that was created has connected its clients and closed none of them. -/
lemma trades_create_of_ok {c : Context} (h : exec (Context.create bag) w = (.ok c, w')) :
    ∃ closed, Trades c.clients closed w w' ∧ ∀ client ∈ c.clients, client ∉ closed := by
  cases hs : (Settings.resolve bag).1 with
  | refused problems =>
    obtain ⟨entries, hrefused⟩ := exec_create_of_refused hs w
    rw [hrefused] at h
    cases h
  | ok s =>
    rw [exec_create_of_resolve hs] at h
    set w₁ : World := { w with entries := w.entries ++ (Settings.resolve bag).2 }
    have hlogged : Trades [] [] w w₁ := trades_of_silent rfl rfl rfl
    obtain ⟨p, w₂, hpool, hannounce⟩ := exec_bind_eq_ok h
    rcases trades_openFrom_nil s (pool_of_openPool hpool).1 with
      ⟨_, _, _, hfail, -⟩ | ⟨endpoints, closed, hok, htrades, hopen⟩
    · cases hfail
    · obtain rfl := Except.ok.inj hok
      have hend : Trades [] [] w₂ w' := rel_of_exec (keeps_announceContext s p w₂) hannounce
      cases hannounce
      refine ⟨closed, hlogged.after_quiet (htrades.then_quiet hend), fun client hmem => ?_⟩
      obtain ⟨e, hin, rfl⟩ := List.mem_map.mp hmem
      exact hopen e hin

end Creating

end LoadBinding
