import LoadBinding.Proofs.Calls
import LoadBinding.Proofs.Closing

/-!
# What a failed acquisition leaves open

Acquiring a context connects clients: first the one that provides the data key, when encryption is
asked for, and then one for every endpoint.  When the acquisition fails, these clients are of no use
to anybody, and all of them should have been closed.

`World.Leaves left` says of the world before an activity and the world after it that every client
connected in between has been closed again, or satisfies `left`.  Connecting adds a client to those
that are left and closing takes it away, so the relation can be followed along the set-up.

The main result, on acquisitions that fail, finds one gap (`Encryption.encryptorFails`).  The client
that provides the data key is closed last of all: when the encryptor that works on it cannot be
opened, or cannot be closed, it stays open.
-/

namespace LoadBinding

open LoadBinding.Action World

/-! ## Clients -/

/-- The clients that have been connected, in the order of their numbers. -/
def World.clients (w : World) : List Client :=
  w.cluster.connections.mapIdx fun number connection => ⟨number, connection.url⟩

@[simp] lemma World.length_clients (w : World) :
    w.clients.length = w.cluster.connections.length := by
  simp [clients]

lemma Cluster.clients_connect (w : World) (url : String) :
    { w with cluster := w.cluster.connect url }.clients =
      w.clients ++ [w.cluster.nextClient url] :=
  List.mapIdx_concat

/-- Closing a connection does not take it back. -/
lemma Cluster.clients_close (w : World) (client : Client) :
    { w with cluster := w.cluster.close client }.clients = w.clients := by
  refine List.ext_getElem? fun n => ?_
  simp only [World.clients, Cluster.close, List.getElem?_mapIdx, List.getElem?_modify]
  cases w.cluster.connections[n]? with
  | none => rfl
  | some connection =>
    by_cases h : client.number = n
    · simp [h]
    · simp [h]

/-! ## Clients that are left -/

/-- Between two worlds every client that was connected has been closed or is one of those left. -/
structure World.Leaves (left : Client → Prop) (w w' : World) : Prop where
  clients : ∃ issued clients, w'.calls = w.calls ++ issued ∧ w'.clients = w.clients ++ clients ∧
    ∀ client ∈ clients, Call.close client ∈ issued ∨ left client
  faults : w'.faults = w.faults

/-- Between two worlds every client that was connected has been closed. -/
abbrev World.Recovers : World → World → Prop :=
  World.Leaves fun _ => False

namespace World

variable {left left' : Client → Prop} {w w' w'' : World}

lemma Leaves.mono (h : Leaves left w w') (hl : ∀ client, left client → left' client) :
    Leaves left' w w' := by
  obtain ⟨issued, clients, hi, hc, hclosed⟩ := h.clients
  exact ⟨⟨issued, clients, hi, hc, fun client hm => (hclosed client hm).imp_right (hl client)⟩,
    h.faults⟩

lemma Leaves.trans (h : Leaves left w w') (h' : Leaves left' w' w'') :
    Leaves (fun client => left client ∨ left' client) w w'' := by
  obtain ⟨i, c, hi, hc, hclosed⟩ := h.clients
  obtain ⟨j, d, hj, hd, hclosed'⟩ := h'.clients
  refine ⟨⟨i ++ j, c ++ d, by rw [hj, hi, List.append_assoc], by rw [hd, hc, List.append_assoc],
    fun client hm => ?_⟩, h'.faults.trans h.faults⟩
  rcases List.mem_append.mp hm with hm | hm
  · exact (hclosed client hm).imp (List.mem_append_left _) .inl
  · exact (hclosed' client hm).imp (List.mem_append_right _) .inr

/-- A part of an activity that leaves no client of its own. -/
lemma Leaves.recovers (h : Leaves left w w') (h' : Recovers w' w'') : Leaves left w w'' :=
  (h.trans h').mono fun _ hl => hl.resolve_right id

lemma Recovers.leaves (h : Recovers w w') (h' : Leaves left w' w'') : Leaves left w w'' :=
  (Leaves.trans h h').mono fun _ hl => hl.resolve_left id

instance : ConnectionOrder World.Recovers where
  refl _ := ⟨⟨[], [], by simp, by simp, by simp⟩, rfl⟩
  trans _ _ _ h h' := h.recovers h'
  of_silent hc hn hf _ _ :=
    ⟨⟨[], [], by simpa using hc, by simp [World.clients, hn], by simp⟩, hf⟩
  of_noted w call _ _ := ⟨⟨[call], [], rfl, by simp [World.clients], by simp⟩, rfl⟩

end World

namespace World

variable {left : Client → Prop} {w w' : World}

/-- A call that is recorded without effect on the connections. -/
lemma recovers_noted (w : World) (call : Call) : Recovers w (w.noted call) :=
  ⟨⟨[call], [], rfl, by simp [World.clients], by simp⟩, rfl⟩

/-- A client that could be connected is left. -/
lemma leaves_connect (url : String) (options : Document) (w : World) :
    (∃ f w', exec (Client.connect url options) w = (.error (.fault f), w') ∧ Recovers w w') ∨
      ∃ w', exec (Client.connect url options) w = (.ok (w.cluster.nextClient url), w') ∧
        Leaves (· = w.cluster.nextClient url) w w' := by
  rcases exec_connect url options w with ⟨f, -, h⟩ | ⟨-, h⟩
  · exact .inl ⟨f, _, h, recovers_noted _ _⟩
  · refine .inr ⟨_, h, ⟨_, _, rfl, Cluster.clients_connect (w.noted _) url, ?_⟩, rfl⟩
    intro client hm
    exact .inr (List.mem_singleton.mp hm)

/-- A client that is closed is left no longer, whether or not closing it succeeds. -/
lemma Leaves.close (h : Leaves left w w') (client : Client) :
    Leaves (fun c => left c ∧ c ≠ client) w (exec client.close w').2 := by
  have hclose : (exec client.close w').2.calls = w'.calls ++ [.close client] ∧
      (exec client.close w').2.clients = w'.clients ∧
      (exec client.close w').2.faults = w'.faults := by
    rcases exec_close client w' with ⟨e, he⟩ | he
    · rw [he]
      exact ⟨rfl, rfl, rfl⟩
    · rw [he]
      exact ⟨rfl, Cluster.clients_close (w'.noted _) client, rfl⟩
  obtain ⟨issued, clients, hi, hc, hclosed⟩ := h.clients
  refine ⟨⟨issued ++ [.close client], clients, by rw [hclose.1, hi, List.append_assoc],
    hclose.2.1.trans hc, fun c hm => ?_⟩, hclose.2.2.trans h.faults⟩
  by_cases heq : c = client
  · exact .inl (List.mem_append_right _ (by simp [heq]))
  · exact (hclosed c hm).imp (List.mem_append_left _) fun hl => ⟨hl, heq⟩

/-- Closing endpoints closes the clients of all of them. -/
lemma Leaves.closeEndpoints (h : Leaves left w w') (endpoints : List Endpoint) :
    Leaves (fun c => left c ∧ ∀ e ∈ endpoints, c ≠ e.client) w
      ((Pool.closeEndpoints endpoints).run w').2 := by
  induction endpoints generalizing left w' with
  | nil => exact h.mono fun c hl => ⟨hl, by simp⟩
  | cons e rest ih =>
    have hclose : Leaves (fun c => left c ∧ c ≠ e.client) w (exec e.client.close w').2 :=
      h.close e.client
    have hrest : ∀ w₁, Leaves (fun c => left c ∧ c ≠ e.client) w w₁ →
        Leaves (fun c => left c ∧ ∀ e' ∈ e :: rest, c ≠ e'.client) w
          ((Pool.closeEndpoints rest).run w₁).2 := by
      intro w₁ h₁
      refine (ih h₁).mono fun c hl => ⟨hl.1.1, fun e' he' => ?_⟩
      rcases List.mem_cons.mp he' with rfl | he'
      · exact hl.1.2
      · exact hl.2 e' he'
    unfold Pool.closeEndpoints
    rw [run_bind, run_attempt]
    cases h₁ : exec e.client.close w' with
    | mk r w₁ =>
      rw [h₁] at hclose
      cases r with
      | ok _ => exact hrest w₁ hclose
      | error f => exact hrest _ (hclose.recovers (keeps_log _ _ _ w₁))

end World

/-! ## The set-up of the encryption -/

namespace Encryption

/-- Whether a deployment shows a fault when the encryptor of some settings is opened or closed. -/
def encryptorFails (faults : Faults) (s : Settings) : Bool :=
  faults.has (Call.openEncryption s.keyVaultNamespace keyProviders true).address ||
    faults.has (lookUpAddress (Encryptor.splitNamespace s.keyVaultNamespace).2) ||
    faults.has Call.closeEncryption.address

variable {s : Settings} {w w' : World}

/-- An encryptor that cannot be opened shows a fault. -/
lemma encryptorFails_of_create {client : Client} {e : Failure}
    (h : exec (Encryptor.create client s.keyVaultNamespace true) w = (.error e, w')) :
    encryptorFails w.faults s = true := by
  unfold encryptorFails
  cases hopen : w.faults.get?
      (Call.openEncryption s.keyVaultNamespace keyProviders true).address with
  | some f => simp [Mapping.has, hopen]
  | none =>
    cases huse : w.faults.get? (lookUpAddress (Encryptor.splitNamespace s.keyVaultNamespace).2) with
    | some f => simp [Mapping.has, huse]
    | none =>
      let call := Call.openEncryption s.keyVaultNamespace keyProviders true
      have hnoted : (w.noted call).faults.get?
          (lookUpAddress (Encryptor.splitNamespace s.keyVaultNamespace).2) = none := huse
      rw [encryptorCreate_eq, exec_bind_of_ok (exec_record_of_no_fault hopen),
        exec_bind_of_ok (exec_use_of_no_fault hnoted)] at h
      cases h

/-- An encryptor that cannot be closed shows a fault. -/
lemma encryptorFails_of_close {encryptor : Encryptor} {e : Failure}
    (h : exec encryptor.close w = (.error e, w')) : encryptorFails w.faults s = true := by
  cases hclose : w.faults.get? Call.closeEncryption.address with
  | some f => simp [encryptorFails, Mapping.has, hclose]
  | none =>
    unfold Encryptor.close at h
    rw [exec_record_of_no_fault hclose] at h
    cases h

/-- In the end the encryptor is closed, and then the client, unless that fails. -/
lemma recovers_closing {client : Client} {encryptor : Encryptor} {finish : Action Document}
    (hfinish : ∀ w, (exec finish w).2 = w) {w₁ : World} (hleft : Leaves (· = client) w w₁)
    {r : Except Failure Document}
    (h : exec (do encryptor.close; client.close; finish) w₁ = (r, w')) :
    Recovers w w' ∨ encryptorFails w.faults s = true ∧ (∃ e, r = .error e) ∧
      Leaves (· = client) w w' := by
  cases hclose : exec encryptor.close w₁ with
  | mk closed w₂ =>
    have h₂ : Leaves (· = client) w w₂ :=
      hleft.recovers (rel_of_exec (ConnectionOrder.keeps_encryptorClose encryptor w₁) hclose)
    cases closed with
    | error e =>
      rw [exec_bind_of_error hclose] at h
      cases h
      exact .inr ⟨hleft.faults ▸ encryptorFails_of_close hclose, ⟨e, rfl⟩, h₂⟩
    | ok _ =>
      -- From here on the client is closed, whatever becomes of the set-up.
      left
      have h₃ : Recovers w (exec client.close w₂).2 :=
        (h₂.close client).mono fun c hc => hc.2 hc.1
      rw [exec_bind_of_ok hclose] at h
      obtain rfl : (exec (do client.close; finish) w₂).2 = w' := congrArg Prod.snd h
      rw [exec_bind]
      cases hend : exec client.close w₂ with
      | mk ended w₃ =>
        rw [hend] at h₃
        cases ended with
        | error e => exact h₃
        | ok _ =>
          dsimp only
          rw [hfinish]
          exact h₃

/-- The set-up closes its client, unless it fails for the sake of the encryptor. -/
lemma recovers_setUp {url : String} {r : Except Failure Document}
    (h : exec (setUp s url) w = (r, w')) :
    Recovers w w' ∨ encryptorFails w.faults s = true ∧ (∃ e, r = .error e) ∧
      Leaves (· = w.cluster.nextClient (Url.withScheme url)) w w' := by
  generalize hclient : w.cluster.nextClient (Url.withScheme url) = client
  unfold setUp at h
  split at h
  · cases h
    exact .inl (refl w)
  rcases leaves_connect (Url.withScheme url) (clientOptions s) w with
    ⟨f, w₁, hconnect, h₁⟩ | ⟨w₁, hconnect, h₁⟩
  · rw [exec_bind_of_error hconnect] at h
    cases h
    exact .inl h₁
  rw [hclient] at hconnect h₁
  rw [exec_bind_of_ok hconnect] at h
  cases hcreate : exec (Encryptor.create client s.keyVaultNamespace true) w₁ with
  | mk made w₂ =>
    have h₂ : Leaves (· = client) w w₂ :=
      h₁.recovers (rel_of_exec (ConnectionOrder.keeps_encryptorCreate client _ _ w₁) hcreate)
    cases made with
    | error e =>
      rw [exec_bind_of_error hcreate] at h
      cases h
      exact .inr ⟨h₁.faults ▸ encryptorFails_of_create hcreate, ⟨e, rfl⟩, h₂⟩
    | ok encryptor =>
      rw [exec_bind_of_ok hcreate, exec_bind_of_ok (exec_outcome _ w₂)] at h
      cases hwith : exec (setUpWith s client encryptor) w₂ with
      | mk result w₃ =>
        have h₃ : Leaves (· = client) w w₃ :=
          h₂.recovers (rel_of_exec (ConnectionOrder.keeps_setUpWith s client encryptor w₂) hwith)
        rw [hwith] at h
        refine recovers_closing (fun w => ?_) h₃ h
        cases result <;> rfl

end Encryption

/-! ## Pools and contexts -/

/-- Between two worlds every client that was connected has been closed, but for the first one when
the settings ask for encryption and the encryptor fails. -/
abbrev World.RecoversBut (s : Settings) (w w' : World) : Prop :=
  Leaves (fun client => client.number = w.clients.length ∧ s.encryptionMode.isEnabled = true ∧
    Encryption.encryptorFails w.faults s = true) w w'

section Opening

variable {s : Settings} {w₀ w w' : World}

lemma World.Recovers.but (h : Recovers w w') : RecoversBut s w w' :=
  h.mono fun _ => False.elim

/-- Of the options of an endpoint at most the client of the set-up is left, and nothing if they are
made. -/
lemma recoversBut_endpointOptions {url : String} {r : Except Failure Document}
    (h : exec (endpointOptions s (Context.encryption s) url) w = (r, w')) :
    Recovers w w' ∨ (∃ e, r = .error e) ∧ RecoversBut s w w' := by
  unfold endpointOptions Context.encryption at h
  by_cases hmode : s.encryptionMode.isEnabled = true
  · rw [if_pos hmode] at h
    dsimp only at h
    cases hsetUp : exec (Encryption.setUp s url) w with
    | mk made w₁ =>
      have hopen := Encryption.recovers_setUp hsetUp
      cases made with
      | error e =>
        rw [exec_bind_of_error (exec_bind_of_error hsetUp _)] at h
        cases h
        refine hopen.imp_right fun ⟨hfails, he, hleft⟩ => ⟨⟨e, rfl⟩, hleft.mono ?_⟩
        rintro client rfl
        exact ⟨w.length_clients.symm, hmode, hfails⟩
      | ok options =>
        rw [exec_bind_of_ok (exec_bind_of_ok hsetUp _)] at h
        cases h
        refine .inl (hopen.resolve_right fun ⟨_, he, _⟩ => ?_)
        obtain ⟨e, he⟩ := he
        cases he
  · rw [if_neg hmode] at h
    cases h
    exact .inl (refl w)

/-- An endpoint that was opened leaves its client, and one that could not be opened none. -/
lemma leaves_connectAndAnnounce {url : String} {options : Document} {r : Except Failure Endpoint}
    (h : exec (do announce s url (← Client.connect url options)) w = (r, w')) :
    (∃ f, r = .error (.fault f) ∧ Recovers w w') ∨
      ∃ e, r = .ok e ∧ Leaves (· = e.client) w w' := by
  rcases leaves_connect url options w with ⟨f, w₁, hconnect, h₁⟩ | ⟨w₁, hconnect, h₁⟩
  · rw [exec_bind_of_error hconnect] at h
    cases h
    exact .inl ⟨f, rfl, h₁⟩
  · rw [exec_bind_of_ok hconnect] at h
    have hannounce := rel_of_exec (ConnectionOrder.keeps_announce (R := Recovers) s url _ w₁) h
    obtain rfl := announce_eq h
    exact .inr ⟨_, rfl, h₁.recovers hannounce⟩

/-- The endpoints after the first are opened, or all of them are closed. -/
lemma leaves_openFrom_of_ne_nil {servers : List String} {opened : List Endpoint}
    {encryption : Option (String → Action Value)} (hne : opened ≠ [])
    (hopened : Leaves (fun c => ∃ e ∈ opened, c = e.client) w₀ w)
    {r : Except Failure (List Endpoint)}
    (h : exec (Pool.openFrom s encryption opened servers) w = (r, w')) :
    (∃ e, r = .error e ∧ Recovers w₀ w') ∨
      ∃ endpoints, r = .ok endpoints ∧
        Leaves (fun c => ∃ e ∈ endpoints, c = e.client) w₀ w' := by
  induction servers generalizing opened w with
  | nil =>
    cases h
    exact .inr ⟨opened, rfl, hopened⟩
  | cons server rest ih =>
    have hlater : (if opened.isEmpty then encryption else none) = none :=
      if_neg (by simpa using hne)
    cases hopen : exec
        (Pool.openEndpoint s (if opened.isEmpty then encryption else none) server) w with
    | mk r₁ w₁ =>
      have hconnected := hopen
      rw [hlater, openEndpoint_eq] at hconnected
      rcases leaves_connectAndAnnounce hconnected with ⟨f, rfl, h₁⟩ | ⟨e, rfl, h₁⟩
      · left
        have hclosed := (hopened.recovers h₁).closeEndpoints opened
        have hnone : Recovers w₀ ((Pool.closeEndpoints opened).run w₁).2 :=
          hclosed.mono fun c ⟨⟨e, he, hc⟩, hall⟩ => hall e he hc
        rw [openFrom_of_error hopen] at h
        cases h
        exact ⟨_, rfl, hnone⟩
      · rw [openFrom_of_ok hopen] at h
        refine ih (by simp) ?_ h
        refine (hopened.trans h₁).mono ?_
        rintro c (⟨e', he', rfl⟩ | rfl)
        · exact ⟨e', List.mem_append_left _ he', rfl⟩
        · exact ⟨e, by simp, rfl⟩

/-- The first endpoint leaves its client, and if it could not be opened at most that of the
set-up. -/
lemma recoversBut_openEndpoint {server : String} {r : Except Failure Endpoint}
    (h : exec (Pool.openEndpoint s (Context.encryption s) server) w = (r, w')) :
    (∃ f, r = .error f ∧ RecoversBut s w w') ∨ ∃ e, r = .ok e ∧ Leaves (· = e.client) w w' := by
  rw [openEndpoint_eq] at h
  dsimp only at h
  cases hopts : exec (endpointOptions s (Context.encryption s)
      (Url.embed server s.credentials.authority)) w with
  | mk made w₁ =>
    have hoptions := recoversBut_endpointOptions hopts
    cases made with
    | error f =>
      rw [exec_bind_of_error hopts] at h
      cases h
      exact .inl ⟨f, rfl, hoptions.elim Recovers.but And.right⟩
    | ok options =>
      have hrecovers : Recovers w w₁ := hoptions.resolve_right fun ⟨⟨_, hf⟩, _⟩ => by cases hf
      rw [exec_bind_of_ok hopts] at h
      rcases leaves_connectAndAnnounce h with ⟨f, rfl, h₂⟩ | ⟨e, rfl, h₂⟩
      · exact .inl ⟨_, rfl, Recovers.but (hrecovers.recovers h₂)⟩
      · exact .inr ⟨e, rfl, hrecovers.leaves h₂⟩

/-- When a pool cannot be opened, nothing is left but the client of the set-up, if the encryptor
failed. -/
lemma recoversBut_openFrom {servers : List String} {e : Failure}
    (h : exec (Pool.openFrom s (Context.encryption s) [] servers) w = (.error e, w')) :
    RecoversBut s w w' := by
  cases servers with
  | nil => cases h
  | cons server rest =>
    cases hopen : exec (Pool.openEndpoint s
        (if ([] : List Endpoint).isEmpty then Context.encryption s else none) server) w with
    | mk r w₁ =>
      rcases recoversBut_openEndpoint hopen with ⟨f, rfl, h₁⟩ | ⟨endpoint, rfl, h₁⟩
      · -- Nothing is open yet, so there is nothing to close.
        have hnothing : ((Pool.closeEndpoints []).run w₁).2 = w₁ := rfl
        rw [openFrom_of_error hopen, hnothing, ite_self] at h
        cases h
        exact h₁
      · rw [openFrom_of_ok hopen] at h
        have hopened : Leaves (fun c => ∃ e ∈ [endpoint], c = e.client) w w₁ :=
          h₁.mono fun c hc => ⟨endpoint, by simp, hc⟩
        rcases leaves_openFrom_of_ne_nil (by simp) hopened h with ⟨_, -, h₂⟩ | ⟨_, hok, -⟩
        · exact h₂.but
        · cases hok

lemma recoversBut_openPool {e : Failure} (h : exec (Context.openPool s) w = (.error e, w')) :
    RecoversBut s w w' := by
  unfold Context.openPool Pool.create at h
  rw [exec_bind_of_ok (exec_outcome _ w)] at h
  cases hopen : exec (Pool.openFrom s (Context.encryption s) [] s.endpoints) w with
  | mk r w₁ =>
    cases r with
    | ok endpoints =>
      rw [exec_bind_of_ok hopen] at h
      cases h
    | error f =>
      have hleft := recoversBut_openFrom hopen
      rw [exec_bind_of_error hopen] at h
      dsimp only at h
      split at h
      · cases h
        exact hleft
      · exact hleft.recovers (rel_of_exec (keeps_fatal _ _ w₁) h)

/-- A context that could not be created has closed what it connected, but for the client of the
set-up when the encryptor failed. -/
lemma recoversBut_create {bag : Bag} {e : Failure}
    (h : exec (Context.create bag) w = (.error e, w')) :
    Recovers w w' ∨ ∃ s, (Settings.resolve bag).1 = .ok s ∧ RecoversBut s w w' := by
  cases hs : (Settings.resolve bag).1 with
  | refused problems =>
    obtain ⟨entries, hrefused⟩ := exec_create_of_refused hs w
    rw [hrefused] at h
    cases h
    exact .inl (ConnectionOrder.of_silent (R := Recovers) rfl rfl rfl rfl rfl)
  | ok s =>
    rw [exec_create_of_resolve hs] at h
    cases hpool : exec (Context.openPool s)
        { w with entries := w.entries ++ (Settings.resolve bag).2 } with
    | mk r w₁ =>
      cases r with
      | ok p =>
        rw [exec_bind_of_ok hpool] at h
        cases h
      | error f =>
        rw [exec_bind_of_error hpool] at h
        cases h
        have hleft := recoversBut_openPool hpool
        exact .inr ⟨s, rfl, hleft.clients, hleft.faults⟩

end Opening

/-! ## Acquisitions -/

namespace Harness

/-- Whatever the bag, the store and the faults that it shows: when a context cannot be acquired,
every client that was connected for it has been closed by then, but for the first one when the
settings ask for encryption and the encryptor fails. -/
theorem closed_of_acquire_error {h h' : Harness} {name : String} {bag : Bag} {e : Failure}
    (hfail : h.acquire name bag = (.error e, h')) :
    ∃ issued clients, h'.world.calls = h.world.calls ++ issued ∧
      h'.world.clients = h.world.clients ++ clients ∧
      ∀ client ∈ clients, Call.close client ∈ issued ∨
        client.number = h.world.clients.length ∧
          ∃ s, (Settings.resolve bag).1 = .ok s ∧ s.encryptionMode.isEnabled = true ∧
            Encryption.encryptorFails h.world.faults s = true := by
  cases hcontext : (h.provider name).context with
  | some number =>
    rw [acquire_of_context hcontext] at hfail
    cases hfail
  | none =>
    cases hmade : exec (Context.create bag) h.world with
    | mk r world =>
      cases r with
      | ok c =>
        rw [acquire_of_ok hcontext hmade] at hfail
        cases hfail
      | error f =>
        rw [acquire_of_error hcontext hmade] at hfail
        cases hfail
        rcases recoversBut_create hmade with hnone | ⟨s, hs, hleft⟩
        · obtain ⟨issued, clients, hi, hc, hclosed⟩ := hnone.clients
          exact ⟨issued, clients, hi, hc, fun client hm => (hclosed client hm).imp_right False.elim⟩
        · obtain ⟨issued, clients, hi, hc, hclosed⟩ := hleft.clients
          refine ⟨issued, clients, hi, hc, fun client hm => (hclosed client hm).imp_right ?_⟩
          rintro ⟨hnumber, hmode, hfails⟩
          exact ⟨hnumber, s, hs, hmode, hfails⟩

/-- A provider whose deployment shows a fault at one address. -/
def faultyAt (address : String) : Harness :=
  start {} {} [(address, ⟨.unreachable, "lost"⟩)] "p" []

/-- The bag of an encrypted run on two endpoints. -/
def encryptedPair : Bag :=
  [("mongodb.fle", .text "true"), ("mongodb.url", .text "mongodb://h1|mongodb://h2")]

/-- When the second endpoint cannot be reached, the client that provided the data key and the client
of the first endpoint have both been closed. -/
theorem closed_of_acquire_error_secondEndpoint :
    ∃ e h' issued,
      (faultyAt "connect:mongodb://h2").acquire "p" encryptedPair = (.error e, h') ∧
      h'.world.calls = issued ∧
      h'.world.clients = [⟨0, "mongodb://h1"⟩, ⟨1, "mongodb://h1"⟩] ∧
      ∀ client ∈ h'.world.clients, Call.close client ∈ issued := by
  have hclients : ((faultyAt "connect:mongodb://h2").acquire "p" encryptedPair).2.world.clients =
      [⟨0, "mongodb://h1"⟩, ⟨1, "mongodb://h1"⟩] := by decide +kernel
  have hfails : ((faultyAt "connect:mongodb://h2").acquire "p" encryptedPair).1.isOk = false := by
    decide +kernel
  cases hfail : (faultyAt "connect:mongodb://h2").acquire "p" encryptedPair with
  | mk r h' =>
    rw [hfail] at hclients hfails
    cases r with
    | ok number => cases hfails
    | error e =>
      obtain ⟨issued, clients, hissued, hnew, hclosed⟩ := closed_of_acquire_error hfail
      refine ⟨e, h', issued, rfl, hissued, hclients, fun client hm => ?_⟩
      have hm' : client ∈ clients := by
        rw [hnew] at hm
        exact hm
      refine (hclosed client hm').resolve_right ?_
      rintro ⟨-, s, hs, -, hencryptor⟩
      have hsound : (Settings.resolve encryptedPair).1.value?.map
          (Encryption.encryptorFails (faultyAt "connect:mongodb://h2").world.faults) =
          some false := by decide +kernel
      rw [hs, Reading.value?_ok, Option.map_some, hencryptor] at hsound
      cases hsound

/-- An encryptor that cannot be opened, and one that cannot be closed: the acquisition fails, and
nothing closes the client that was connected for the data key. -/
theorem encryptor_fault_leaves_client :
    (((faultyAt "client_encryption:ycsb.datakeys").acquire "p" encryptedPair).1.isOk = false ∧
      ((faultyAt "client_encryption:ycsb.datakeys").acquire "p" encryptedPair).2.world.clients =
        [⟨0, "mongodb://h1"⟩] ∧
      ((faultyAt "client_encryption:ycsb.datakeys").acquire "p" encryptedPair).2.world.calls.any
        Call.isClose = false) ∧
    (((faultyAt "close_encryption:").acquire "p" encryptedPair).1.isOk = false ∧
      ((faultyAt "close_encryption:").acquire "p" encryptedPair).2.world.clients =
        [⟨0, "mongodb://h1"⟩] ∧
      ((faultyAt "close_encryption:").acquire "p" encryptedPair).2.world.calls.any
        Call.isClose = false) := by
  decide +kernel

end Harness

end LoadBinding
