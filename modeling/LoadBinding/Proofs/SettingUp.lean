import LoadBinding.Proofs.Consulting
import LoadBinding.Proofs.Searching

/-!
# Setting up the encryption in a calm deployment

A deployment is calm if no call shows a fault, except that the creation of a collection may.  The
calls of a set-up then succeed, and what becomes of the set-up is decided by the work that it does
with its client (`Encryption.exec_setUp_of_isCalm`).  Its client and its encryptor are closed
whatever that is (`Encryption.closesBoth_setUp`).
-/

namespace LoadBinding

open LoadBinding.Action World

/-! ## Calm deployments -/

/-- The address of the creation of a collection. -/
def creationAddress (name : String) : String :=
  "create_collection" ++ ":" ++ name

namespace Call

/-- Whether a call creates a collection. -/
def createsCollection : Call → Bool
  | createCollection _ _ _ => true
  | _ => false

/-- The name of what is asked has no colon. -/
lemma not_mem_method (call : Call) : ':' ∉ call.method.toList := by
  cases call <;> simp [method]

/-- The address of a call begins with the name of what is asked. -/
lemma takeWhile_address (call : Call) :
    call.address.toList.takeWhile (· != ':') = call.method.toList := by
  have hall := Text.bne_of_not_mem call.not_mem_method
  have hcolon : ":".toList = [':'] := rfl
  rw [address, String.toList_append, String.toList_append, hcolon, List.append_assoc,
    List.takeWhile_append_of_pos hall]
  simp

/-- Calls for different things have different addresses. -/
lemma method_eq_of_address_eq {call call' : Call} (h : call.address = call'.address) :
    call.method = call'.method := by
  rw [← String.toList_inj, ← takeWhile_address, h, takeWhile_address]

/-- A call at the address of the creation of a collection creates one. -/
lemma createsCollection_of_address_eq {call : Call} {name : String}
    (h : call.address = creationAddress name) : call.createsCollection = true := by
  have hcreation : (createCollection "" name []).address = creationAddress name := rfl
  have hmethod := method_eq_of_address_eq (h.trans hcreation.symm)
  cases call <;> first | rfl | simp [method] at hmethod

end Call

/-- No call shows a fault but those that create a collection. -/
def World.IsCalm (w : World) : Prop :=
  ∀ call : Call, call.createsCollection = false → w.faults.get? call.address = none

namespace World

variable {w w' : World}

/-- The creation of one collection may show a fault. -/
lemma isCalm_of_address {name : String}
    (h : ∀ address f, w.faults.get? address = some f → address = creationAddress name) :
    w.IsCalm := by
  intro call hcall
  cases hf : w.faults.get? call.address with
  | none => rfl
  | some f =>
    rw [Call.createsCollection_of_address_eq (h _ f hf)] at hcall
    cases hcall

/-- The world after a client was connected. -/
def connected (w : World) (url : String) (options : Document) : World :=
  { w.noted (.connect (w.cluster.nextClient url) options) with cluster := w.cluster.connect url }

/-- The world after a client was closed. -/
def disconnected (w : World) (client : Client) : World :=
  { w.noted (.close client) with cluster := w.cluster.close client }

/-- The world after an encryptor was opened for some settings. -/
def withEncryptor (w : World) (s : Settings) (client : Client) : World :=
  (w.noted (.openEncryption s.keyVaultNamespace keyProviders true)).lookedUp
    (Encryption.vault s client)

lemma IsCalm.of_faults (hw : w.IsCalm) (hf : w'.faults = w.faults) : w'.IsCalm := by
  intro call hcall
  rw [hf]
  exact hw call hcall

end World

section Calls

variable {w : World}

lemma exec_record_of_isCalm (hw : w.IsCalm) {call : Call} (h : call.createsCollection = false) :
    exec (record call) w = (.ok (), w.noted call) :=
  exec_record_of_no_fault (hw call h)

lemma exec_use_of_isCalm (hw : w.IsCalm) (client : Client) (database name : String) :
    exec (client.use database name) w =
      (.ok ⟨client, database, name⟩, w.lookedUp ⟨client, database, name⟩) :=
  exec_use_of_no_fault (hw (.use ⟨client, database, name⟩) rfl)

lemma exec_connect_of_isCalm (hw : w.IsCalm) (url : String) (options : Document) :
    exec (Client.connect url options) w =
      (.ok (w.cluster.nextClient url), w.connected url options) := by
  rcases exec_connect url options w with ⟨f, hf, -⟩ | ⟨-, h⟩
  · rw [hw _ rfl] at hf
    cases hf
  · exact h

lemma exec_close_of_isCalm (hw : w.IsCalm) (client : Client) :
    exec client.close w = (.ok (), w.disconnected client) := by
  unfold Client.close
  rw [exec_bind_of_ok (exec_record_of_isCalm hw rfl), exec_modifyCluster]
  rfl

lemma exec_encryptorCreate_of_isCalm (hw : w.IsCalm) (s : Settings) (client : Client) :
    exec (Encryptor.create client s.keyVaultNamespace true) w =
      (.ok ⟨Encryption.vault s client⟩, w.withEncryptor s client) := by
  have hopened : (w.noted (.openEncryption s.keyVaultNamespace keyProviders true)).IsCalm :=
    hw.of_faults rfl
  rw [encryptorCreate_eq, exec_bind_of_ok (exec_record_of_isCalm hw rfl),
    exec_bind_of_ok (exec_use_of_isCalm hopened _ _ _)]
  rfl

lemma exec_encryptorClose_of_isCalm (hw : w.IsCalm) (e : Encryptor) :
    exec e.close w = (.ok (), w.noted .closeEncryption) :=
  exec_record_of_isCalm hw rfl

/-- Any document is found first. -/
lemma findOne_nil_eq (x : Collection) :
    x.findOne [] none = .ok (x.rows.head?.map Row.doc) := by
  unfold Collection.findOne
  cases x.rows <;> rfl

lemma exec_findOne_of_isCalm (hw : w.IsCalm) (t : Target) :
    exec (t.findOne [] none) w =
      (.ok ((t.content w.cluster).rows.head?.map Row.doc), w.noted (.findOne t [] none)) := by
  unfold Target.findOne
  rw [exec_bind_of_ok (exec_record_of_isCalm hw rfl), exec_bind_of_ok (exec_get _),
    World.noted_cluster, findOne_nil_eq]
  rfl

lemma exec_insertOne_of_isCalm (hw : w.IsCalm) {t : Target} {doc : Document} {x : Collection}
    (h : (t.content w.cluster).insert doc = .ok x) :
    exec (t.insertOne doc) w = (.ok (), (w.noted (.insertOne t doc)).put t x) := by
  unfold Target.insertOne
  rw [exec_bind_of_ok (exec_record_of_isCalm hw rfl), exec_bind_of_ok (exec_get _),
    World.noted_cluster, h]
  rfl

lemma exec_countDocuments_of_isCalm (hw : w.IsCalm) (t : Target) :
    exec t.countDocuments w =
      (.ok (w.rows t.database t.collection).length, w.noted (.countDocuments t)) := by
  unfold Target.countDocuments
  rw [exec_bind_of_ok (exec_record_of_isCalm hw rfl), exec_bind_of_ok (exec_get _)]
  rfl

end Calls

/-! ## Around the work of the set-up -/

namespace World

/-- Between two worlds no connection was opened or closed. -/
structure KeepsLinks (w w' : World) : Prop where
  calls : ∃ issued, w'.calls = w.calls ++ issued ∧
    ∀ call ∈ issued, call.isConnect = false ∧ call.isClose = false
  connections : w'.cluster.connections = w.cluster.connections
  faults : w'.faults = w.faults

instance : ConnectionOrder KeepsLinks where
  refl _ := ⟨⟨[], by simp, by simp⟩, rfl, rfl⟩
  trans := by
    rintro w w' w'' ⟨⟨i, hi, pi⟩, hn, hf⟩ ⟨⟨j, hj, pj⟩, hn', hf'⟩
    refine ⟨⟨i ++ j, by rw [hj, hi, List.append_assoc], fun call hcall => ?_⟩, hn'.trans hn,
      hf'.trans hf⟩
    exact (List.mem_append.mp hcall).elim (pi call) (pj call)
  of_silent hc hn hf _ _ := ⟨⟨[], by simpa using hc, by simp⟩, hn, hf⟩
  of_noted w call hn hc := ⟨⟨[call], rfl, by simp [hn, hc]⟩, rfl, rfl⟩

end World

namespace Encryption

variable {s : Settings} {w : World}

/-- What the set-up is about to work on, once its client is connected and its encryptor opened. -/
def opened (s : Settings) (url : String) (w : World) : World :=
  (w.connected (Url.withScheme url) (clientOptions s)).withEncryptor s
    (w.cluster.nextClient (Url.withScheme url))

/-- In a calm deployment the set-up fails or succeeds as its work does, and closes the encryptor and
the client in both cases. -/
lemma exec_setUp_of_isCalm (hmode : s.encryptionMode.isEnabled = true) (hw : w.IsCalm)
    (url : String) {client : Client} (hclient : w.cluster.nextClient (Url.withScheme url) = client)
    {r : Except Failure Document} {w' : World}
    (hwith : exec (setUpWith s client ⟨vault s client⟩) (opened s url w) = (r, w')) :
    exec (setUp s url) w = (r, (w'.noted .closeEncryption).disconnected client) := by
  subst hclient
  have hconnected : (w.connected (Url.withScheme url) (clientOptions s)).IsCalm :=
    hw.of_faults rfl
  have hopened : (opened s url w).IsCalm := hw.of_faults rfl
  have hworked : w'.IsCalm := hopened.of_faults
    (rel_of_exec (ConnectionOrder.keeps_setUpWith (R := KeepsLinks) s _ _ _) hwith).faults
  have hclosed : (w'.noted .closeEncryption).IsCalm := hworked.of_faults rfl
  unfold setUp
  rw [hmode, Bool.not_true, if_neg Bool.false_ne_true,
    exec_bind_of_ok (exec_connect_of_isCalm hw _ _),
    exec_bind_of_ok (exec_encryptorCreate_of_isCalm hconnected s _),
    exec_bind_of_ok (exec_outcome _ _)]
  unfold opened at hwith
  rw [hwith]
  dsimp only
  rw [exec_bind_of_ok (exec_encryptorClose_of_isCalm hworked _),
    exec_bind_of_ok (exec_close_of_isCalm hclosed _)]
  cases r <;> rfl

/-- Between two worlds a set-up has connected its client and opened its encryptor, and in the end it
has closed both.  No other connection was opened or closed. -/
structure ClosesBoth (s : Settings) (url : String) (w w' : World) : Prop where
  calls : ∃ client issued, client = w.cluster.nextClient (Url.withScheme url) ∧
    w'.calls = w.calls ++ .connect client (clientOptions s) ::
      .openEncryption s.keyVaultNamespace keyProviders true :: issued ++
        [.closeEncryption, .close client] ∧
    ∀ call ∈ issued, call.isConnect = false ∧ call.isClose = false
  connections : w'.cluster.connections = w.cluster.connections ++ [⟨Url.withScheme url, true⟩]
  faults : w'.faults = w.faults

lemma closesBoth_setUp (hmode : s.encryptionMode.isEnabled = true) (hw : w.IsCalm) (url : String) :
    ClosesBoth s url w (exec (setUp s url) w).2 := by
  set client := w.cluster.nextClient (Url.withScheme url) with hclient
  cases hwith : exec (setUpWith s client ⟨vault s client⟩) (opened s url w) with
  | mk r w' =>
    obtain ⟨⟨issued, hissued, hplain⟩, hconnections, hfaults⟩ :=
      rel_of_exec (ConnectionOrder.keeps_setUpWith (R := KeepsLinks) s client ⟨vault s client⟩ _)
        hwith
    have hopen : (opened s url w).cluster.connections =
        w.cluster.connections ++ [⟨Url.withScheme url, false⟩] := rfl
    rw [exec_setUp_of_isCalm hmode hw url rfl hwith]
    refine ⟨⟨client, .use (vault s client) :: issued, hclient, ?_, ?_⟩, ?_, hfaults⟩
    · change w'.calls ++ [Call.closeEncryption] ++ [Call.close client] = _
      rw [hissued]
      simp [opened, connected, withEncryptor, lookedUp, hclient]
    · intro call hcall
      rcases List.mem_cons.mp hcall with rfl | hcall
      · exact ⟨rfl, rfl⟩
      · exact hplain call hcall
    · change (w'.cluster.close client).connections = _
      unfold Cluster.close
      rw [hconnections, hopen, hclient]
      simp [Cluster.nextClient, List.modify_eq_set_getElem?]

end Encryption

end LoadBinding
