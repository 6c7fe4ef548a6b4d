import LoadBinding.Proofs.Consulting

/-!
# Sharding over several attempts

The set-up of queryable encryption creates its collection and, when asked to, shards it by two
administrative commands.  A later attempt finds the collection and leaves it as it is.  So what an
attempt leaves behind that failed in between decides whether the collection is ever sharded.

`Encryption.Progress` says how far the sharding has come: the collection does not exist and no
command was sent; or it exists and both commands have completed; or it exists and a command has
failed.  Nothing that is done to acquire a context leads out of these three (`ShardedSoFar.run`),
and a context is only acquired when the collection exists.

The main result follows: when a context was acquired and all commands that were sent have completed,
these are the two commands.  It excludes a collection that is the key vault itself, which exists as
soon as it holds the data key.  The third case does occur, and later attempts then succeed without
sharding.
-/

namespace LoadBinding

open LoadBinding.Action World

/-- The administrative commands that have been sent, whether or not they have completed. -/
def World.sentCommands (w : World) : List Command :=
  w.calls.filterMap Call.command?

/-- With queryable encryption asked for, accepted settings do not ask for legacy encryption. -/
lemma Settings.encryptionMode_of_useQueryable {bag : Bag} {s : Settings}
    (hs : (Settings.resolve bag).1 = .ok s) (hq : s.useQueryable = true) :
    s.encryptionMode = .queryable := by
  have hlegacy : s.useLegacy = false := by
    have hc := (of_validate hs).2
    unfold conflict? at hc
    by_contra hne
    rw [if_pos (by simpa [hq] using hne)] at hc
    cases hc
  simp [encryptionMode, hlegacy, hq]

namespace Encryption

variable {s : Settings} {completed : List Command} {w w' w'' : World}

/-- The command that lets the database of some settings be sharded. -/
def enableSharding (s : Settings) : Command :=
  ⟨Client.adminDatabase, ["enableSharding", s.database], []⟩

/-- The command that shards the collection of some settings. -/
def shardCollection (s : Settings) : Command :=
  ⟨Client.adminDatabase, ["shardCollection", s.dataNamespace],
    [("key", .document [(idField, .text "hashed")])]⟩

/-- The collection of some settings exists. -/
def Exists (s : Settings) (w : World) : Prop :=
  w.cluster.Lists s.database s.collection

/-- How far the sharding of a collection has come, in a deployment that had completed some commands
before. -/
inductive Progress (s : Settings) (completed : List Command) (w : World) : Prop
  | untouched (lacks : w.cluster.Lacks s.database s.collection)
      (commands : w.cluster.commands = completed) (sent : w.sentCommands = [])
  | sharded (found : Exists s w)
      (commands : w.cluster.commands = completed ++ [enableSharding s, shardCollection s])
      (sent : w.sentCommands.length = 2)
  | interrupted (found : Exists s w)
      (failed : w.cluster.commands.length < completed.length + w.sentCommands.length)

/-- Between two worlds no command was sent, and the collection of some settings was neither created
nor removed. -/
structure Spares (s : Settings) (w w' : World) : Prop where
  commands : w'.cluster.commands = w.cluster.commands
  sent : w'.sentCommands = w.sentCommands
  found : Exists s w → Exists s w'
  lacks : w.cluster.Lacks s.database s.collection → w'.cluster.Lacks s.database s.collection

/-- Between two worlds the sharding of the collection of some settings has at most come on. -/
structure Advances (s : Settings) (w w' : World) : Prop where
  progress : ∀ completed, Progress s completed w → Progress s completed w'
  found : Exists s w → Exists s w'

instance : DataOrder (Spares s) where
  refl _ := ⟨rfl, rfl, id, id⟩
  trans _ _ _ h h' :=
    ⟨h'.commands.trans h.commands, h'.sent.trans h.sent, h'.found ∘ h.found, h'.lacks ∘ h.lacks⟩
  of_consults := by
    intro w w' h
    obtain ⟨issued, hi, hplain⟩ := h.calls
    have hnone : issued.filterMap Call.command? = [] :=
      List.filterMap_eq_nil_iff.mpr fun call hcall => (hplain call hcall).command
    refine ⟨h.data.commands, ?_, h.data.lists _ _, h.data.lacks _ _⟩
    rw [sentCommands, hi, List.filterMap_append, hnone, List.append_nil]
    rfl

lemma Spares.advances (h : Spares s w w') : Advances s w w' := by
  refine ⟨fun completed hp => ?_, h.found⟩
  cases hp with
  | untouched hl hc hs => exact .untouched (h.lacks hl) (h.commands.trans hc) (h.sent.trans hs)
  | sharded hf hc hs => exact .sharded (h.found hf) (h.commands.trans hc) (by rw [h.sent, hs])
  | interrupted hf hfailed => exact .interrupted (h.found hf) (by rwa [h.commands, h.sent])

instance : DataOrder (Advances s) where
  refl _ := ⟨fun _ => id, id⟩
  trans _ _ _ h h' := ⟨fun c => h'.progress c ∘ h.progress c, h'.found ∘ h.found⟩
  of_consults h := Spares.advances (DataOrder.of_consults h)

/-! ## The data key -/

/-- A call that is no command spares the collection. -/
lemma spares_noted {call : Call} (h : call.command? = none) (w : World) :
    Spares s w (w.noted call) := by
  refine ⟨rfl, ?_, id, id⟩
  simp [sentCommands, h]

lemma spares_record {call : Call} (h : call.command? = none) :
    Keeps (Spares s) (attempt (record call)) := by
  intro w
  rw [run_attempt, exec_record]
  exact spares_noted h w

/-- A data key that is stored elsewhere spares the collection. -/
lemma spares_createKey {encryptor : Encryptor}
    (hvault : (encryptor.vault.database, encryptor.vault.collection) ≠ (s.database, s.collection))
    (provider : String) : Keeps (Spares s) (attempt (encryptor.createKey provider)) := by
  have hput : ∀ x, Keeps (Spares s) (attempt (encryptor.vault.put x)) := by
    intro x w
    have hother : (encryptor.vault.database, encryptor.vault.collection) =
        (s.database, s.collection) → x = w.cluster.collection s.database s.collection :=
      fun heq => absurd heq hvault
    exact ⟨rfl, rfl, fun h => h.setCollection hother, fun h => h.setCollection hother⟩
  exact Encryptor.keeps_createKey (spares_record rfl) fun _ =>
    Target.keeps_insertOne (spares_record rfl) hput

/-! ## The collection -/

/-- Sending a command is recorded; the command is only completed if it does not fail. -/
lemma command_cases (client : Client) (name : String) (arguments : List String)
    (options : Document) (hf : Exists s w) :
    ∃ r w', exec (client.command name arguments options) w = (r, w') ∧ Exists s w' ∧
      w'.sentCommands.length = w.sentCommands.length + 1 ∧
      ((∃ e, r = .error e) ∧ w'.cluster.commands = w.cluster.commands ∨
        r = .ok () ∧ w'.cluster.commands =
          w.cluster.commands ++ [⟨Client.adminDatabase, name :: arguments, options⟩]) := by
  have hused : (w.cluster.useDatabase Client.adminDatabase).Lists s.database s.collection :=
    (Cluster.SameData.useDatabase w.cluster _).lists _ _ hf
  rcases exec_command client name arguments options w with ⟨e, he⟩ | ⟨w', hok, hcalls, hcluster⟩
  · refine ⟨_, _, he, hused, ?_, .inl ⟨⟨e, rfl⟩, rfl⟩⟩
    simp [sentCommands, Call.command?, inDatabase]
  · refine ⟨_, w', hok, ?_, ?_, .inr ⟨rfl, by rw [hcluster]⟩⟩
    · rw [Exists, hcluster]
      exact hused
    · simp [sentCommands, hcalls, Call.command?]

/-- A collection that was just created is sharded, or a command has failed. -/
lemma progress_shard (client : Client) (hf : Exists s w) :
    Exists s (exec (shard s client) w).2 ∧
      (w.sentCommands = [] → Progress s w.cluster.commands (exec (shard s client) w).2) := by
  obtain ⟨r₁, w₁, h₁, hf₁, hsent₁, hc₁⟩ := command_cases client "enableSharding" [s.database] [] hf
  unfold shard
  rcases hc₁ with ⟨⟨e, rfl⟩, hc₁⟩ | ⟨rfl, hc₁⟩
  · rw [exec_bind_of_error h₁]
    refine ⟨hf₁, fun hsent => .interrupted hf₁ ?_⟩
    rw [hsent] at hsent₁
    simp [hc₁, hsent₁]
  · obtain ⟨r₂, w₂, h₂, hf₂, hsent₂, hc₂⟩ := command_cases client "shardCollection"
      [s.dataNamespace] [("key", .document [(idField, .text "hashed")])] hf₁
    rw [exec_bind_of_ok h₁]
    rcases hc₂ with ⟨⟨e, rfl⟩, hc₂⟩ | ⟨rfl, hc₂⟩
    · rw [exec_bind_of_error h₂]
      refine ⟨hf₂, fun hsent => .interrupted hf₂ ?_⟩
      rw [hsent] at hsent₁
      simp [hc₂, hc₁, hsent₂, hsent₁]
    · rw [exec_bind_of_ok h₂]
      refine ⟨hf₂, fun hsent => .sharded hf₂ ?_ ?_⟩
      · change w₂.cluster.commands = _
        rw [hc₂, hc₁, List.append_assoc]
        rfl
      · change w₂.sentCommands.length = 2
        rw [hsent₂, hsent₁, hsent]
        rfl

/-- Once it has been created, the collection exists. -/
lemma exists_createCollection (client : Client) (options : Document) (w : World) :
    ∃ r w', exec (client.createCollection s.database s.collection options) w = (r, w') ∧
      w'.cluster.commands = w.cluster.commands ∧ w'.sentCommands = w.sentCommands ∧
      ((∃ e, r = .error e) ∧ Spares s w w' ∨ r = .ok () ∧ Exists s w') := by
  have hused : Spares s w (w.inDatabase s.database) :=
    DataOrder.of_consults ⟨⟨[], by simp [inDatabase], by simp⟩, .useDatabase w.cluster _⟩
  have hspares : Spares s w ((w.inDatabase s.database).noted
      (.createCollection s.database s.collection options)) :=
    IsTrans.trans _ _ _ hused (spares_noted rfl _)
  rcases exec_createCollection client s.database s.collection options w with
    ⟨e, he⟩ | ⟨cluster, hcreate, hok⟩
  · exact ⟨_, _, he, hspares.commands, hspares.sent, .inl ⟨⟨e, rfl⟩, hspares⟩⟩
  · have hcommands : cluster.commands = w.cluster.commands := by
      rw [(Cluster.createCollection_eq_ok hcreate).2]
      rfl
    exact ⟨_, _, hok, hcommands, hspares.sent, .inr ⟨rfl, Cluster.lists_createCollection hcreate⟩⟩

/-- Where the collection does not exist, it is created and sharded, as far as nothing fails. -/
lemma advances_createQueryable (hsharded : s.sharded = true) (client : Client) (key : KeyId)
    (hnew : ¬ Exists s w) {r : Except Failure Document}
    (h : exec (createQueryable s client key) w = (r, w')) :
    Advances s w w' ∧ (r.isOk = true → Exists s w') := by
  let fields := Schema.queryableFields key s.encryptedFields s.encoding s.contentionFactors
  obtain ⟨made, w₁, h₁, hc₁, hsent₁, hcase⟩ :=
    exists_createCollection (s := s) client [("encryptedFields", .document fields)] w
  unfold createQueryable at h
  dsimp only at h
  rcases hcase with ⟨⟨e, rfl⟩, hspares⟩ | ⟨rfl, hf₁⟩
  · rw [exec_bind_of_error h₁] at h
    cases h
    exact ⟨hspares.advances, fun hok => by cases hok⟩
  · rw [exec_bind_of_ok h₁, exec_bind_of_ok (exec_liftM _ _), if_pos hsharded] at h
    set w₂ := ((log .info logSource
      s!"Created queryable encrypted collection '{s.dataNamespace}'").run w₁).2
    have hend : (exec (shard s client) w₂).2 = w' := by
      rw [exec_bind] at h
      cases hshard : exec (shard s client) w₂ with
      | mk sharded w₃ =>
        rw [hshard] at h
        cases sharded <;> cases h <;> rfl
    obtain ⟨hf', hprogress⟩ := progress_shard (w := w₂) client hf₁
    rw [hend] at hf' hprogress
    refine ⟨⟨fun completed hp => ?_, fun _ => hf'⟩, fun _ => hf'⟩
    cases hp with
    | untouched _ hc hsent =>
      have hcommands : w₂.cluster.commands = completed := hc₁.trans hc
      rw [← hcommands]
      exact hprogress (hsent₁.trans hsent)
    | sharded hf _ _ => exact absurd hf hnew
    | interrupted hf _ => exact absurd hf hnew

/-- A list of collections names those that exist. -/
lemma listCollections_eq_ok {client : Client} {database : String} {names : List String}
    (h : exec (client.listCollections database) w = (.ok names, w')) :
    names = (w'.cluster.database database).listed := by
  unfold Client.listCollections at h
  obtain ⟨_, _, _, h⟩ := exec_bind_eq_ok h
  obtain ⟨_, _, _, h⟩ := exec_bind_eq_ok h
  obtain ⟨_, _, hget, h⟩ := exec_bind_eq_ok h
  cases hget
  cases h
  rfl

/-- Setting up queryable encryption succeeds only if the collection exists in the end. -/
lemma advances_setUpQueryable (hsharded : s.sharded = true) {client : Client} {key : KeyId}
    {r : Except Failure Document} (h : exec (setUpQueryable s client key) w = (r, w')) :
    Advances s w w' ∧ (r.isOk = true → Exists s w') := by
  unfold setUpQueryable at h
  cases hlist : exec (client.listCollections s.database) w with
  | mk listed w₁ =>
    have h₁ : Advances s w w₁ :=
      rel_of_exec (keeps_of_consults (consults_listCollections client s.database) w) hlist
    cases listed with
    | error e =>
      rw [exec_bind_of_error hlist] at h
      cases h
      exact ⟨h₁, fun hok => by cases hok⟩
    | ok names =>
      rw [exec_bind_of_ok hlist] at h
      obtain rfl := listCollections_eq_ok hlist
      split at h
      · rename_i hmem
        have hf : Exists s w₁ := List.contains_iff_mem.mp hmem
        cases h
        exact ⟨IsTrans.trans _ _ _ h₁ (keeps_log _ _ _ w₁), fun _ => hf⟩
      · rename_i hmem
        have hnew : ¬ Exists s w₁ := fun hf => hmem (List.contains_iff_mem.mpr hf)
        cases hcreate : exec (createQueryable s client key) w₁ with
        | mk made w₂ =>
          obtain ⟨hadvances, hexists⟩ := advances_createQueryable hsharded client key hnew hcreate
          cases made with
          | error e =>
            rw [exec_bind_of_error hcreate] at h
            cases h
            exact ⟨IsTrans.trans _ _ _ h₁ hadvances, fun hok => by cases hok⟩
          | ok fields =>
            rw [exec_bind_of_ok hcreate] at h
            cases h
            exact ⟨IsTrans.trans _ _ _ h₁ hadvances, fun _ => hexists rfl⟩

/-! ## The set-up -/

/-- Settings that ask for a sharded collection with queryable encryption, other than the key
vault. -/
structure ShardsData (s : Settings) : Prop where
  mode : s.encryptionMode = .queryable
  sharded : s.sharded = true
  apart : Encryptor.splitNamespace s.keyVaultNamespace ≠ (s.database, s.collection)

namespace ShardsData

/-- The work of the set-up with its client succeeds only if the collection exists in the end. -/
lemma advances_setUpWith (hs : ShardsData s) {client : Client} {encryptor : Encryptor}
    (hvault : encryptor.vault = vault s client) {r : Except Failure Document}
    (h : exec (setUpWith s client encryptor) w = (r, w')) :
    Advances s w w' ∧ (r.isOk = true → Exists s w') := by
  have hother : (encryptor.vault.database, encryptor.vault.collection) ≠
      (s.database, s.collection) := by
    rw [hvault]
    exact hs.apart
  rcases setUpWith_cases h with ⟨h₁, e, rfl⟩ | ⟨w₁, found, w₂, h₁, hrun, hend⟩
  · exact ⟨DataOrder.of_consults h₁, fun hok => by cases hok⟩
  · obtain ⟨_, w₃, hfind, hlog, -⟩ := getOrCreate_cases rfl hrun
    have hkey : Spares s w₁ w₃ :=
      rel_of_exec (keepsData_findOrCreate (v := keyVault s client encryptor)
        (spares_createKey hother localProvider) w₁) hfind
    have h₂ : Advances s w w₂ := IsTrans.trans _ _ _ (DataOrder.of_consults h₁)
      (IsTrans.trans _ _ _ hkey.advances (DataOrder.of_consults hlog))
    rcases hend with ⟨rfl, e, rfl⟩ | ⟨key, -, hprepare⟩
    · exact ⟨h₂, fun hok => by cases hok⟩
    · unfold prepareCollection at hprepare
      rw [if_pos (by simp [hs.mode])] at hprepare
      obtain ⟨hadvances, hexists⟩ := advances_setUpQueryable hs.sharded hprepare
      exact ⟨IsTrans.trans _ _ _ h₂ hadvances, hexists⟩

lemma advances_setUp (hs : ShardsData s) (url : String) :
    Keeps (Advances s) (attempt (setUp s url)) := by
  refine keepsData_setUp (fun client encryptor hvault w => ?_) url
  cases h : exec (setUpWith s client encryptor) w with
  | mk r w' =>
    rw [run_attempt, h]
    exact (hs.advances_setUpWith hvault h).1

/-- A set-up that succeeds leaves the collection in existence. -/
lemma exists_of_setUp (hs : ShardsData s) {url : String} {options : Document}
    (h : exec (setUp s url) w = (.ok options, w')) : Exists s w' := by
  obtain ⟨client, encryptor, w₁, w₂, -, hvault, hwith, hclosed⟩ := setUp_eq_ok h
  exact hclosed.data.lists _ _ ((hs.advances_setUpWith hvault hwith).2 rfl)

/-- Connecting is no command. -/
lemma advances_connect (client : Client) (options : Document) (w : World) :
    Advances s w (w.noted (.connect client options)) :=
  (spares_noted rfl w).advances

variable {bag : Bag}

lemma advances_create (hs : ShardsData s) (hbag : (Settings.resolve bag).1 = .ok s) :
    Keeps (Advances s) (attempt (Context.create bag)) := by
  refine keeps_create fun s' hs' => ?_
  obtain rfl : s = s' := by
    rw [hbag] at hs'
    exact Reading.ok.inj hs'
  exact ⟨hs.advances_setUp, handsOver_of_connect hs.advances_setUp advances_connect⟩

/-- A context is only created when the collection exists. -/
lemma exists_of_create (hs : ShardsData s) (hbag : (Settings.resolve bag).1 = .ok s) {c : Context}
    (h : exec (Context.create bag) w = (.ok c, w')) : Exists s w' := by
  have hmode : s.encryptionMode.isEnabled = true := by rw [hs.mode]; rfl
  obtain ⟨url, options, w₁, w₂, -, hset, hafter⟩ :=
    exists_setUp_of_create hbag hmode hs.advances_setUp advances_connect h
  exact Advances.found hafter (hs.exists_of_setUp hset)

end ShardsData

end Encryption

/-! ## Acquisitions -/

namespace Harness

open Encryption

variable {s : Settings} {bag : Bag} {completed : List Command} {h : Harness}

/-- What holds between the acquisitions of contexts with a sharded collection: the sharding has come
so far, and a provider only has a context when the collection exists. -/
structure ShardedSoFar (s : Settings) (completed : List Command) (h : Harness) : Prop where
  progress : Progress s completed h.world
  found : ∀ name number, (h.provider name).context = some number → Exists s h.world

/-- A context is only acquired when the collection exists. -/
lemma ShardedSoFar.acquire (hs : ShardsData s) (hbag : (Settings.resolve bag).1 = .ok s)
    (hh : h.ShardedSoFar s completed) {name : String} {r : Except Failure ℕ} {h' : Harness}
    (hacquire : h.acquire name bag = (r, h')) :
    h'.ShardedSoFar s completed ∧ (r.isOk = true → Exists s h'.world) := by
  have hworld : Advances s h.world h'.world := by
    have := rel_acquire (hs.advances_create hbag) h name
    rwa [hacquire] at this
  have hprogress := hworld.progress completed hh.progress
  have hbefore : ∀ name' number, (h.provider name').context = some number → Exists s h'.world :=
    fun name' number hn => hworld.found (hh.found name' number hn)
  cases hcontext : (h.provider name).context with
  | some number =>
    have hf : Exists s h'.world := hbefore name number hcontext
    exact ⟨⟨hprogress, fun _ _ _ => hf⟩, fun _ => hf⟩
  | none =>
    cases hmade : exec (Context.create bag) h.world with
    | mk made world =>
      cases made with
      | ok c =>
        rw [acquire_of_ok hcontext hmade] at hacquire
        cases hacquire
        have hf : Exists s world := hs.exists_of_create hbag hmade
        exact ⟨⟨hprogress, fun _ _ _ => hf⟩, fun _ => hf⟩
      | error e =>
        rw [acquire_of_error hcontext hmade] at hacquire
        cases hacquire
        refine ⟨⟨hprogress, fun name' number hn => ?_⟩, fun hok => by cases hok⟩
        rw [provider_setProvider_eq] at hn
        split at hn
        · exact hbefore name number hn
        · exact hbefore name' number hn

/-- Taking back a registration gives no provider a context. -/
lemma context_release (h : Harness) {name name' : String} {number : ℕ}
    (hn : ((h.release name).provider name').context = some number) :
    ∃ number', (h.provider name').context = some number' := by
  have hset : ∀ p : Provider, (p.context = none ∨ p.context = (h.provider name).context) →
      ((h.setProvider name p).provider name').context = some number →
        ∃ number', (h.provider name').context = some number' := by
    intro p hp hcontext
    rw [provider_setProvider_eq] at hcontext
    split at hcontext
    · rename_i heq
      subst heq
      rcases hp with hp | hp
      · rw [hp] at hcontext
        cases hcontext
      · exact ⟨number, hp ▸ hcontext⟩
    · exact ⟨number, hcontext⟩
  unfold release at hn
  dsimp only at hn
  split at hn
  · exact hset _ (.inr rfl) hn
  · split at hn
    · split at hn
      · exact hset {} (.inl rfl) hn
      · exact hset {} (.inl rfl) hn
    · refine hset _ ?_ hn
      exact .inr rfl

/-- One request of a run of acquisitions keeps what holds between them. -/
lemma ShardedSoFar.step (hs : ShardsData s) (hbag : (Settings.resolve bag).1 = .ok s)
    (hh : h.ShardedSoFar s completed) {request : Request}
    (hrequest : request.Acquires (· = bag)) : (h.step request).2.ShardedSoFar s completed := by
  have hworld : Advances s h.world (h.step request).2.world :=
    rel_step_of_acquires hrequest (fun bag' heq => heq ▸ hs.advances_create hbag) h
  have hprogress := hworld.progress completed hh.progress
  cases request with
  | acquire name bag' =>
    obtain rfl : bag' = bag := hrequest
    obtain ⟨hafter, -⟩ := hh.acquire hs hbag (Eq.refl (h.acquire name bag'))
    rw [snd_step_acquire]
    exact ⟨hafter.progress, hafter.found⟩
  | release name =>
    refine ⟨hprogress, fun name' number hn => ?_⟩
    obtain ⟨number', hbefore⟩ := context_release h hn
    exact hworld.found (hh.found name' number' hbefore)
  | setFaults faults => exact ⟨hprogress, fun name' number hn => hh.found name' number hn⟩
  | _ => exact hrequest.elim

/-- What holds between acquisitions holds after every run of them. -/
lemma ShardedSoFar.run (hs : ShardsData s) (hbag : (Settings.resolve bag).1 = .ok s)
    (hh : h.ShardedSoFar s completed) {requests : List Request}
    (hrequests : ∀ request ∈ requests, request.Acquires (· = bag)) :
    (h.run requests).2.ShardedSoFar s completed :=
  run_induction h (fun _ hP request hr => hP.step hs hbag (hrequests request hr)) hh

/-- In a deployment without the collection of some settings that ask for queryable encryption and
sharding, contexts are acquired and given back in any order, whatever faults the deployment shows in
between.  Whenever an acquisition succeeds and no command that was sent has failed, the commands
that shard the collection have completed, and no others. -/
theorem sharded_of_acquire {cluster : Cluster} {draws : Draws} {faults : Faults}
    (hbag : (Settings.resolve bag).1 = .ok s) (hq : s.useQueryable = true)
    (hsharded : s.sharded = true) (hlacks : cluster.Lacks s.database s.collection)
    (hvault : Encryptor.splitNamespace s.keyVaultNamespace ≠ (s.database, s.collection))
    {requests : List Request} (hrequests : ∀ request ∈ requests, request.Acquires (· = bag))
    {name : String} {number : ℕ} {h' : Harness}
    (hacquire : ((start cluster draws faults "" []).run requests).2.acquire name bag =
      (.ok number, h'))
    (hcompleted : h'.world.cluster.commands.length =
      cluster.commands.length + h'.world.sentCommands.length) :
    h'.world.cluster.commands = cluster.commands ++ [enableSharding s, shardCollection s] := by
  have hs : ShardsData s := ⟨Settings.encryptionMode_of_useQueryable hbag hq, hsharded, hvault⟩
  have hstart : (start cluster draws faults "" []).ShardedSoFar s cluster.commands :=
    ⟨.untouched hlacks rfl rfl, fun name number hn => by cases hn⟩
  obtain ⟨hafter, hfound⟩ := (hstart.run hs hbag hrequests).acquire hs hbag hacquire
  cases hafter.progress with
  | untouched hlacks' _ _ => exact absurd (hfound rfl) hlacks'.2
  | sharded _ hcommands _ => exact hcommands
  | interrupted _ hfailed => omega

/-- The bag of a run with queryable encryption on a sharded collection. -/
def shardedBag : Bag :=
  [("mongodb.qe", .text "true"), ("mongodb.sharded", .text "true")]

/-- A run of which the first acquisition meets a fault, which is gone afterwards. -/
def retried (address : String) (bag : Bag) : Except Failure ℕ × Harness :=
  ((start {} {} [(address, ⟨.unreachable, "lost"⟩)] "" []).run
    [.acquire "p" bag, .setFaults []]).2.acquire "p" bag

/-- When the first attempt fails to create the collection, the second one shards it. -/
theorem sharded_of_acquire_secondAttempt :
    ∃ number h', retried "create_collection:usertable" shardedBag = (.ok number, h') ∧
      h'.world.cluster.commands.map Command.arguments =
        [["enableSharding", "ycsb"], ["shardCollection", "ycsb.usertable"]] := by
  let facts (s : Settings) : (Bool × Bool) × (String × String) × Bool :=
    ((s.useQueryable, s.sharded), (s.database, s.collection),
      decide (Encryptor.splitNamespace s.keyVaultNamespace = (s.database, s.collection)))
  have hfacts : (Settings.resolve shardedBag).1.value?.map facts =
      some ((true, true), ("ycsb", "usertable"), false) := by decide +kernel
  have hok : (retried "create_collection:usertable" shardedBag).1.isOk = true := by decide +kernel
  have hlength :
      (retried "create_collection:usertable" shardedBag).2.world.cluster.commands.length =
      ({} : Cluster).commands.length +
        (retried "create_collection:usertable" shardedBag).2.world.sentCommands.length := by
    decide +kernel
  cases hbag : (Settings.resolve shardedBag).1 with
  | refused problems =>
    rw [hbag] at hfacts
    cases hfacts
  | ok s =>
    rw [hbag, Reading.value?_ok, Option.map_some, Option.some.injEq] at hfacts
    obtain ⟨hflags, hnames, hvault⟩ : (s.useQueryable, s.sharded) = (true, true) ∧
        (s.database, s.collection) = ("ycsb", "usertable") ∧
        decide (Encryptor.splitNamespace s.keyVaultNamespace = (s.database, s.collection)) =
          false := by
      simpa only [facts, Prod.mk.injEq] using hfacts
    obtain ⟨hq, hsharded⟩ := Prod.mk.inj hflags
    obtain ⟨hdatabase, hcollection⟩ := Prod.mk.inj hnames
    cases hrun : retried "create_collection:usertable" shardedBag with
    | mk r h' =>
      rw [hrun] at hok hlength
      cases r with
      | error e => cases hok
      | ok number =>
        refine ⟨number, h', rfl, ?_⟩
        have hlacks : ({} : Cluster).Lacks s.database s.collection :=
          ⟨List.not_mem_nil, List.not_mem_nil⟩
        have hrequests : ∀ request ∈ [Request.acquire "p" shardedBag, .setFaults []],
            request.Acquires (· = shardedBag) := by
          simp [Request.Acquires]
        rw [sharded_of_acquire hbag hq hsharded hlacks (of_decide_eq_false hvault) hrequests hrun
          hlength]
        simp [enableSharding, shardCollection, Settings.dataNamespace, hdatabase, hcollection]

/-- When a command of the first attempt fails, the second one succeeds and shards nothing.  Neither
does the first one if the collection is the key vault. -/
theorem sharding_lost_after_failed_command :
    ((retried "command:enableSharding" shardedBag).1.isOk = true ∧
      (retried "command:enableSharding" shardedBag).2.world.cluster.commands.length = 0) ∧
    (((start {} {} [] "" []).acquire "p"
        (("mongodb.collection", .text "datakeys") :: shardedBag)).1.isOk = true ∧
      ((start {} {} [] "" []).acquire "p"
        (("mongodb.collection", .text "datakeys") :: shardedBag)).2.world.sentCommands.length =
          0) := by
  decide +kernel

end Harness

end LoadBinding
