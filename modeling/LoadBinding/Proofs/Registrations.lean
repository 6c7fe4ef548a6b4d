import LoadBinding.Proofs.Buffering
import LoadBinding.Proofs.PoolClients

/-!
# The count of registrations

Those who register with a provider and take their registrations back may do so in any order and as
often as they like, a registration may fail for any reason, and the closing of any client may fail.
The provider keeps its books straight all the same: it counts the registrations exactly, it has a
context just as long as there are any, and each client that was connected for a pool is closed once
by whoever ends it, and not before.

`Step.Registers` says what one step may do to the provider, the contexts and the clients.  Two
invariants follow from it: `Harness.Counted` is about the registrations and the context, and
`Harness.Disposed` about the clients.  The main result is `Harness.registrations_exact`.
-/

namespace LoadBinding

open LoadBinding.Action World

/-! ## Steps -/

/-- Whether a request registers with a provider, takes a registration back or changes the faults. -/
def Request.registersWith (provider : String) : Request → Bool
  | acquire name _ => name == provider
  | release name => name == provider
  | setFaults _ => true
  | _ => false

/-- The clients of the pool of the context that a provider has. -/
def Harness.poolClients (h : Harness) (provider : String) : List Client :=
  (((h.provider provider).context.bind (h.contexts[·]?)).map Context.clients).getD []

/-- A request, with the harness that it meets. -/
structure Step where
  before : Harness
  request : Request

/-- The steps of a run. -/
def Harness.steps (h : Harness) : List Request → List Step
  | [] => []
  | request :: requests => ⟨h, request⟩ :: (h.step request).2.steps requests

namespace Step

variable (s : Step)

/-- The harness after a step. -/
def after : Harness :=
  (s.before.step s.request).2

/-- The answer to the request of a step. -/
def answer : Except Failure Answer :=
  (s.before.step s.request).1

/-- The clients that a step connects for pools. -/
def opened : List Client :=
  Call.pooled (s.before.turn s.request).faults (s.before.turn s.request).calls

/-- The clients that a step closes, as often as it does. -/
def closed : List Client :=
  Call.closed (s.before.turn s.request).calls

/-- Whether a step registers with a provider, successfully or not. -/
def isAcquire (provider : String) : Bool :=
  match s.request with
  | .acquire name _ => name == provider
  | _ => false

/-- Whether a step registers with a provider successfully. -/
def acquires (provider : String) : Bool :=
  s.isAcquire provider && s.answer.isOk

/-- Whether a step takes back a registration that there is. -/
def takesBack (provider : String) : Bool :=
  match s.request with
  | .release name => name == provider && 0 < (s.before.provider provider).registrations
  | _ => false

/-- The step that ends a client closes it once.  It either takes the last registration with the
provider of the client back, or has connected the client and failed. -/
structure Ends (provider : String) (client : Client) : Prop where
  once : s.closed.count client = 1
  reason :
    (s.request = .release provider ∧ (s.before.provider provider).registrations = 1 ∧
        (s.after.provider provider).registrations = 0 ∧ client ∈ s.before.poolClients provider) ∨
      (s.isAcquire provider = true ∧ s.answer.isOk = false ∧ client ∈ s.opened)

end Step

/-- The clients that some steps connect for pools. -/
def openedIn (steps : List Step) : List Client :=
  steps.flatMap Step.opened

lemma openedIn_concat (steps : List Step) (s : Step) :
    openedIn (steps ++ [s]) = openedIn steps ++ s.opened := by
  simp [openedIn]

/-! ## What a step does -/

namespace Step

variable {s : Step} {provider : String}

/-- The clients that a step connects for pools, which are new, and those that it closes. -/
structure Moves (s : Step) (opened closed : List Client) : Prop where
  opened_eq : s.opened = opened
  closed_eq : s.closed = closed
  calls : Call.closed s.after.world.calls = Call.closed s.before.world.calls ++ closed
  connections :
    s.before.world.cluster.connections.length ≤ s.after.world.cluster.connections.length
  fresh : ∀ client ∈ opened, s.before.world.cluster.connections.length ≤ client.number ∧
    client.number < s.after.world.cluster.connections.length
  nodup : opened.Nodup

lemma moves_of_trades {opened closed : List Client}
    (h : Trades opened closed s.before.world s.after.world) : s.Moves opened closed := by
  obtain ⟨issued, hcalls, rfl, rfl⟩ := h.calls
  have hturn : (s.before.turn s.request).calls = issued := Harness.turn_calls hcalls
  refine ⟨?_, ?_, ?_, h.connections, h.fresh, h.nodup⟩
  · unfold Step.opened
    rw [hturn]
    rfl
  · unfold Step.closed
    rw [hturn]
  · rw [hcalls, Call.closed_append]

/-- A step that makes no call moves no client. -/
lemma moves_of_silent (hcalls : s.after.world.calls = s.before.world.calls)
    (hcluster : s.after.world.cluster = s.before.world.cluster) : s.Moves [] [] := by
  have hturn : (s.before.turn s.request).calls = [] :=
    Harness.turn_calls (hcalls.trans (List.append_nil _).symm)
  refine ⟨?_, ?_, ?_, hcluster ▸ le_rfl, List.forall_mem_nil _, List.nodup_nil⟩
  · unfold Step.opened
    rw [hturn]
    rfl
  · unfold Step.closed
    rw [hturn]
    rfl
  · rw [hcalls, List.append_nil]

lemma takesBack_of_isAcquire (h : s.isAcquire provider = true) : s.takesBack provider = false := by
  unfold isAcquire at h
  unfold takesBack
  split at h
  · rename_i hrequest
    rw [hrequest]
  · cases h

lemma acquires_of_release (h : s.request = .release provider) :
    s.acquires provider = false := by
  unfold acquires isAcquire
  rw [h]
  rfl

lemma takesBack_of_release (h : s.request = .release provider)
    (hp : 0 < (s.before.provider provider).registrations) : s.takesBack provider = true := by
  unfold takesBack
  rw [h]
  simp [hp]

/-- What a step does to a provider, the contexts and the clients of pools. -/
inductive Registers (s : Step) (provider : String) : Prop
  /-- Nothing: the faults are changed, or a registration is taken back that there is not. -/
  | idles (acquire : s.isAcquire provider = false) (release : s.takesBack provider = false)
    (same : s.after.provider provider = s.before.provider provider)
    (contexts : s.after.contexts = s.before.contexts) (moves : s.Moves [] [])
  /-- The context that there is gets one more registration. -/
  | joins {number : ℕ} (acquire : s.isAcquire provider = true) (answer : s.answer.isOk = true)
    (context : (s.before.provider provider).context = some number)
    (counts : s.after.provider provider =
      ⟨(s.before.provider provider).registrations + 1, some number⟩)
    (contexts : s.after.contexts = s.before.contexts) (moves : s.Moves [] [])
  /-- A context is begun. -/
  | begins {c : Context} {closed : List Client} (acquire : s.isAcquire provider = true)
    (answer : s.answer.isOk = true) (context : (s.before.provider provider).context = none)
    (counts : s.after.provider provider =
      ⟨(s.before.provider provider).registrations + 1, some s.before.contexts.length⟩)
    (contexts : s.after.contexts = s.before.contexts ++ [c]) (isOpen : c.isOpen = true)
    (moves : s.Moves c.clients closed)
    (new : ∀ client ∈ closed, s.before.world.cluster.connections.length ≤ client.number ∧
      client.number < s.after.world.cluster.connections.length)
    (apart : ∀ client ∈ c.clients, client ∉ closed)
  /-- No context could be begun, and each client that was connected for it is closed once. -/
  | fails {opened closed : List Client} (acquire : s.isAcquire provider = true)
    (answer : s.answer.isOk = false) (context : (s.before.provider provider).context = none)
    (same : s.after.provider provider = s.before.provider provider)
    (contexts : s.after.contexts = s.before.contexts) (moves : s.Moves opened closed)
    (new : ∀ client ∈ closed, s.before.world.cluster.connections.length ≤ client.number ∧
      client.number < s.after.world.cluster.connections.length)
    (once : ∀ client ∈ opened, closed.count client = 1)
  /-- One of several registrations is taken back. -/
  | leaves {count : ℕ} {context : Option ℕ} (release : s.request = .release provider)
    (counts : s.before.provider provider = ⟨count + 2, context⟩)
    (left : s.after.provider provider = ⟨count + 1, context⟩)
    (contexts : s.after.contexts = s.before.contexts) (moves : s.Moves [] [])
  /-- The last registration is taken back, and each client of the context is closed once. -/
  | ends {number : ℕ} {c : Context} (release : s.request = .release provider)
    (counts : s.before.provider provider = ⟨1, some number⟩)
    (found : s.before.contexts[number]? = some c) (left : s.after.provider provider = {})
    (moves : s.Moves [] c.clients)

/-- A step adds to the registrations what it acquires, and takes off what it takes back. -/
lemma Registers.count (hs : s.Registers provider) :
    (s.after.provider provider).registrations + [s].countP (takesBack · provider) =
      (s.before.provider provider).registrations + [s].countP (acquires · provider) := by
  rw [List.countP_singleton, List.countP_singleton]
  cases hs with
  | idles acquire release same =>
    rw [release, acquires, acquire, same]
    rfl
  | joins acquire answer _ counts =>
    rw [takesBack_of_isAcquire acquire, acquires, acquire, answer, counts]
    rfl
  | begins acquire answer _ counts =>
    rw [takesBack_of_isAcquire acquire, acquires, acquire, answer, counts]
    rfl
  | fails acquire answer _ same =>
    rw [takesBack_of_isAcquire acquire, acquires, acquire, answer, same]
    rfl
  | leaves release counts left =>
    have hpos : 0 < (s.before.provider provider).registrations := by
      rw [counts]
      exact Nat.succ_pos _
    rw [takesBack_of_release release hpos, acquires_of_release release, counts, left]
    rfl
  | ends release counts found left =>
    have hpos : 0 < (s.before.provider provider).registrations := by
      rw [counts]
      exact Nat.one_pos
    rw [takesBack_of_release release hpos, acquires_of_release release, counts, left]
    rfl

/-- A provider has a context after a step just if it has registrations, if that was so before. -/
lemma Registers.context (hs : s.Registers provider)
    (h : (s.before.provider provider).context = none ↔
      (s.before.provider provider).registrations = 0) :
    (s.after.provider provider).context = none ↔
      (s.after.provider provider).registrations = 0 := by
  cases hs with
  | idles _ _ same => rwa [same]
  | joins _ _ _ counts => simp [counts]
  | begins _ _ _ counts => simp [counts]
  | fails _ _ _ same => rwa [same]
  | leaves _ counts left =>
    rw [counts] at h
    simpa [left] using h
  | ends _ _ _ left => simp [left]

/-- The context of a provider after a step is the one of before, or the step has begun it. -/
lemma Registers.found (hs : s.Registers provider) {number : ℕ}
    (hnumber : (s.after.provider provider).context = some number) :
    ((s.before.provider provider).context = some number ∧
        s.after.contexts = s.before.contexts) ∨
      ∃ c, s.after.contexts[number]? = some c ∧ c.isOpen = true ∧ s.opened = c.clients := by
  cases hs with
  | idles _ _ same contexts => exact .inl ⟨same ▸ hnumber, contexts⟩
  | joins _ _ context counts contexts =>
    rw [counts] at hnumber
    exact .inl ⟨context.trans hnumber, contexts⟩
  | begins _ _ _ counts contexts isOpen moves =>
    rw [counts] at hnumber
    obtain rfl := Option.some.inj hnumber
    rw [contexts]
    exact .inr ⟨_, List.getElem?_concat_length, isOpen, moves.opened_eq⟩
  | fails _ _ _ same contexts => exact .inl ⟨same ▸ hnumber, contexts⟩
  | leaves _ counts left contexts =>
    rw [left] at hnumber
    rw [counts]
    exact .inl ⟨hnumber, contexts⟩
  | ends _ _ _ left =>
    rw [left] at hnumber
    cases hnumber

/-- A registration that fails leaves the provider alone. -/
lemma Registers.same_of_failed (hs : s.Registers provider) (hacquire : s.isAcquire provider = true)
    (hfails : s.answer.isOk = false) :
    s.after.provider provider = s.before.provider provider := by
  have hrelease (release : s.request = .release provider) : s.isAcquire provider = false := by
    rw [isAcquire, release]
  cases hs with
  | idles _ _ same => exact same
  | fails _ _ _ same => exact same
  | joins _ answer => simp [hfails] at answer
  | begins _ answer => simp [hfails] at answer
  | leaves release => simp [hrelease release] at hacquire
  | ends release => simp [hrelease release] at hacquire

/-- Only a registration that finds no context connects clients for a pool. -/
lemma Registers.acquire_of_opened (hs : s.Registers provider) (hopened : s.opened ≠ []) :
    s.isAcquire provider = true ∧ (s.before.provider provider).context = none := by
  cases hs with
  | begins acquire _ context => exact ⟨acquire, context⟩
  | fails acquire _ context => exact ⟨acquire, context⟩
  | idles _ _ _ _ moves => exact absurd moves.opened_eq hopened
  | joins _ _ _ _ _ moves => exact absurd moves.opened_eq hopened
  | leaves _ _ _ _ moves => exact absurd moves.opened_eq hopened
  | ends _ _ _ _ moves => exact absurd moves.opened_eq hopened

end Step

namespace Harness

variable {h : Harness} {provider : String} {steps : List Step} {s : Step}

/-- A request to register that cannot be met. -/
lemma step_acquire_of_error {name : String} {bag : Bag} {e : Failure} {h' : Harness}
    (ha : h.acquire name bag = (.error e, h')) :
    h.step (.acquire name bag) = (.error e, h'.noteContexts) := by
  unfold step answer
  dsimp only
  rw [ha]

/-- A request to register that is met. -/
lemma step_acquire_of_ok {name : String} {bag : Bag} {number : ℕ} {h' : Harness} {c : Context}
    (ha : h.acquire name bag = (.ok number, h')) (hc : h'.contexts[number]? = some c) :
    ∃ a, h.step (.acquire name bag) = (.ok a, h'.noteContexts) := by
  unfold step answer
  dsimp only
  rw [ha]
  dsimp only
  rw [hc]
  exact ⟨_, rfl⟩

/-- A registration that is not there cannot be taken back. -/
lemma release_of_none (hp : (h.provider provider).registrations = 0) :
    h.release provider = ((h.setProvider provider (h.provider provider)).onWorld
      (log .warning logSource "release() called without a matching acquire()")).2 := by
  unfold release
  dsimp only
  rw [hp]

lemma poolClients_of_none (hp : (h.provider provider).context = none) :
    h.poolClients provider = [] := by
  unfold poolClients
  rw [hp]
  rfl

lemma poolClients_of_some {number : ℕ} {c : Context}
    (hp : (h.provider provider).context = some number) (hc : h.contexts[number]? = some c) :
    h.poolClients provider = c.clients := by
  unfold poolClients
  rw [hp, Option.bind_some, hc]
  rfl

lemma poolClients_congr {h' : Harness}
    (hp : (h'.provider provider).context = (h.provider provider).context)
    (hc : h'.contexts = h.contexts) : h'.poolClients provider = h.poolClients provider := by
  unfold poolClients
  rw [hp, hc]

/-! ## Counting -/

/-- The books of a provider after some steps.  It counts the registrations that succeeded and were
not taken back, and it has a context as long as there are any, which is open, and whose clients one
of the steps connected. -/
structure Counted (h : Harness) (provider : String) (steps : List Step) : Prop where
  registers : ∀ s ∈ steps, s.Registers provider
  count : (h.provider provider).registrations + steps.countP (Step.takesBack · provider) =
    steps.countP (Step.acquires · provider)
  context : (h.provider provider).context = none ↔ (h.provider provider).registrations = 0
  shared : ∀ number, (h.provider provider).context = some number →
    ∃ c, h.contexts[number]? = some c ∧ c.isOpen = true ∧ ∃ s ∈ steps, s.opened = c.clients

/-- In the beginning there is no registration. -/
lemma counted_start (cluster : Cluster) (draws : Draws) (faults : Faults) (provider : String) :
    (start cluster draws faults provider []).Counted provider [] := by
  refine ⟨List.forall_mem_nil _, rfl, ⟨fun _ => rfl, fun _ => rfl⟩, ?_⟩
  intro number hnumber
  cases hnumber

/-- A request to register joins the context, begins one or fails. -/
lemma Counted.registers_acquire (hc : h.Counted provider steps) (htidy : h.world.Tidy)
    (bag : Bag) : Step.Registers ⟨h, .acquire provider bag⟩ provider := by
  have hacquire : Step.isAcquire ⟨h, .acquire provider bag⟩ provider = true :=
    beq_self_eq_true provider
  cases hcontext : (h.provider provider).context with
  | some number =>
    obtain ⟨c, hfound, -⟩ := hc.shared number hcontext
    obtain ⟨a, hstep⟩ := step_acquire_of_ok (acquire_of_context hcontext bag) hfound
    have hafter : Step.after ⟨h, .acquire provider bag⟩ = _ := congrArg Prod.snd hstep
    have hanswer : Step.answer ⟨h, .acquire provider bag⟩ = _ := congrArg Prod.fst hstep
    refine .joins hacquire (by rw [hanswer]; rfl) hcontext ?_ (by rw [hafter]; rfl)
      (Step.moves_of_silent (by rw [hafter]; rfl) (by rw [hafter]; rfl))
    rw [hafter]
    exact provider_setProvider h _ _
  | none =>
    cases hmade : exec (Context.create bag) h.world with
    | mk r world =>
      have hopens : Opens h.world.cluster.connections.length h.world world :=
        rel_of_exec (opens_create bag htidy) hmade
      cases r with
      | ok c =>
        have hfound : (h.contexts ++ [c])[h.contexts.length]? = some c :=
          List.getElem?_concat_length
        obtain ⟨a, hstep⟩ := step_acquire_of_ok (acquire_of_ok hcontext hmade) hfound
        obtain ⟨closed, htrades, hapart⟩ := trades_create_of_ok hmade
        have hafter : Step.after ⟨h, .acquire provider bag⟩ = _ := congrArg Prod.snd hstep
        have hanswer : Step.answer ⟨h, .acquire provider bag⟩ = _ := congrArg Prod.fst hstep
        refine .begins hacquire (by rw [hanswer]; rfl) hcontext ?_ (by rw [hafter]; rfl)
          (opened_of_create htidy hmade).isOpen
          (Step.moves_of_trades (by rw [hafter]; exact htrades))
          (by rw [hafter]; exact htrades.bounds_of_opens hopens) hapart
        rw [hafter]
        exact provider_setProvider _ _ _
      | error e =>
        have hstep := step_acquire_of_error (acquire_of_error hcontext hmade)
        obtain ⟨clients, closed, htrades, honce⟩ := trades_create_of_error hmade
        have hafter : Step.after ⟨h, .acquire provider bag⟩ = _ := congrArg Prod.snd hstep
        have hanswer : Step.answer ⟨h, .acquire provider bag⟩ = _ := congrArg Prod.fst hstep
        refine .fails hacquire (by rw [hanswer]; rfl) hcontext ?_ (by rw [hafter]; rfl)
          (Step.moves_of_trades (by rw [hafter]; exact htrades))
          (by rw [hafter]; exact htrades.bounds_of_opens hopens) honce
        rw [hafter]
        exact provider_setProvider _ _ _

/-- A request to take a registration back changes nothing, leaves the context to others or ends
it. -/
lemma Counted.registers_release (hc : h.Counted provider steps) :
    Step.Registers ⟨h, .release provider⟩ provider := by
  have hafter : Step.after ⟨h, .release provider⟩ = (h.release provider).noteContexts := rfl
  cases hp : h.provider provider with
  | mk registrations context =>
    cases registrations with
    | zero =>
      have hzero : (h.provider provider).registrations = 0 := congrArg Provider.registrations hp
      rw [release_of_none hzero] at hafter
      refine .idles rfl ?_ ?_ ?_ (Step.moves_of_trades ?_)
      · unfold Step.takesBack
        dsimp only
        rw [hzero]
        simp
      · rw [hafter]
        exact provider_setProvider h _ _
      · rw [hafter]
        rfl
      · rw [hafter]
        exact keeps_log _ _ _ _
    | succ count =>
      cases count with
      | succ count =>
        rw [release_of_many hp] at hafter
        refine .leaves rfl hp ?_ ?_ (Step.moves_of_silent ?_ ?_)
        · rw [hafter]
          exact provider_setProvider h _ _
        · rw [hafter]
          rfl
        · rw [hafter]
          rfl
        · rw [hafter]
          rfl
      | zero =>
        cases context with
        | none =>
          -- With a registration there is a context.
          have hzero := hc.context.mp (congrArg Provider.context hp)
          rw [hp] at hzero
          cases hzero
        | some number =>
          obtain ⟨c, hfound, hopen, -⟩ := hc.shared number (congrArg Provider.context hp)
          rw [release_of_one hp hfound] at hafter
          refine .ends rfl hp hfound ?_ (Step.moves_of_trades ?_)
          · rw [hafter]
            exact provider_setProvider _ _ _
          · rw [hafter]
            exact (Context.trades_close hopen h.world).then_quiet (keeps_log _ _ _ _)

/-- Whatever is asked of a provider with such books does one of these things. -/
lemma Counted.registers_next (hc : h.Counted provider steps) (htidy : h.world.Tidy)
    {request : Request} (hr : request.registersWith provider = true) :
    Step.Registers ⟨h, request⟩ provider := by
  cases request with
  | acquire name bag =>
    obtain rfl : name = provider := by simpa [Request.registersWith] using hr
    exact hc.registers_acquire htidy bag
  | release name =>
    obtain rfl : name = provider := by simpa [Request.registersWith] using hr
    exact hc.registers_release
  | setFaults faults => exact .idles rfl rfl rfl rfl (Step.moves_of_silent rfl rfl)
  | _ => cases hr

/-- A step keeps the books. -/
lemma Counted.next (hc : s.before.Counted provider steps) (hs : s.Registers provider) :
    s.after.Counted provider (steps ++ [s]) := by
  refine ⟨fun s' hmem => ?_, ?_, hs.context hc.context, fun number hnumber => ?_⟩
  · rcases List.mem_append.mp hmem with hmem | hmem
    · exact hc.registers s' hmem
    · exact List.mem_singleton.mp hmem ▸ hs
  · have hbefore := hc.count
    have hstep := hs.count
    rw [List.countP_append, List.countP_append]
    omega
  · rcases hs.found hnumber with ⟨hsame, hcontexts⟩ | ⟨c, hfound, hopen, hclients⟩
    · obtain ⟨c, hfound, hopen, s', hmem, hclients⟩ := hc.shared number hsame
      exact ⟨c, hcontexts ▸ hfound, hopen, s', List.mem_append_left _ hmem, hclients⟩
    · exact ⟨c, hfound, hopen, s, List.mem_append_right _ List.mem_cons_self, hclients⟩

/-! ## Disposing of clients -/

/-- The clients that were connected for pools in some steps are all different.  Those of the
context that the provider has were not closed, and each other one was closed once, by the step that
ended it. -/
structure Disposed (h : Harness) (provider : String) (steps : List Step) : Prop where
  tidy : h.world.Tidy
  nodup : (openedIn steps).Nodup
  bounded : ∀ client ∈ openedIn steps, client.number < h.world.cluster.connections.length
  current : ∀ client ∈ h.poolClients provider,
    client ∈ openedIn steps ∧ client ∉ Call.closed h.world.calls
  ended : ∀ client ∈ openedIn steps, client ∉ h.poolClients provider →
    (Call.closed h.world.calls).count client = 1 ∧ ∃ s ∈ steps, s.Ends provider client

/-- In the beginning there is no client of a pool. -/
lemma disposed_start (cluster : Cluster) (draws : Draws) (faults : Faults) (provider : String) :
    (start cluster draws faults provider []).Disposed provider [] :=
  ⟨fun _ hmem => absurd hmem List.not_mem_nil, List.nodup_nil, List.forall_mem_nil _,
    List.forall_mem_nil _, List.forall_mem_nil _⟩

section Next

variable {opened closed : List Client}

/-- What is connected for a pool was not closed before. -/
lemma Disposed.not_closed (hd : s.before.Disposed provider steps) (hm : s.Moves opened closed) :
    ∀ client ∈ opened, client ∉ Call.closed s.before.world.calls := by
  intro client hmem hold
  have hlt := hd.tidy client (Call.mem_closed.mp hold)
  exact absurd hlt (Nat.not_lt.mpr (hm.fresh client hmem).1)

/-- A client that was not closed before the step that ends it has been closed once after it. -/
lemma count_of_ends {client : Client} (hm : s.Moves opened closed)
    (hopen : client ∉ Call.closed s.before.world.calls) (hends : s.Ends provider client) :
    (Call.closed s.after.world.calls).count client = 1 := by
  have hbefore : (Call.closed s.before.world.calls).count client = 0 :=
    List.count_eq_zero.mpr hopen
  have hnow : closed.count client = 1 := by
    rw [← hm.closed_eq]
    exact hends.once
  rw [hm.calls, List.count_append, hbefore, hnow]

/-- A step keeps this up if it closes clients of the context that there was or new ones only, none
that the context has then, and ends each of the others. -/
lemma Disposed.next (hd : s.before.Disposed provider steps) (hm : s.Moves opened closed)
    (hclosed : ∀ client ∈ closed, client ∈ s.before.poolClients provider ∨
      s.before.world.cluster.connections.length ≤ client.number ∧
        client.number < s.after.world.cluster.connections.length)
    (hcurrent : ∀ client ∈ s.after.poolClients provider,
      (client ∈ s.before.poolClients provider ∨ client ∈ opened) ∧ client ∉ closed)
    (hended : ∀ client, client ∈ s.before.poolClients provider ∨ client ∈ opened →
      client ∉ s.after.poolClients provider → s.Ends provider client) :
    s.after.Disposed provider (steps ++ [s]) := by
  have hnew := hd.not_closed hm
  have hopened : openedIn (steps ++ [s]) = openedIn steps ++ opened := by
    rw [openedIn_concat, hm.opened_eq]
  have hlast : s ∈ steps ++ [s] := List.mem_append_right _ List.mem_cons_self
  refine ⟨?_, ?_, ?_, ?_, ?_⟩
  · intro client hmem
    rw [← Call.mem_closed, hm.calls, List.mem_append, Call.mem_closed] at hmem
    rcases hmem with hmem | hmem
    · exact (hd.tidy client hmem).trans_le hm.connections
    · rcases hclosed client hmem with hmem | ⟨-, hlt⟩
      · exact (hd.bounded client (hd.current client hmem).1).trans_le hm.connections
      · exact hlt
  · rw [hopened]
    refine List.nodup_append.mpr ⟨hd.nodup, hm.nodup, ?_⟩
    rintro client hold _ hmem rfl
    exact absurd (hd.bounded client hold) (Nat.not_lt.mpr (hm.fresh client hmem).1)
  · intro client hmem
    rw [hopened, List.mem_append] at hmem
    rcases hmem with hmem | hmem
    · exact (hd.bounded client hmem).trans_le hm.connections
    · exact (hm.fresh client hmem).2
  · intro client hmem
    obtain ⟨hfrom, hopen⟩ := hcurrent client hmem
    rw [hopened, hm.calls, List.mem_append, List.mem_append, not_or]
    rcases hfrom with hfrom | hfrom
    · exact ⟨.inl (hd.current client hfrom).1, (hd.current client hfrom).2, hopen⟩
    · exact ⟨.inr hfrom, hnew client hfrom, hopen⟩
  · intro client hmem hother
    rw [hopened, List.mem_append] at hmem
    rcases hmem with hmem | hmem
    · by_cases hbefore : client ∈ s.before.poolClients provider
      · have hends := hended client (.inl hbefore) hother
        exact ⟨count_of_ends hm (hd.current client hbefore).2 hends, s, hlast, hends⟩
      · -- Another step has ended it, and this one leaves it alone.
        obtain ⟨honce, s', hs', hends⟩ := hd.ended client hmem hbefore
        have hnot : client ∉ closed := by
          intro hin
          rcases hclosed client hin with hin | ⟨hle, -⟩
          · exact hbefore hin
          · exact absurd (hd.bounded client hmem) (Nat.not_lt.mpr hle)
        refine ⟨?_, s', List.mem_append_left _ hs', hends⟩
        rw [hm.calls, List.count_append, honce, List.count_eq_zero.mpr hnot]
    · have hends := hended client (.inr hmem) hother
      exact ⟨count_of_ends hm (hnew client hmem) hends, s, hlast, hends⟩

/-- A step that moves no client. -/
lemma Disposed.next_of_same (hd : s.before.Disposed provider steps) (hm : s.Moves [] [])
    (hsame : s.after.poolClients provider = s.before.poolClients provider) :
    s.after.Disposed provider (steps ++ [s]) := by
  refine hd.next hm (List.forall_mem_nil _) ?_ ?_
  · intro client hmem
    rw [hsame] at hmem
    exact ⟨.inl hmem, List.not_mem_nil⟩
  · rintro client (hmem | hmem) hother
    · rw [hsame] at hother
      exact absurd hmem hother
    · cases hmem

/-- A step that connects the clients of a context, where there was none. -/
lemma Disposed.next_of_begins (hd : s.before.Disposed provider steps) (hm : s.Moves opened closed)
    (hnew : ∀ client ∈ closed, s.before.world.cluster.connections.length ≤ client.number ∧
      client.number < s.after.world.cluster.connections.length)
    (hapart : ∀ client ∈ opened, client ∉ closed)
    (hbefore : s.before.poolClients provider = [])
    (hafter : s.after.poolClients provider = opened) :
    s.after.Disposed provider (steps ++ [s]) := by
  refine hd.next hm ?_ ?_ ?_
  · intro client hmem
    exact .inr (hnew client hmem)
  · intro client hmem
    rw [hafter] at hmem
    exact ⟨.inr hmem, hapart client hmem⟩
  · intro client hfrom hother
    rw [hbefore] at hfrom
    rw [hafter] at hother
    rcases hfrom with hmem | hmem
    · cases hmem
    · exact absurd hmem hother

/-- A registration that fails ends the clients that it has connected. -/
lemma Disposed.next_of_fails (hd : s.before.Disposed provider steps) (hm : s.Moves opened closed)
    (hnew : ∀ client ∈ closed, s.before.world.cluster.connections.length ≤ client.number ∧
      client.number < s.after.world.cluster.connections.length)
    (honce : ∀ client ∈ opened, closed.count client = 1)
    (hacquire : s.isAcquire provider = true) (hfails : s.answer.isOk = false)
    (hbefore : s.before.poolClients provider = []) (hafter : s.after.poolClients provider = []) :
    s.after.Disposed provider (steps ++ [s]) := by
  refine hd.next hm ?_ ?_ ?_
  · intro client hmem
    exact .inr (hnew client hmem)
  · rw [hafter]
    exact List.forall_mem_nil _
  · intro client hfrom _
    rw [hbefore] at hfrom
    rcases hfrom with hmem | hmem
    · cases hmem
    · constructor
      · rw [hm.closed_eq]
        exact honce client hmem
      · rw [hm.opened_eq]
        exact .inr ⟨hacquire, hfails, hmem⟩

/-- The step that takes the last registration back ends the clients of the context. -/
lemma Disposed.next_of_ends (hd : s.before.Disposed provider steps) (hm : s.Moves [] closed)
    (hrelease : s.request = .release provider)
    (hlast : (s.before.provider provider).registrations = 1)
    (hnone : (s.after.provider provider).registrations = 0)
    (hbefore : s.before.poolClients provider = closed) (hnodup : closed.Nodup)
    (hafter : s.after.poolClients provider = []) :
    s.after.Disposed provider (steps ++ [s]) := by
  refine hd.next hm ?_ ?_ ?_
  · intro client hmem
    rw [hbefore]
    exact .inl hmem
  · rw [hafter]
    exact List.forall_mem_nil _
  · rintro client (hmem | hmem) _
    · refine ⟨?_, .inl ⟨hrelease, hlast, hnone, hmem⟩⟩
      rw [hm.closed_eq, ← hbefore]
      rw [← hbefore] at hnodup
      exact List.count_eq_one_of_mem hnodup hmem
    · cases hmem

end Next

/-- The clients of the context of a provider are all different, as those of one step. -/
lemma Disposed.nodup_clients (hd : h.Disposed provider steps) (hc : h.Counted provider steps)
    {number : ℕ} {c : Context} (hnumber : (h.provider provider).context = some number)
    (hfound : h.contexts[number]? = some c) : c.clients.Nodup := by
  obtain ⟨c', hfound', -, s, hmem, hclients⟩ := hc.shared number hnumber
  obtain rfl : c = c' := Option.some.inj (hfound.symm.trans hfound')
  rw [← hclients]
  exact (List.nodup_flatMap.mp hd.nodup).1 s hmem

/-- Whatever a step does, it keeps this up. -/
lemma Disposed.step (hd : s.before.Disposed provider steps) (hs : s.Registers provider)
    (hc : s.before.Counted provider steps) : s.after.Disposed provider (steps ++ [s]) := by
  cases hs with
  | idles acquire release same contexts moves =>
    exact hd.next_of_same moves (poolClients_congr (congrArg Provider.context same) contexts)
  | joins acquire answer context counts contexts moves =>
    refine hd.next_of_same moves (poolClients_congr ?_ contexts)
    rw [counts, context]
  | begins acquire answer context counts contexts isOpen moves new apart =>
    refine hd.next_of_begins moves new apart (poolClients_of_none context) ?_
    refine poolClients_of_some (congrArg Provider.context counts) ?_
    rw [contexts]
    exact List.getElem?_concat_length
  | fails acquire answer context same contexts moves new once =>
    have hbefore := poolClients_of_none context
    have hafter := poolClients_congr (congrArg Provider.context same) contexts
    exact hd.next_of_fails moves new once acquire answer hbefore (hafter.trans hbefore)
  | leaves release counts left contexts moves =>
    refine hd.next_of_same moves (poolClients_congr ?_ contexts)
    rw [counts, left]
  | ends release counts found left moves =>
    have hcontext := congrArg Provider.context counts
    exact hd.next_of_ends moves release (congrArg Provider.registrations counts)
      (congrArg Provider.registrations left) (poolClients_of_some hcontext found)
      (hd.nodup_clients hc hcontext found) (poolClients_of_none (congrArg Provider.context left))

/-! ## Runs -/

/-- Both books are kept over a run. -/
lemma Counted.run (hc : h.Counted provider steps) (hd : h.Disposed provider steps)
    {requests : List Request} (hr : ∀ request ∈ requests, request.registersWith provider = true) :
    (h.run requests).2.Counted provider (steps ++ h.steps requests) ∧
      (h.run requests).2.Disposed provider (steps ++ h.steps requests) := by
  induction requests generalizing h steps with
  | nil =>
    rw [Harness.steps, List.append_nil]
    exact ⟨hc, hd⟩
  | cons request rest ih =>
    have hs := hc.registers_next hd.tidy (hr request List.mem_cons_self)
    have hrest := ih (Counted.next (s := ⟨h, request⟩) hc hs)
      (Disposed.step (s := ⟨h, request⟩) hd hs hc)
      fun request hmem => hr request (List.mem_cons_of_mem _ hmem)
    rwa [List.append_assoc] at hrest

/-- What the two books say of a provider after some steps. -/
structure Exact (h : Harness) (provider : String) (steps : List Step) : Prop where
  /-- The registrations are those that succeeded, less those that were there to be taken back. -/
  count : ((h.provider provider).registrations : ℤ) =
    steps.countP (Step.acquires · provider) - steps.countP (Step.takesBack · provider)
  /-- There is a context just as long as there are registrations. -/
  context : (h.provider provider).context.isSome = true ↔ 0 < (h.provider provider).registrations
  /-- The context is open, and its clients are those that one step connected for its pool. -/
  shared : ∀ number, (h.provider provider).context = some number →
    ∃ c, h.contexts[number]? = some c ∧ c.isOpen = true ∧ ∃ s ∈ steps, s.opened = c.clients
  /-- A registration that fails leaves the count and the context as they were. -/
  failed : ∀ s ∈ steps, s.isAcquire provider = true → s.answer.isOk = false →
    s.after.provider provider = s.before.provider provider
  /-- Clients of pools are connected only by a registration that finds no context. -/
  opens : ∀ s ∈ steps, s.opened ≠ [] →
    s.isAcquire provider = true ∧ (s.before.provider provider).context = none
  /-- No client is connected twice. -/
  nodup : (openedIn steps).Nodup
  /-- No client of the context was closed. -/
  current : ∀ client ∈ h.poolClients provider, (Call.closed h.world.calls).count client = 0
  /-- Every other client was closed once, by the step that ended it. -/
  ended : ∀ client ∈ openedIn steps, client ∉ h.poolClients provider →
    (Call.closed h.world.calls).count client = 1 ∧ ∃ s ∈ steps, s.Ends provider client

lemma Counted.exact (hc : h.Counted provider steps) (hd : h.Disposed provider steps) :
    h.Exact provider steps := by
  refine ⟨?_, ?_, hc.shared, fun s hs hacquire hfails => ?_, fun s hs hopened => ?_, hd.nodup,
    fun client hmem => List.count_eq_zero.mpr (hd.current client hmem).2, hd.ended⟩
  · have hcount := hc.count
    omega
  · rw [Option.isSome_iff_ne_none, ne_eq, hc.context, Nat.pos_iff_ne_zero]
  · exact (hc.registers s hs).same_of_failed hacquire hfails
  · exact (hc.registers s hs).acquire_of_opened hopened

/-- Whatever the store, the faults that it shows and when they change: after any sequence of
registrations, which may fail, and of registrations taken back, which may not be there, the provider
has counted exactly, it has a context just as long as it counts any, and of the clients connected
for pools those of its context are as they were and each other one was closed once. -/
theorem registrations_exact (cluster : Cluster) (draws : Draws) (faults : Faults)
    (provider : String) {requests : List Request}
    (hr : ∀ request ∈ requests, request.registersWith provider = true) :
    ((start cluster draws faults provider []).run requests).2.Exact provider
      ((start cluster draws faults provider []).steps requests) := by
  obtain ⟨hcounted, hdisposed⟩ := (counted_start cluster draws faults provider).run
    (disposed_start cluster draws faults provider) hr
  exact hcounted.exact hdisposed

/-- A bag with two endpoints, and the data in encrypted form if it is asked for. -/
def pairBag (encrypted : String) : Bag :=
  [("mongodb.fle", .text encrypted), ("mongodb.url", .text "mongodb://h1|mongodb://h2")]

/-- A registration that is not there is taken back, another one fails at the second endpoint, and
two that share a context are taken back while its first client cannot be closed. -/
def sevenRegistrations : List Request :=
  [.release "p", .setFaults [("connect:mongodb://h2", ⟨.unreachable, "lost"⟩)],
    .acquire "p" (pairBag "true"), .setFaults [("close:mongodb://h1", ⟨.unreachable, "lost"⟩)],
    .acquire "p" (pairBag "false"), .acquire "p" [], .release "p", .release "p",
    .acquire "p" (pairBag "false")]

/-- The failed registration closes the client of its set-up and that of its pool, the last one taken
back both of its pool, and those of the pool that is connected then stay. -/
theorem registrations_exact_sevenRegistrations :
    (openedIn ((start {} {} [] "p" []).steps sevenRegistrations)).map Client.number =
        [1, 2, 3, 4, 5] ∧
      (Call.closed ((start {} {} [] "p" []).run sevenRegistrations).2.world.calls).map
        Client.number = [0, 1, 2, 3] ∧
      ((start {} {} [] "p" []).run sevenRegistrations).2.Exact "p"
        ((start {} {} [] "p" []).steps sevenRegistrations) := by
  have hr : ∀ request ∈ sevenRegistrations, request.registersWith "p" = true := by decide
  exact ⟨by decide +kernel, by decide +kernel, registrations_exact {} {} [] "p" hr⟩

end Harness

end LoadBinding
