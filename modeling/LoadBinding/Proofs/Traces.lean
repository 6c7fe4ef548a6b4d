import LoadBinding.Proofs.Execution

/-!
# Traces in the world

What an activity has asked of the store can be read off the calls that it has added to the record.
This file defines two relations between the world before an activity and the world after it.

* `World.Opens base`: only connections from the number `base` on have been closed.  Setting up a
  context is of this kind, with `base` the number of connections at its start.
* `World.Visits endpoints`: every call went through the client of one of some endpoints, and no
  connection was opened or closed.  Operations on records are of this kind.

A call on a cursor does not name a client; it goes through the client of the look-up that the cursor
belongs to, which is the last call before it that names one (`Call.clientAfter`).
-/

namespace LoadBinding

open LoadBinding.Action

/-! ## The client of a call -/

namespace Call

/-- The client that a call names. -/
def client? : Call → Option Client
  | use t => some t.client
  | insertOne t _ => some t.client
  | insertMany t _ => some t.client
  | findOne t _ _ => some t.client
  | find t _ _ => some t.client
  | updateOne t _ _ => some t.client
  | deleteMany t _ => some t.client
  | countDocuments t => some t.client
  | _ => none

/-- Whether a call is made on a cursor. -/
def isCursor : Call → Bool
  | sort => true
  | limit _ => true
  | iterate => true
  | closeCursor => true
  | _ => false

/-- Whether a call opens a connection. -/
def isConnect : Call → Bool
  | connect _ _ => true
  | _ => false

/-- Whether a call closes a connection. -/
def isClose : Call → Bool
  | close _ => true
  | _ => false

/-- The client through which a call goes that is made after some others: the one that it names, and
for a call on a cursor the one named last. -/
def clientAfter (before : List Call) (call : Call) : Option Client :=
  if call.isCursor then (before.filterMap client?).getLast? else call.client?

lemma clientAfter_of_client? {call : Call} {client : Client} (h : call.client? = some client)
    (before : List Call) : call.clientAfter before = some client := by
  cases call <;> simp_all [clientAfter, client?, isCursor]

lemma clientAfter_of_isCursor {call : Call} (h : call.isCursor = true) (before : List Call) :
    call.clientAfter before = (before.filterMap client?).getLast? :=
  if_pos h

/-- Calls further back do not matter once a client has been found. -/
lemma clientAfter_append {earlier before : List Call} {call : Call} {client : Client}
    (h : call.clientAfter before = some client) :
    call.clientAfter (earlier ++ before) = some client := by
  unfold clientAfter at h ⊢
  split
  · rename_i hc
    rw [if_pos hc] at h
    rw [List.filterMap_append, List.getLast?_append, h, Option.some_or]
  · rename_i hc
    rwa [if_neg hc] at h

end Call

/-! ## Visiting the store -/

/-- Every call of a sequence goes through the client of one of some endpoints. -/
def ThroughEndpoints (endpoints : List Endpoint) (issued : List Call) : Prop :=
  ∀ before call after, issued = before ++ call :: after →
    ∃ e ∈ endpoints, call.clientAfter before = some e.client

namespace ThroughEndpoints

variable {endpoints : List Endpoint}

lemma nil : ThroughEndpoints endpoints [] := by
  intro before call after h
  exact absurd h (by simp)

lemma append {first second : List Call} (h₁ : ThroughEndpoints endpoints first)
    (h₂ : ThroughEndpoints endpoints second) : ThroughEndpoints endpoints (first ++ second) := by
  intro before call after h
  rcases List.append_eq_append_iff.mp h with ⟨rest, hb, hs⟩ | ⟨rest, hf, hs⟩
  · obtain ⟨e, he, hc⟩ := h₂ rest call after hs
    exact ⟨e, he, hb ▸ Call.clientAfter_append hc⟩
  · cases rest with
    | nil =>
      obtain ⟨e, he, hc⟩ := h₂ [] call after (by simpa using hs.symm)
      have hd : call.clientAfter (first ++ []) = some e.client := Call.clientAfter_append hc
      exact ⟨e, he, by simpa [hf] using hd⟩
    | cons c rest =>
      obtain ⟨rfl, -⟩ : call = c ∧ _ := by simpa using hs
      exact h₁ before call rest hf

/-- A call that names the client of an endpoint, followed by calls on its cursor. -/
lemma cons_cursor {head : Call} {tail : List Call} {e : Endpoint} (he : e ∈ endpoints)
    (hh : head.client? = some e.client) (ht : ∀ call ∈ tail, call.isCursor = true) :
    ThroughEndpoints endpoints (head :: tail) := by
  have named : ∀ calls : List Call, (∀ call ∈ calls, call.isCursor = true) →
      calls.filterMap Call.client? = [] := by
    intro calls hc
    refine List.filterMap_eq_nil_iff.mpr fun call hcall => ?_
    have := hc call hcall
    cases call <;> simp_all [Call.isCursor, Call.client?]
  intro before call after h
  cases before with
  | nil =>
    obtain ⟨rfl, -⟩ : head = call ∧ _ := by simpa using h
    exact ⟨e, he, Call.clientAfter_of_client? hh []⟩
  | cons first rest =>
    obtain ⟨rfl, htail⟩ : head = first ∧ tail = rest ++ call :: after := by simpa using h
    have hcall : call.isCursor = true := ht call (by simp [htail])
    have hrest : ∀ call ∈ rest, call.isCursor = true := fun c hc => ht c (by simp [htail, hc])
    refine ⟨e, he, ?_⟩
    rw [Call.clientAfter_of_isCursor hcall, List.filterMap_cons, hh, named rest hrest]
    rfl

end ThroughEndpoints

/-- Between two worlds the store was asked through some endpoints only. -/
structure World.Visits (endpoints : List Endpoint) (w w' : World) : Prop where
  calls : ∃ issued, w'.calls = w.calls ++ issued ∧ ThroughEndpoints endpoints issued ∧
    ∀ call ∈ issued, call.isClose = false
  connections : w'.cluster.connections = w.cluster.connections
  faults : w'.faults = w.faults

namespace World

variable {endpoints : List Endpoint}

/-- A change that makes no call and leaves connections and faults alone. -/
lemma Visits.of_silent {w w' : World} (hc : w'.calls = w.calls)
    (hn : w'.cluster.connections = w.cluster.connections) (hf : w'.faults = w.faults) :
    Visits endpoints w w' :=
  ⟨⟨[], by simpa using hc, .nil, by simp⟩, hn, hf⟩

instance : IsPreorder World (World.Visits endpoints) where
  refl _ := .of_silent rfl rfl rfl
  trans := by
    rintro w w' w'' ⟨⟨i, hi, ti, ni⟩, hn, hf⟩ ⟨⟨j, hj, tj, nj⟩, hn', hf'⟩
    refine ⟨⟨i ++ j, by rw [hj, hi, List.append_assoc], ti.append tj, ?_⟩, hn'.trans hn,
      hf'.trans hf⟩
    intro call hcall
    rcases List.mem_append.mp hcall with h | h
    · exact ni call h
    · exact nj call h

/-- A single call through an endpoint. -/
lemma Visits.of_noted (w : World) {call : Call} {e : Endpoint} (he : e ∈ endpoints)
    (hc : call.client? = some e.client) : Visits endpoints w (w.noted call) := by
  refine ⟨⟨[call], rfl, .cons_cursor he hc (by simp), ?_⟩, rfl, rfl⟩
  intro c hcall
  obtain rfl := List.mem_singleton.mp hcall
  cases c <;> simp_all [Call.client?, Call.isClose]

end World

/-- Between two worlds only a cursor was read. -/
structure World.Browses (w w' : World) : Prop where
  calls : ∃ issued, w'.calls = w.calls ++ issued ∧ ∀ call ∈ issued, call.isCursor = true
  connections : w'.cluster.connections = w.cluster.connections
  faults : w'.faults = w.faults

namespace World

instance : IsPreorder World Browses where
  refl _ := ⟨⟨[], by simp, by simp⟩, rfl, rfl⟩
  trans := by
    rintro w w' w'' ⟨⟨i, hi, ci⟩, hn, hf⟩ ⟨⟨j, hj, cj⟩, hn', hf'⟩
    refine ⟨⟨i ++ j, by rw [hj, hi, List.append_assoc], ?_⟩, hn'.trans hn, hf'.trans hf⟩
    intro call hcall
    rcases List.mem_append.mp hcall with h | h
    · exact ci call h
    · exact cj call h

lemma Browses.of_noted (w : World) {call : Call} (hc : call.isCursor = true) :
    Browses w (w.noted call) :=
  ⟨⟨[call], rfl, by simpa using hc⟩, rfl, rfl⟩

/-- A call through an endpoint and then the reading of its cursor. -/
lemma Visits.of_browses {w w' : World} {head : Call} {e : Endpoint} (he : e ∈ endpoints)
    (hh : head.client? = some e.client) (h : Browses (w.noted head) w') :
    Visits endpoints w w' := by
  obtain ⟨⟨issued, hi, hc⟩, hn, hf⟩ := h
  refine ⟨⟨head :: issued, by simpa using hi, .cons_cursor he hh hc, ?_⟩, hn, hf⟩
  intro call hcall
  rcases List.mem_cons.mp hcall with rfl | hcall
  · cases call <;> simp_all [Call.client?, Call.isClose]
  · have := hc call hcall
    cases call <;> simp_all [Call.isCursor, Call.isClose]

end World

/-! ## Opening connections -/

/-- A preorder on worlds that only opening and closing connections could break: calls of other
kinds, and changes of the data and of the log, respect it. -/
class ConnectionOrder (R : World → World → Prop) : Prop extends IsPreorder World R where
  of_silent : ∀ {w w' : World}, w'.calls = w.calls →
    w'.cluster.connections = w.cluster.connections → w'.faults = w.faults → w'.draws = w.draws →
    w'.markers = w.markers → R w w'
  of_noted : ∀ (w : World) {call : Call}, call.isConnect = false → call.isClose = false →
    R w (w.noted call)

/-- Between two worlds only connections from the number `base` on were closed, and only connections
that there are by then.  Neither random numbers nor update markers were taken. -/
structure World.Opens (base : ℕ) (w w' : World) : Prop where
  calls : ∃ issued, w'.calls = w.calls ++ issued ∧ ∀ client, Call.close client ∈ issued →
    base ≤ client.number ∧ client.number < w'.cluster.connections.length
  connections : w.cluster.connections.length ≤ w'.cluster.connections.length
  faults : w'.faults = w.faults
  draws : w'.draws = w.draws
  markers : w'.markers = w.markers

namespace World

variable {base : ℕ}

/-- A call that is recorded without effect on the connections. -/
lemma Opens.of_noted (w : World) {call : Call}
    (hc : ∀ client, call = .close client →
      base ≤ client.number ∧ client.number < w.cluster.connections.length) :
    Opens base w (w.noted call) :=
  ⟨⟨[call], rfl, fun client h => hc client (List.mem_singleton.mp h).symm⟩, le_rfl, rfl, rfl, rfl⟩

instance : ConnectionOrder (World.Opens base) where
  refl _ := ⟨⟨[], by simp, by simp⟩, le_rfl, rfl, rfl, rfl⟩
  of_silent hc hn hf hd hm := ⟨⟨[], by simpa using hc, by simp⟩, by rw [hn], hf, hd, hm⟩
  of_noted w call _ hc := .of_noted w fun client h => by simp [h, Call.isClose] at hc
  trans := by
    intro w w' w'' h h'
    obtain ⟨i, hi, ci⟩ := h.calls
    obtain ⟨j, hj, cj⟩ := h'.calls
    refine ⟨⟨i ++ j, by rw [hj, hi, List.append_assoc], ?_⟩, h.connections.trans h'.connections,
      h'.faults.trans h.faults, h'.draws.trans h.draws, h'.markers.trans h.markers⟩
    intro client hc
    rcases List.mem_append.mp hc with hc | hc
    · exact ⟨(ci client hc).1, (ci client hc).2.trans_le h'.connections⟩
    · exact cj client hc

lemma Opens.mono {base' : ℕ} {w w' : World} (h : Opens base' w w') (hb : base ≤ base') :
    Opens base w w' := by
  obtain ⟨issued, hi, hc⟩ := h.calls
  exact ⟨⟨issued, hi, fun client hm => ⟨hb.trans (hc client hm).1, (hc client hm).2⟩⟩,
    h.connections, h.faults, h.draws, h.markers⟩

/-- The clients that have been closed had been connected. -/
def Tidy (w : World) : Prop :=
  ∀ client, Call.close client ∈ w.calls → client.number < w.cluster.connections.length

lemma Opens.tidy {w w' : World} (h : Opens base w w') (hw : w.Tidy) : w'.Tidy := by
  obtain ⟨issued, hi, hc⟩ := h.calls
  intro client hm
  rw [hi, List.mem_append] at hm
  rcases hm with hm | hm
  · exact (hw client hm).trans_le h.connections
  · exact (hc client hm).2

/-- A client below the base stays as it was. -/
lemma Opens.not_closed {w w' : World} (h : Opens base w w') {client : Client}
    (hlt : client.number < base) (hw : Call.close client ∉ w.calls) :
    Call.close client ∉ w'.calls := by
  obtain ⟨issued, hi, hc⟩ := h.calls
  intro hm
  rw [hi, List.mem_append] at hm
  rcases hm with hm | hm
  · exact hw hm
  · exact absurd (hc client hm).1 (Nat.not_le.mpr hlt)

lemma Visits.tidy {endpoints : List Endpoint} {w w' : World} (h : Visits endpoints w w')
    (hw : w.Tidy) : w'.Tidy := by
  obtain ⟨issued, hi, -, hc⟩ := h.calls
  intro client hm
  rw [hi, List.mem_append] at hm
  rw [h.connections]
  rcases hm with hm | hm
  · exact hw client hm
  · exact absurd (hc _ hm) (by simp [Call.isClose])

lemma Visits.not_closed {endpoints : List Endpoint} {w w' : World} (h : Visits endpoints w w')
    {client : Client} (hw : Call.close client ∉ w.calls) : Call.close client ∉ w'.calls := by
  obtain ⟨issued, hi, -, hc⟩ := h.calls
  intro hm
  rw [hi, List.mem_append] at hm
  rcases hm with hm | hm
  · exact hw hm
  · exact absurd (hc _ hm) (by simp [Call.isClose])

end World

end LoadBinding
