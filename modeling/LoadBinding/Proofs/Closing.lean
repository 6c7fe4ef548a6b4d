import LoadBinding.Proofs.Opening
import LoadBinding.Proofs.Stepping

/-!
# Closing a context

The context of a provider is closed when its last registration is taken back.  Of the store this
asks nothing but to close the connections of the pool: the data, the faults and the draws stay as
they are, whether or not every connection can be closed.
-/

namespace LoadBinding

open LoadBinding.Action World

/-- Between two worlds nothing was asked of the store but to close connections. -/
structure World.Closes (w w' : World) : Prop where
  calls : ∃ issued, w'.calls = w.calls ++ issued ∧ ∀ call ∈ issued, call.isClose = true
  databases : w'.cluster.databases = w.cluster.databases
  commands : w'.cluster.commands = w.cluster.commands
  faults : w'.faults = w.faults
  draws : w'.draws = w.draws

instance : IsPreorder World World.Closes where
  refl _ := ⟨⟨[], by simp, by simp⟩, rfl, rfl, rfl, rfl⟩
  trans := by
    rintro w w' w'' ⟨⟨i, hi, ci⟩, hc, hm, hf, hd⟩ ⟨⟨j, hj, cj⟩, hc', hm', hf', hd'⟩
    refine ⟨⟨i ++ j, by rw [hj, hi, List.append_assoc], ?_⟩, hc'.trans hc, hm'.trans hm,
      hf'.trans hf, hd'.trans hd⟩
    intro call hcall
    rcases List.mem_append.mp hcall with h | h
    · exact ci call h
    · exact cj call h

instance : QuietOrder Closes where
  of_quiet hc hcluster hf hd _ :=
    ⟨⟨[], by simp [hc], by simp⟩, congrArg Cluster.databases hcluster,
      congrArg Cluster.commands hcluster, hf, hd⟩

/-- A client is closed by one call, whether or not a fault refuses it. -/
lemma closes_close (client : Client) : Keeps Closes (attempt client.close) := by
  intro w
  rw [run_attempt]
  rcases exec_close client w with ⟨e, h⟩ | h <;>
    exact ⟨⟨[.close client], by rw [h]; rfl, by simp [Call.isClose]⟩, by rw [h]; rfl,
      by rw [h]; rfl, by rw [h]; rfl, by rw [h]; rfl⟩

lemma closes_closeEndpoints (endpoints : List Endpoint) :
    Keeps Closes (Pool.closeEndpoints endpoints) := by
  induction endpoints with
  | nil => exact keeps_pure ()
  | cons e rest ih =>
    unfold Pool.closeEndpoints
    refine keeps_bind (closes_close e.client) fun closed => ?_
    cases closed with
    | ok _ => exact ih
    | error f => exact keeps_bind (keeps_log _ _ _) fun _ => ih

lemma Context.closes_close (c : Context) : Keeps Closes c.close := by
  unfold Context.close
  split
  · exact keeps_bind (keeps_bind (closes_closeEndpoints _) fun _ => keeps_pure _) fun _ =>
      keeps_pure _
  · exact keeps_pure _

namespace Harness

/-- Taking back a registration asks nothing of the store but to close connections. -/
lemma closes_release (h : Harness) (name : String) : Closes h.world (h.release name).world := by
  unfold release
  dsimp only
  split
  · exact keeps_log _ _ _ _
  · split
    · split
      · exact refl h.world
      · rename_i c _
        exact IsTrans.trans _ _ _ (c.closes_close h.world) (keeps_log _ _ _ _)
    · exact refl h.world

/-- Taking back a registration leaves the workers alone. -/
lemma workers_release (h : Harness) (name : String) : (h.release name).workers = h.workers := by
  unfold release
  dsimp only
  split
  · rfl
  · split
    · split <;> rfl
    · rfl

/-- Taking back a registration changes of the contexts at most the one that it closes. -/
lemma contexts_release (h : Harness) (name : String) :
    (h.release name).contexts = h.contexts ∨
      ∃ number c, h.contexts[number]? = some c ∧
        (h.release name).contexts = h.contexts.set number (c.close.run h.world).1 := by
  unfold release
  dsimp only
  split
  · exact .inl rfl
  · split
    · split
      · exact .inl rfl
      · rename_i c hc
        exact .inr ⟨_, c, hc, rfl⟩
    · exact .inl rfl

end Harness

end LoadBinding
