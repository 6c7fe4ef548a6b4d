import Mathlib
import LoadBinding.Harness

/-!
# Running activities

An activity is a function from the world that it finds to its result and the world that it leaves
behind.  This file says how the activities of the library run: `exec` runs an action, and the laws
`exec_*` and `run_*` take a run apart along the way in which the activity was put together.

Two ways of reasoning rest on them.  Where the result matters, the laws are used as equations.
Where only the trace matters that an activity leaves in the world, `Keeps R` says that the world
before and the world after are always related by `R`; for a preorder `R` this is closed under
sequencing, so it is shown once for every call to the store and follows for everything built from
them.
-/

namespace LoadBinding

open LoadBinding.Text

/-- The world after a call has been recorded. -/
def World.noted (w : World) (call : Call) : World :=
  { w with calls := w.calls ++ [call] }

section Noted

variable (w : World) (call : Call)

@[simp] lemma World.noted_calls : (w.noted call).calls = w.calls ++ [call] := rfl

/-- Recording a call leaves the deployment alone. -/
@[simp] lemma World.noted_cluster : (w.noted call).cluster = w.cluster := rfl

end Noted

namespace Action

variable {α β : Type}

/-! ## Equations -/

/-- What an action returns or fails with in a world, and the world that it leaves behind. -/
def exec (a : Action α) (w : World) : Except Failure α × World :=
  (attempt a).run w

lemma run_attempt (a : Action α) (w : World) : (attempt a).run w = exec a w := rfl

lemma run_pure (x : α) (w : World) : (pure x : StateM World α).run w = (x, w) := rfl

/-- A sequence of activities runs the second in the world that the first leaves behind. -/
lemma run_bind (a : StateM World α) (f : α → StateM World β) (w : World) :
    (a >>= f).run w = (f (a.run w).1).run (a.run w).2 := rfl

/-- Messages go to the end of the log, and nothing else changes. -/
lemma run_logAll (entries : List Log.Entry) (w : World) :
    (logAll entries).run w = ((), { w with entries := w.entries ++ entries }) := rfl

lemma exec_get (w : World) : exec (get : Action World) w = (.ok w, w) := rfl

lemma exec_modify (f : World → World) (w : World) :
    exec (modify f : Action Unit) w = (.ok (), f w) := rfl

/-- An activity that cannot fail succeeds as an action, with what it returns. -/
lemma exec_liftM (a : StateM World α) (w : World) :
    exec (liftM a : Action α) w = (.ok (a.run w).1, (a.run w).2) := rfl

/-- An action whose failure is caught succeeds, with the failure as its result. -/
lemma exec_outcome (a : Action α) (w : World) :
    exec (outcome a) w = (.ok (exec a w).1, (exec a w).2) := rfl

/-- A change of the deployment leaves the rest of the world as it is. -/
lemma exec_modifyCluster (f : Cluster → Cluster) (w : World) :
    exec (modifyCluster f) w = (.ok (), { w with cluster := f w.cluster }) := rfl

/-- A sequence of actions ends with the failure of the first, if it fails. -/
lemma exec_bind (a : Action α) (f : α → Action β) (w : World) :
    exec (a >>= f) w =
      match exec a w with
      | (.ok x, w') => exec (f x) w'
      | (.error e, w') => (.error e, w') := by
  change ExceptT.bind a f w = _
  unfold ExceptT.bind ExceptT.mk
  change StateT.bind a (ExceptT.bindCont f) w = _
  unfold StateT.bind exec attempt ExceptT.run StateT.run
  cases a w with
  | mk r w' => cases r <;> rfl

/-- After an action that succeeds, a sequence goes on in the world that the action leaves. -/
lemma exec_bind_of_ok {a : Action α} {w w' : World} {x : α} (h : exec a w = (.ok x, w'))
    (f : α → Action β) : exec (a >>= f) w = exec (f x) w' := by
  rw [exec_bind, h]

/-- A failure cuts a sequence short. -/
lemma exec_bind_of_error {a : Action α} {w w' : World} {e : Failure}
    (h : exec a w = (.error e, w')) (f : α → Action β) :
    exec (a >>= f) w = (.error e, w') := by
  rw [exec_bind, h]

/-- A sequence that succeeds is made of two actions that do. -/
lemma exec_bind_eq_ok {a : Action α} {f : α → Action β} {w w' : World} {y : β}
    (h : exec (a >>= f) w = (.ok y, w')) :
    ∃ x w₁, exec a w = (.ok x, w₁) ∧ exec (f x) w₁ = (.ok y, w') := by
  rw [exec_bind] at h
  cases ha : exec a w with
  | mk r w₁ =>
    rw [ha] at h
    cases r with
    | error e => cases h
    | ok x => exact ⟨x, w₁, rfl, h⟩

/-- A call is recorded first, and then a fault at its address comes to light. -/
lemma exec_record (call : Call) (w : World) :
    exec (record call) w =
      (match w.faults.get? call.address with
        | some f => .error (.fault f)
        | none => .ok (), w.noted call) := by
  unfold record
  rw [exec_bind_of_ok (exec_modify _ w), exec_bind_of_ok (exec_get _)]
  dsimp only
  cases w.faults.get? call.address <;> rfl

/-- A call that meets a fault fails, but has been recorded by then. -/
lemma exec_record_of_fault {call : Call} {w : World} {f : Fault}
    (h : w.faults.get? call.address = some f) :
    exec (record call) w = (.error (.fault f), w.noted call) := by
  rw [exec_record, h]

lemma exec_record_of_no_fault {call : Call} {w : World}
    (h : w.faults.get? call.address = none) :
    exec (record call) w = (.ok (), w.noted call) := by
  rw [exec_record, h]

lemma exec_ofStore_ok (x : α) (w : World) : exec (ofStore (.ok x)) w = (.ok x, w) := rfl

/-- A refusal of the store is a failure, and leaves the world as it is. -/
lemma exec_ofStore_error (e : StoreError) (w : World) :
    exec (ofStore (.error e) : Action α) w = (.error (.store e), w) := rfl

/-- Whatever world an activity starts in, what it returns has a property. -/
def Returns (P : α → Prop) (a : StateM World α) : Prop :=
  ∀ w, P (a.run w).1

lemma returns_pure {P : α → Prop} {x : α} (h : P x) : Returns P (pure x) :=
  fun _ => h

/-- What a sequence returns is returned by its last part. -/
lemma returns_bind {P : β → Prop} (a : StateM World α) {f : α → StateM World β}
    (h : ∀ x, Returns P (f x)) : Returns P (a >>= f) :=
  fun w => h _ (a.run w).2

/-! ## What an activity keeps -/

/-- The world before an activity and the world after it are always related. -/
def Keeps (R : World → World → Prop) (a : StateM World α) : Prop :=
  ∀ w, R w (a.run w).2

section Relation

variable {R : World → World → Prop}

/-- What relates a world to the one after an action, for an action whose run is known. -/
lemma rel_of_exec {a : Action α} {w w' : World} {r : Except Failure α}
    (ha : R w (exec a w).2) (h : exec a w = (r, w')) : R w w' := by
  rwa [h] at ha

/-- It makes no difference to the world whether a failure is caught. -/
lemma keeps_attempt_outcome {a : Action α} (ha : Keeps R (attempt a)) :
    Keeps R (attempt (outcome a)) :=
  fun w => ha w

lemma keeps_attempt_lift {a : StateM World α} (ha : Keeps R a) :
    Keeps R (attempt (ExceptT.lift a)) :=
  fun w => ha w

lemma keeps_attempt_liftM {a : StateM World α} (ha : Keeps R a) :
    Keeps R (attempt (liftM a : Action α)) :=
  fun w => ha w

end Relation

section Preorder

variable {R : World → World → Prop} [IsPreorder World R]

/-- An activity that returns at once changes nothing. -/
lemma keeps_pure (x : α) : Keeps R (pure x : StateM World α) :=
  fun w => refl w

/-- A sequence keeps what both of its parts keep, whatever the first returns. -/
lemma keeps_bind {a : StateM World α} {f : α → StateM World β} (ha : Keeps R a)
    (hf : ∀ x, Keeps R (f x)) : Keeps R (a >>= f) := by
  intro w
  rw [run_bind]
  exact IsTrans.trans _ _ _ (ha w) (hf _ _)

/-- In a sequence of actions the second has to keep the relation only where the first succeeds. -/
lemma rel_exec_bind {a : Action α} {f : α → Action β} {w : World} (ha : R w (exec a w).2)
    (hf : ∀ x w', exec a w = (.ok x, w') → R w' (exec (f x) w').2) :
    R w (exec (a >>= f) w).2 := by
  rw [exec_bind]
  cases h : exec a w with
  | mk r w' =>
    rw [h] at ha
    cases r with
    | error e => exact ha
    | ok x => exact IsTrans.trans _ _ _ ha (hf x w' h)

/-- A sequence of actions keeps what both of its parts keep, also where the first one fails. -/
lemma keeps_attempt_bind {a : Action α} {f : α → Action β} (ha : Keeps R (attempt a))
    (hf : ∀ x, Keeps R (attempt (f x))) : Keeps R (attempt (a >>= f)) :=
  fun w => rel_exec_bind (ha w) fun x w' _ => hf x w'

lemma keeps_attempt_pure (x : α) : Keeps R (attempt (pure x : Action α)) :=
  fun w => refl w

/-- A failure by itself touches nothing. -/
lemma keeps_attempt_throw (e : Failure) : Keeps R (attempt (throw e : Action α)) :=
  fun w => refl w

lemma keeps_attempt_get : Keeps R (attempt (get : Action World)) :=
  fun w => refl w

/-- Reporting a refusal of the store touches nothing. -/
lemma keeps_attempt_ofStore (r : Except StoreError α) : Keeps R (attempt (ofStore r)) := by
  cases r with
  | ok x => exact keeps_attempt_pure x
  | error e => exact keeps_attempt_throw _

end Preorder

end Action

end LoadBinding
