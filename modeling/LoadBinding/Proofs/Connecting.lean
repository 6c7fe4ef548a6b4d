import LoadBinding.Proofs.Leaks
import LoadBinding.Proofs.PoolClients
import LoadBinding.Proofs.SettingUp
import LoadBinding.Proofs.Stepping

/-!
# Connecting the clients of a pool

The first registration with a provider makes a context, and with it the pool of its endpoints.  In a
deployment without faults this connects one client for each endpoint, in their order and with the
same options.  When the settings ask for encryption, a client of the key vault is connected and
closed before, and the first client of the pool is also told how to encrypt.

The calls that open and close connections are taken out of the record (`Call.isLink`), and
`World.Links` says which of them were made between two worlds and which connections they have left.
-/

namespace LoadBinding

open LoadBinding.Action World

/-! ## Opening and closing connections -/

/-- Whether a call opens or closes a connection. -/
def Call.isLink (call : Call) : Bool :=
  call.isConnect || call.isClose

/-- Between two worlds some calls have opened and closed connections, and have left new ones. -/
structure World.Links (links : List Call) (left : List Connection) (w w' : World) : Prop where
  calls : ∃ issued, w'.calls = w.calls ++ issued ∧ issued.filter Call.isLink = links
  connections : w'.cluster.connections = w.cluster.connections ++ left
  faults : w'.faults = w.faults

namespace World

variable {calls calls' : List Call} {left left' : List Connection} {w w' w'' : World}

lemma Links.trans (h : Links calls left w w') (h' : Links calls' left' w' w'') :
    Links (calls ++ calls') (left ++ left') w w'' := by
  obtain ⟨issued, hissued, rfl⟩ := h.calls
  obtain ⟨issued', hissued', rfl⟩ := h'.calls
  refine ⟨⟨issued ++ issued', ?_, List.filter_append _ _⟩, ?_, h'.faults.trans h.faults⟩
  · rw [hissued', hissued, List.append_assoc]
  · rw [h'.connections, h.connections, List.append_assoc]

lemma filter_isLink_eq_nil {issued : List Call}
    (h : ∀ call ∈ issued, call.isConnect = false ∧ call.isClose = false) :
    issued.filter Call.isLink = [] := by
  refine List.filter_eq_nil_iff.mpr fun call hcall => ?_
  obtain ⟨hconnect, hclose⟩ := h call hcall
  simp [Call.isLink, hconnect, hclose]

lemma KeepsLinks.links (h : KeepsLinks w w') : Links [] [] w w' := by
  obtain ⟨issued, hissued, hplain⟩ := h.calls
  refine ⟨⟨issued, hissued, filter_isLink_eq_nil hplain⟩, ?_, h.faults⟩
  rw [h.connections, List.append_nil]

end World

section Endpoints

variable {s : Settings} {w w' : World}

/-- A set-up connects its client and closes it again. -/
lemma Encryption.ClosesBoth.links {url : String} (h : ClosesBoth s url w w') :
    Links [.connect (w.cluster.nextClient (Url.withScheme url)) (clientOptions s),
      .close (w.cluster.nextClient (Url.withScheme url))] [⟨Url.withScheme url, true⟩] w w' := by
  obtain ⟨client, issued, rfl, hcalls, hplain⟩ := h.calls
  refine ⟨⟨_, hcalls.trans (List.append_assoc ..), ?_⟩, h.connections, h.faults⟩
  simp [List.filter_append, filter_isLink_eq_nil hplain, Call.isLink, Call.isConnect,
    Call.isClose]

namespace Encryption

end Encryption

open Encryption

end Endpoints

/-! ## Options -/

namespace Harness

variable {h h' : Harness}

end Harness

end LoadBinding
