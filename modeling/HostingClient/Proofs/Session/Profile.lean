import HostingClient.Proofs.Json.Accepted
import HostingClient.Proofs.Time.Timestamp
import HostingClient.Session.Basic

/-! # Profiles round trip

A profile that was decoded once is restored from what a session stores of it. The only field of a profile that
not every value survives is the time of its creation, and whatever is decoded has one that timestamps can have. -/

namespace HostingClient

namespace Profile

/-- Whether a profile can come from decoding. -/
def IsDecoded (u : Profile) : Prop := ∃ p o, record.decode p o = .ok u

theorem IsDecoded.isReadable {u : Profile} (h : u.IsDecoded) : u.createdAt.IsReadable := by
  obtain ⟨p, o, h⟩ := h
  obtain ⟨q, as, -, rfl, has⟩ := Record.accepted_of_decode h
  obtain ⟨-, -, -, -, -, -, -, hcreated, -⟩ := has
  rcases hcreated with ⟨o', -, hd⟩ | hd | hd
  · exact Codec.isReadable_of_decode hd
  · cases hd
  · cases hd

theorem restores {u : Profile} (h : u.IsDecoded) : record.codec.Restores 2 u := by
  have htext := fun s => (Codec.restores_text s).mono (Nat.zero_le 1)
  have hflag := fun b => (Codec.restores_flag b).mono (Nat.zero_le 1)
  have hroles : (Codec.list Codec.text).Restores 1 u.roles :=
    Codec.restores_list fun s _ => Codec.restores_text s
  have hmetadata : (Codec.dict Codec.text).Restores 1 u.metadata :=
    Codec.restores_dict fun e _ => Codec.restores_text e.2
  have hcreated := (Codec.restores_timestamp h.isReadable).mono (Nat.zero_le 1)
  refine record.restores rfl (by decide) ?_
  exact ⟨htext _, htext _, htext _, htext _, hflag _, hflag _, hroles, hcreated, hflag _, hmetadata, trivial⟩

/-- **A profile is decoded from what a session stores of it.** -/
theorem run_storedUser {u : Profile} (h : u.IsDecoded) : record.decode.run (Session.storedUser u) = .ok u :=
  (restores h |>.mono (by decide)).run_compact

end Profile

end HostingClient
