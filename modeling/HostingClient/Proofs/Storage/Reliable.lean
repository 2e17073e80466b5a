import HostingClient.Storage.Basic

/-! # Storages that do not fail

A reliable storage does what it is told to. What it holds is read as items or cannot be read; in the latter case
it gives no item, and the next change starts from no items. The storage in memory is reliable. -/

namespace HostingClient

/-- A storage that does not fail. -/
class ReliableStorage (σ : Type) [Storage σ] where
  /-- Whether the storage is in a state in which it does not fail. -/
  IsSound : σ → Prop
  /-- What the storage holds, as it is read. -/
  held : σ → Except Failure (Dict String)
  get_eq : ∀ {s : σ} (key : String), IsSound s →
    Storage.get key s = ((held s).map fun items => items.find? key, s)
  set_eq : ∀ {s : σ} (key value : String), IsSound s → ∃ later, Storage.set key value s = (.ok (), later) ∧
    IsSound later ∧ held later = .ok (((held s).toOption.getD .empty).insert key value)
  remove_eq : ∀ {s : σ} (key : String), IsSound s → ∃ later, Storage.remove key s = (.ok (), later) ∧
    IsSound later ∧ held later = .ok (((held s).toOption.getD .empty).erase key)

/-- The items that a reliable storage holds; none if they cannot be read. -/
def itemsOf {σ : Type} [Storage σ] [ReliableStorage σ] (s : σ) : Dict String :=
  (ReliableStorage.held s).toOption.getD .empty

/-- What can be read is among the items. -/
theorem find?_itemsOf {σ : Type} [Storage σ] [ReliableStorage σ] {s : σ} (h : ReliableStorage.IsSound s) {key : String}
    {value : Option String} (hv : (Storage.get key s).1 = .ok value) : (itemsOf s).find? key = value := by
  rw [ReliableStorage.get_eq key h] at hv
  unfold itemsOf
  cases hheld : ReliableStorage.held s with
  | ok items =>
    rw [hheld] at hv
    exact Except.ok.inj hv
  | error f =>
    rw [hheld] at hv
    cases hv

instance : ReliableStorage (Dict String) where
  IsSound _ := True
  held items := .ok items
  get_eq _ _ := rfl
  set_eq _ _ _ := ⟨_, rfl, trivial, rfl⟩
  remove_eq _ _ := ⟨_, rfl, trivial, rfl⟩

/-! ### Calls -/

/-- A call of a storage. -/
inductive StorageCall where
  | get (key : String)
  | set (key value : String)
  | remove (key : String)
deriving DecidableEq, Repr

namespace StorageCall

/-- Whether a call changes nothing. -/
def isGet : StorageCall → Bool
  | get _ => true
  | _ => false

/-- What a call that changes items makes of them. -/
def change : StorageCall → Dict String → Dict String
  | get _, items => items
  | set key value, items => items.insert key value
  | remove key, items => items.erase key

end StorageCall

/-- What a storage replies to a call. -/
inductive StorageReply where
  | value (r : Except Failure (Option String))
  | done (r : Except Failure Unit)

section
variable {σ : Type} [Storage σ]

/-- Makes a call. -/
def StorageCall.perform (s : σ) : StorageCall → StorageReply × σ
  | get key => let (r, s) := Storage.get key s; (.value r, s)
  | set key value => let (r, s) := Storage.set key value s; (.done r, s)
  | remove key => let (r, s) := Storage.remove key s; (.done r, s)

/-- Makes some calls, one after the other. -/
def StorageCall.performAll : σ → List StorageCall → List StorageReply × σ
  | s, [] => ([], s)
  | s, c :: calls =>
    let (reply, s) := c.perform s
    let (replies, s) := performAll s calls
    (reply :: replies, s)

end

end HostingClient
