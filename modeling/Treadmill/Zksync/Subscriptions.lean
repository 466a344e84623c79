import Treadmill.Zksync.Closure
import Treadmill.Zksync.Callbacks

/-!
# Subscriptions

Installing a watch does not look at what is installed, so repeated calls add watches.
-/

namespace Treadmill.Zksync

section Install

variable {z : ZkPath} {J : World → Prop}
  (hJ : ∀ s ops rs, J s → J { s with fsLog := s.fsLog ++ ops, reads := s.reads ++ rs })

end Install

section Count

variable (p : ZkPath)

variable (k : Nat)

theorem settle_childWatches (r : EStateM.Result Err World Unit) :
    (settle r).childWatches = (after r).childWatches := by
  cases r with
  | ok => rfl
  | error e s => simp only [settle]; split <;> rfl

end Count

namespace Resubscribed

open OneChild

/-- After a second `sync_children('/p', watch_data=True)`: a second children watch on `/p`. -/
def twice : World :=
  { synced with
    childWatches := [⟨0, ["p"], true, none, true⟩, ⟨2, ["p"], true, none, true⟩]
    nextId := 3 }

/-- After `sync_data('/p/c')`: a second data watch on `/p/c`, and `/p/c` written again. -/
def resynced : World :=
  { twice with
    dataWatches := [⟨1, ["p", "c"], true⟩, ⟨3, ["p", "c"], true⟩]
    nextId := 4
    fsLog := twice.fsLog ++ [.create temp 0, .write temp "v1", .chmod temp, .utime temp 1,
      .rename temp ["p", "c"]]
    reads := twice.reads ++ [(["p", "c"], ⟨"v1", ⟨1⟩⟩)] }

theorem run :
    Run (World.start nodes ∅)
      [(World.start nodes ∅, .call (.syncChildren ["p"] true none none)),
        (synced, .call (.syncChildren ["p"] true none none)), (twice, .call (.syncData ["p", "c"]))]
      resynced :=
  .cons sync_children_step <| .cons (t := twice) (exec_step rfl) <|
    .cons (t := resynced) (exec_step rfl) <| .nil _

end Resubscribed

end Treadmill.Zksync
