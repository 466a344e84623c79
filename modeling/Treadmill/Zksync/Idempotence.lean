import Treadmill.Zksync.Convergence
import Treadmill.Zksync.Subscriptions

/-!
# A second children pass over the same children
-/

namespace Treadmill.Zksync

section Listing

variable (p : ZkPath)

/-- The visible names under `fpath(p)` are those `Φ` holds of. -/
def Listing (Φ : String → Prop) (s : World) : Prop :=
  ∀ n, hidden n = false → (p ++ [n] ∈ s.files ↔ Φ n)

variable {p}

theorem Listing.mono {Φ Ψ : String → Prop} {s : World} (h : Listing p Φ s)
    (hΦ : ∀ n, hidden n = false → (Φ n ↔ Ψ n)) : Listing p Ψ s :=
  fun n hn => (h n hn).trans (hΦ n hn)

end Listing

namespace Repass

def nodes : AList fun _ : ZkPath => ZNode :=
  (∅ : AList fun _ : ZkPath => ZNode).insert ["p"] ⟨"", ⟨0⟩⟩ |>.insert ["p", "c"] ⟨"v", ⟨1⟩⟩

def temp : FsPath := ["p", ".tmpx"]

/-- After a pass over `['c']`: `/p/c` mirrored and `/p` processed. -/
def once : World :=
  { World.start nodes ∅ with
    fsLog := [.create temp 0, .write temp "v", .chmod temp, .utime temp 1, .rename temp ["p", "c"]]
    reads := [(["p", "c"], ⟨"v", ⟨1⟩⟩)]
    processedOnce := [["p"]] }

end Repass

namespace DotPass

def once : World :=
  { World.start DotChild.nodes ∅ with
    fsLog := [.create DotChild.temp 0, .write DotChild.temp "v", .chmod DotChild.temp,
      .utime DotChild.temp 1, .rename DotChild.temp ["p", ".x"]]
    reads := [(["p", ".x"], ⟨"v", ⟨1⟩⟩)]
    processedOnce := [["p"]] }

/-- After a second pass over `['.x']`: `/p/.x` written again. -/
def twice : World :=
  { once with
    fsLog := once.fsLog ++ [.create DotChild.temp 0, .write DotChild.temp "v",
      .chmod DotChild.temp, .utime DotChild.temp 1, .rename DotChild.temp ["p", ".x"]]
    reads := once.reads ++ [(["p", ".x"], ⟨"v", ⟨1⟩⟩)] }

end DotPass

end Treadmill.Zksync
