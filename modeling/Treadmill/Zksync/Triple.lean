import Treadmill.Zksync.Io

/-!
# Triples over the engine's monad
-/

namespace Treadmill.Zksync

/-- The world a computation leaves, whether it returned or raised. -/
def after {α : Type} : EStateM.Result Err World α → World
  | .ok _ s => s
  | .error _ s => s

@[simp] theorem after_ok {α : Type} (a : α) (s : World) :
    after (.ok a s : EStateM.Result Err World α) = s := rfl

@[simp] theorem after_error {α : Type} (e : Err) (s : World) :
    after (.error e s : EStateM.Result Err World α) = s := rfl

/-- From a world satisfying `P`, `x` returns `a` in a world satisfying `Q a`, or raises in a
world satisfying `R`. -/
def Triple {α : Type} (P : World → Prop) (x : Sync α) (Q : α → World → Prop) (R : World → Prop) :
    Prop :=
  ∀ s, P s → match x s with
    | .ok a s' => Q a s'
    | .error _ s' => R s'

/-- `x` keeps `I`, whether it returns or raises. -/
def Keeps {α : Type} (I : World → Prop) (x : Sync α) : Prop := Triple I x (fun _ => I) I

namespace Triple

variable {α β : Type} {P : World → Prop} {Q : α → World → Prop} {R : World → Prop} {s s' : World}

theorem ok_post {x : Sync α} {a : α} (h : Triple P x Q R) (hs : P s) (hx : x s = .ok a s') :
    Q a s' := by
  have := h s hs
  rwa [hx] at this

theorem error_post {x : Sync α} {e : Err} (h : Triple P x Q R) (hs : P s)
    (hx : x s = .error e s') : R s' := by
  have := h s hs
  rwa [hx] at this

theorem after_post {x : Sync α} {I : World → Prop} (h : Triple P x (fun _ => I) I) (hs : P s) :
    I (after (x s)) := by
  cases hx : x s with
  | ok a s' => exact h.ok_post hs hx
  | error e s' => exact h.error_post hs hx

theorem mono {x : Sync α} {P' : World → Prop} {Q' : α → World → Prop} {R' : World → Prop}
    (h : Triple P x Q R) (hP : ∀ s, P' s → P s) (hQ : ∀ a s, Q a s → Q' a s)
    (hR : ∀ s, R s → R' s) : Triple P' x Q' R' := by
  intro s hs
  cases hx : x s with
  | ok a s' => exact hQ a s' (h.ok_post (hP s hs) hx)
  | error e s' => exact hR s' (h.error_post (hP s hs) hx)

theorem pre {x : Sync α} {P' : World → Prop} (h : Triple P x Q R) (hP : ∀ s, P' s → P s) :
    Triple P' x Q R :=
  h.mono hP (fun _ _ h => h) fun _ h => h

theorem post {x : Sync α} {Q' : α → World → Prop} {R' : World → Prop} (h : Triple P x Q R)
    (hQ : ∀ a s, Q a s → Q' a s) (hR : ∀ s, R s → R' s) : Triple P x Q' R' :=
  h.mono (fun _ h => h) hQ hR

theorem conj {x : Sync α} {P' : World → Prop} {Q' : α → World → Prop} {R' : World → Prop}
    (h : Triple P x Q R) (h' : Triple P' x Q' R') :
    Triple (fun s => P s ∧ P' s) x (fun a s => Q a s ∧ Q' a s) (fun s => R s ∧ R' s) := by
  intro s hs
  cases hx : x s with
  | ok a s' => exact ⟨h.ok_post hs.1 hx, h'.ok_post hs.2 hx⟩
  | error e s' => exact ⟨h.error_post hs.1 hx, h'.error_post hs.2 hx⟩

theorem const {x : Sync α} {C : Prop} (h : Triple P x Q R) :
    Triple (fun s => P s ∧ C) x (fun a s => Q a s ∧ C) (fun s => R s ∧ C) := by
  intro s hs
  cases hx : x s with
  | ok a s' => exact ⟨h.ok_post hs.1 hx, hs.2⟩
  | error e s' => exact ⟨h.error_post hs.1 hx, hs.2⟩

theorem assume {x : Sync α} {C : Prop} (h : C → Triple P x Q R) : Triple (fun s => P s ∧ C) x Q R :=
  fun s hs => h hs.2 s hs.1

theorem of_forall {x : Sync α} {ι : Sort _} {P : ι → World → Prop} (h : ∀ i, Triple (P i) x Q R) :
    Triple (fun s => ∃ i, P i s) x Q R := fun s ⟨i, hs⟩ => h i s hs

theorem of_after {x : Sync α} {I : World → Prop} (h : ∀ s, P s → I (after (x s))) :
    Triple P x (fun _ => I) I := by
  intro s hs
  have := h s hs
  cases hx : x s <;> simpa [hx] using this

theorem ret {a : α} (h : ∀ s, P s → Q a s) : Triple P (pure a) Q R := h

theorem read {Q : World → World → Prop} (h : ∀ s, P s → Q s s) : Triple P get Q R := h

theorem update {f : World → World} {Q : PUnit → World → Prop} (h : ∀ s, P s → Q () (f s)) :
    Triple P (modify f) Q R := h

theorem raise {e : Err} (h : ∀ s, P s → R s) : Triple P (throw e : Sync α) Q R := h

theorem seq {x : Sync α} {f : α → Sync β} {M : α → World → Prop} {Q : β → World → Prop}
    (hx : Triple P x M R) (hf : ∀ a, Triple (M a) (f a) Q R) : Triple P (x >>= f) Q R := by
  intro s hs
  rw [bind_apply]
  cases h : x s with
  | ok a s' => exact hf a s' (hx.ok_post hs h)
  | error e s' => exact hx.error_post hs h

theorem seq_read {f : World → Sync β} {Q : β → World → Prop}
    (h : ∀ t, Triple (fun s => P s ∧ s = t) (f t) Q R) : Triple P (get >>= f) Q R :=
  seq (M := fun t s => P s ∧ s = t) (read fun _ hs => ⟨hs, rfl⟩) h

theorem seq_get {f : World → Sync β} {Q : β → World → Prop} (h : ∀ t, Triple P (f t) Q R) :
    Triple P (get >>= f) Q R :=
  seq_read fun t => (h t).pre (fun _ h => h.1)

theorem cond {c : Prop} [Decidable c] {x y : Sync α} (hx : c → Triple P x Q R)
    (hy : ¬c → Triple P y Q R) : Triple P (if c then x else y) Q R := by
  split
  · exact hx ‹_›
  · exact hy ‹_›

theorem handle {x : Sync α} {h : Err → Sync α} {M : World → Prop} (hx : Triple P x Q M)
    (hh : ∀ e, Triple M (h e) Q R) : Triple P (tryCatch x h) Q R := by
  intro s hs
  rw [tryCatch_apply]
  cases hxs : x s with
  | ok a s' => exact hx.ok_post hs hxs
  | error e s' => exact hh e s' (hx.error_post hs hxs)

/-- A loop whose body keeps an invariant indexed by the names still to visit. -/
theorem loop {l : List α} {f : α → Sync PUnit} {I : List α → World → Prop}
    (h : ∀ a rest, (a :: rest) <:+ l → Triple (I (a :: rest)) (f a) (fun _ => I rest) R) :
    Triple (I l) (l.forM f) (fun _ => I []) R := by
  induction l with
  | nil => exact ret fun _ hs => hs
  | cons a l ih =>
    rw [List.forM_cons']
    exact seq (h a l (List.suffix_refl _))
      fun _ => ih fun b rest hs => h b rest (hs.trans (List.suffix_cons a l))

end Triple

namespace Keeps

variable {α β : Type} {I : World → Prop}

theorem seq {x : Sync α} {f : α → Sync β} (hx : Keeps I x) (hf : ∀ a, Keeps I (f a)) :
    Keeps I (x >>= f) :=
  Triple.seq hx hf

theorem loop {l : List α} {f : α → Sync PUnit} (h : ∀ a ∈ l, Keeps I (f a)) : Keeps I (l.forM f) :=
  Triple.loop (I := fun _ => I) fun a _ hs => h a (hs.subset (List.mem_cons_self a _))

theorem of_world {x : Sync α} (h : ∀ s, I s → I (after (x s))) : Keeps I x :=
  Triple.of_after h

theorem after {x : Sync α} {s : World} (h : Keeps I x) (hs : I s) : I (Zksync.after (x s)) :=
  Triple.after_post h hs

end Keeps

end Treadmill.Zksync
