import InputBindings.Error

/-!
# Actions that may fail

An action on a state has a result, which may be a failure, and leaves a state. What
it does is put together from what its parts do: a part that succeeds hands its result
and its state on, and one that fails ends the action with the state it has left.
-/

namespace InputBindings

variable {σ α β : Type} {s v : σ} {action : ExceptT Error (StateM σ) α}
  {next : α → ExceptT Error (StateM σ) β} {inv : σ → Prop}

/-! ## One part after another -/

theorem run_lift (x : Except Error α) (s : σ) :
    (ExceptT.run (liftM x : ExceptT Error (StateM σ) α)).run s = (x, s) := rfl

theorem run_get (s : σ) : (ExceptT.run (get : ExceptT Error (StateM σ) σ)).run s = (.ok s, s) := rfl

theorem run_bind_of_ok {x : α} (h : (ExceptT.run action).run s = (.ok x, v)) :
    (ExceptT.run (action >>= next)).run s = (ExceptT.run (next x)).run v := by
  change ExceptT.bindCont next ((ExceptT.run action).run s).1 ((ExceptT.run action).run s).2 = _
  rw [h]
  rfl

theorem run_bind_of_error {e : Error} (h : (ExceptT.run action).run s = (.error e, v)) :
    (ExceptT.run (action >>= next)).run s = (.error e, v) := by
  change ExceptT.bindCont next ((ExceptT.run action).run s).1 ((ExceptT.run action).run s).2 = _
  rw [h]
  rfl

/-! ## Results and the states that are left -/

/-- The result of an action on a state, and the state that it leaves, are as
stated, whether or not it fails. -/
def Ensures (action : ExceptT Error (StateM σ) α) (s : σ) (post : Except Error α → σ → Prop) :
    Prop :=
  post ((ExceptT.run action).run s).1 ((ExceptT.run action).run s).2

theorem Ensures.bind {mid : Except Error α → σ → Prop} {post : Except Error β → σ → Prop}
    (h : Ensures action s mid) (hok : ∀ x v, mid (.ok x) v → Ensures (next x) v post)
    (herror : ∀ e v, mid (.error e) v → post (.error e) v) :
    Ensures (action >>= next) s post := by
  unfold Ensures at h ⊢
  cases hrun : (ExceptT.run action).run s with
  | mk result v =>
      rw [hrun] at h
      cases result with
      | error e =>
          rw [run_bind_of_error hrun]
          exact herror e v h
      | ok x =>
          rw [run_bind_of_ok hrun]
          exact hok x v h

/-- What is made of the result afterwards does not show in the state. -/
theorem run_bind_pure_snd (f : α → β) (s : σ) :
    ((ExceptT.run (action >>= fun x => pure (f x))).run s).2 =
      ((ExceptT.run action).run s).2 := by
  have h : Ensures action s fun _ v => v = ((ExceptT.run action).run s).2 := rfl
  have hbind : Ensures (action >>= fun x => pure (f x)) s
      fun _ v => v = ((ExceptT.run action).run s).2 := h.bind (fun x v hv => hv) fun e v hv => hv
  exact hbind

/-- What holds before the action holds after it. -/
def Preserves (inv : σ → Prop) (action : ExceptT Error (StateM σ) α) : Prop :=
  ∀ s, inv s → Ensures action s fun _ v => inv v

/-- What holds before the action holds after it, and if it fails it has changed
nothing. -/
def Whole (inv : σ → Prop) (action : ExceptT Error (StateM σ) α) : Prop :=
  ∀ s, inv s → Ensures action s fun result v => inv v ∧ ∀ e, result = .error e → v = s

/-- The action changes nothing. -/
def Reads (action : ExceptT Error (StateM σ) α) : Prop :=
  ∀ s, Ensures action s fun _ v => v = s

namespace Preserves

theorem pure (x : α) : Preserves inv (Pure.pure x) := fun _ h => h

theorem bind (h : Preserves inv action) (hnext : ∀ x, Preserves inv (next x)) :
    Preserves inv (action >>= next) := by
  intro s hs
  exact (h s hs).bind (fun x v hv => hnext x v hv) fun _ _ hv => hv

end Preserves

namespace Reads

theorem pure (x : α) : Reads (Pure.pure x : ExceptT Error (StateM σ) α) := fun _ => rfl

theorem get : Reads (MonadState.get : ExceptT Error (StateM σ) σ) := fun _ => rfl

theorem lift (x : Except Error α) : Reads (liftM x : ExceptT Error (StateM σ) α) := fun _ => rfl

theorem throw (e : Error) : Reads (MonadExcept.throw e : ExceptT Error (StateM σ) α) :=
  fun _ => rfl

theorem bind (h : Reads action) (hnext : ∀ x, Reads (next x)) : Reads (action >>= next) := by
  intro s
  refine (h s).bind ?_ fun _ _ hv => hv
  rintro x v rfl
  exact hnext x v

theorem whole (h : Reads action) (inv : σ → Prop) : Whole inv action := by
  intro s hs
  have hread := h s
  unfold Ensures at hread ⊢
  rw [hread]
  exact ⟨hs, fun _ _ => rfl⟩

end Reads

namespace Whole

theorem preserves (h : Whole inv action) : Preserves inv action := fun s hs => (h s hs).1

/-- What is made of the result afterwards does not matter. -/
theorem bind_pure (h : Whole inv action) (f : α → β) :
    Whole inv (action >>= fun x => Pure.pure (f x)) := by
  intro s hs
  refine (h s hs).bind ?_ ?_
  · intro x v hv
    exact ⟨hv.1, fun e he => by cases he⟩
  · intro e v hv
    exact ⟨hv.1, fun _ _ => hv.2 e rfl⟩

theorem read_bind (hread : Reads action) (hnext : ∀ x, Whole inv (next x)) :
    Whole inv (action >>= next) := by
  intro s hs
  refine (hread s).bind ?_ ?_
  · rintro x v rfl
    exact hnext x v hs
  · rintro e v rfl
    exact ⟨hs, fun _ _ => rfl⟩

end Whole

end InputBindings
