import InputBindings.Generation
import InputBindings.Proofs.Traversal

/-!
# Batches

Programs that are rendered in batches get the texts that they would get one
after another. A worker that finishes fills its own slot and no other, so the
slots of a batch are the outcomes in the order of its programs, whatever the
order of finishing. The batches are the programs cut into pieces, so looking at
their slots piece by piece is going through the programs once, up to the first
that fails.

Main statement: `texts_independent_of_batches`.
-/

namespace InputBindings.Generation

variable {α β : Type}

/-! ## One batch -/

theorem length_fill (work : α → Except Error β) (batch : List α) (slots : List (Slot β))
    (i : Nat) : (fill work batch slots i).length = slots.length := by
  unfold fill
  split
  · rw [List.length_set]
  · rfl

/-- A worker that finishes fills its own slot and no other. -/
theorem getElem?_fill (work : α → Except Error β) (batch : List α) (slots : List (Slot β))
    (hlength : slots.length = batch.length) (i k : Nat) :
    (fill work batch slots k)[i]? =
      if i = k then batch[i]?.map fun task => some (work task) else slots[i]? := by
  unfold fill
  cases hk : batch[k]? with
  | none =>
      by_cases hik : i = k
      · subst hik
        have hlen : batch.length ≤ i := List.getElem?_eq_none_iff.mp hk
        rw [if_pos rfl, hk]
        exact List.getElem?_eq_none (hlength ▸ hlen)
      · rw [if_neg hik]
  | some task =>
      by_cases hik : i = k
      · subst hik
        have hlt : i < batch.length := (List.getElem?_eq_some_iff.mp hk).1
        rw [if_pos rfl, hk]
        exact List.getElem?_set_self (hlength ▸ hlt)
      · rw [if_neg hik]
        exact List.getElem?_set_ne (Ne.symm hik)

/-- After some workers have finished, their slots hold their outcomes and the
others what they held. -/
theorem getElem?_foldl_fill (work : α → Except Error β) (batch : List α) (order : List Nat)
    (slots : List (Slot β)) (hlength : slots.length = batch.length) (i : Nat) :
    (order.foldl (fill work batch) slots)[i]? =
      if i ∈ order then batch[i]?.map fun task => some (work task) else slots[i]? := by
  induction order generalizing slots with
  | nil => rw [List.foldl_nil, if_neg List.not_mem_nil]
  | cons k order ih =>
      rw [List.foldl_cons, ih _ ((length_fill work batch slots k).trans hlength),
        getElem?_fill work batch slots hlength]
      by_cases hik : i = k
      · simp [hik]
      · simp [hik]

/-- When all workers have finished, in whatever order, each slot holds the
outcome of its own task. -/
theorem finish_of_perm (work : α → Except Error β) (batch : List α) {order : List Nat}
    (horder : order.Perm (List.range batch.length)) :
    finish work batch order = batch.map fun task => some (work task) := by
  apply List.ext_getElem?
  intro i
  rw [finish, getElem?_foldl_fill work batch order _ List.length_replicate,
    List.getElem?_map]
  by_cases hi : i < batch.length
  · rw [if_pos (horder.mem_iff.mpr (List.mem_range.mpr hi))]
  · rw [if_neg fun h => hi (List.mem_range.mp (horder.mem_iff.mp h))]
    simp [hi]

theorem collect_map_some (work : α → Except Error β) (batch : List α) :
    collect (batch.map fun task => some (work task)) = batch.mapM work := by
  induction batch with
  | nil => rfl
  | cons task rest ih =>
      rw [List.map_cons, List.mapM_cons]
      cases hwork : work task with
      | error e => rfl
      | ok b =>
          rw [collect, ih]
          rfl

/-! ## All batches -/

theorem flatten_batches (size : Nat) (tasks : List α) : (batches size tasks).flatten = tasks := by
  induction tasks using batches.induct size with
  | case1 => simp [batches]
  | case2 task rest ih =>
      rw [batches, List.flatten_cons, ih, List.cons_append, List.take_append_drop]

theorem runBatches_eq_mapM (schedule : Schedule) (work : α → Except Error β) (number : Nat)
    (pieces : List (List α)) :
    runBatches schedule work number pieces = pieces.flatten.mapM work := by
  induction pieces generalizing number with
  | nil => rfl
  | cons batch rest ih =>
      rw [runBatches, finish_of_perm work batch (schedule.perm number batch.length),
        collect_map_some, ih, List.flatten_cons, List.mapM_append]

theorem batched_eq_sequential (schedule : Schedule) (size : Nat) (s : Settings)
    (programs : List (String × List Parameter)) :
    batched schedule size s programs = sequential s programs := by
  have hwork : batched schedule size s programs =
      (programs.mapM fun program => Parameter.emitText s program.1 program.2).map
        fun texts => (programs.map (·.1)).zip texts := by
    rw [batched, runBatches_eq_mapM, flatten_batches]
    rfl
  rw [hwork, Traversal.mapM_zip]
  rfl

theorem texts_eq_sequential (schedule : Schedule) (jobs : Int) (s : Settings)
    (programs : List (String × List Parameter)) :
    texts schedule jobs s programs = sequential s programs := by
  unfold texts
  split
  · rfl
  · exact batched_eq_sequential schedule _ s programs

theorem sequential_eq_mapM (s : Settings) (programs : List (String × List Parameter)) :
    sequential s programs = programs.mapM fun program =>
      (Parameter.emitText s program.1 program.2).map fun text => (program.1, text) := rfl

theorem sequential_eq_ok_iff {s : Settings} {programs : List (String × List Parameter)}
    {result : List (String × String)} :
    sequential s programs = .ok result ↔
      List.Forall₂ (fun program entry => entry.1 = program.1 ∧
        Parameter.emitText s program.1 program.2 = .ok entry.2) programs result := by
  rw [sequential_eq_mapM, Traversal.mapM_eq_ok_iff]
  have hentry : ∀ (program : String × List Parameter) (entry : String × String),
      (Parameter.emitText s program.1 program.2).map (fun text => (program.1, text)) =
          .ok entry ↔
        entry.1 = program.1 ∧ Parameter.emitText s program.1 program.2 = .ok entry.2 := by
    rintro program ⟨name, text⟩
    cases Parameter.emitText s program.1 program.2 with
    | error e => simp [Except.map]
    | ok text' => simp [Except.map, eq_comm]
  simp only [hentry]

theorem sequential_eq_error_iff {s : Settings} {programs : List (String × List Parameter)}
    {e : Error} :
    sequential s programs = .error e ↔
      ∃ before program after, programs = before ++ program :: after ∧
        (∀ earlier ∈ before, ∃ text,
          Parameter.emitText s earlier.1 earlier.2 = .ok text) ∧
        Parameter.emitText s program.1 program.2 = .error e := by
  rw [sequential_eq_mapM, Traversal.mapM_eq_error_iff]
  simp only [Traversal.map_eq_error_iff, Traversal.exists_map_eq_ok_iff]

/-- **Batches do not show.** Whatever the number of workers and the order in
which those of each batch finish, the programs get the texts that they get one
after another: each its own, in their order. And they fail as they do one after
another, with the error of the first program that fails. -/
theorem texts_independent_of_batches (schedule : Schedule) (jobs : Int) (s : Settings)
    (programs : List (String × List Parameter)) :
    (∀ other : Schedule, texts schedule jobs s programs = texts other 1 s programs) ∧
    (∀ result, texts schedule jobs s programs = .ok result ↔
      List.Forall₂ (fun program entry => entry.1 = program.1 ∧
        Parameter.emitText s program.1 program.2 = .ok entry.2) programs result) ∧
    (∀ e, texts schedule jobs s programs = .error e ↔
      ∃ before program after, programs = before ++ program :: after ∧
        (∀ earlier ∈ before, ∃ text,
          Parameter.emitText s earlier.1 earlier.2 = .ok text) ∧
        Parameter.emitText s program.1 program.2 = .error e) := by
  refine ⟨?_, ?_, ?_⟩
  · intro other
    rw [texts_eq_sequential, texts_eq_sequential]
  · intro result
    rw [texts_eq_sequential, sequential_eq_ok_iff]
  · intro e
    rw [texts_eq_sequential, sequential_eq_error_iff]

end InputBindings.Generation
