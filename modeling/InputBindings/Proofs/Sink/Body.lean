import InputBindings.Proofs.Sink.Forest

/-!
# Blocks that are left halfway

The body of a block is a row of lines, of further blocks and of failures, and it is left at the
first thing that fails: a failure of its own, or a line or a header for which there is no room in
front. How far a body gets can be told without a sink, from the column that it stands at. It comes
to a forest in which the blocks around the failure are as complete as all others: each has its
footer behind what its body has written, and hands the failure on as it is.

Main statement: `block_restores`.
-/

namespace InputBindings.Sink

open Writing

/-! ## Bodies -/

/-- A part of the body of a block. -/
inductive Part
  | line (statement : String)
  | block (header : String) (body : List Part) (footer : String)
  | fail (cause : Error)

mutual
def action : Part → Writing Unit
  | .line statement => Writing.line statement
  | .block header body footer => Writing.block header footer (actionEach body)
  | .fail cause => throw cause
/-- One part after another, until one fails. -/
def actionEach : List Part → Writing Unit
  | [] => pure ()
  | p :: ps => do
    action p
    actionEach ps
end

mutual
/-- The failures that stand in a part. -/
def causes : Part → List Error
  | .line _ => []
  | .block _ body _ => causesEach body
  | .fail cause => [cause]
def causesEach : List Part → List Error
  | [] => []
  | p :: ps => causes p ++ causesEach ps
end

/-! ## How far a body gets -/

mutual
/-- The pieces that become of a part at a level, and how it ends. A block ends as its body does. -/
inductive Gets (base step : Int) : Nat → Part → List Piece → Except Error Unit → Prop
  | fail {level : Nat} (cause : Error) : Gets base step level (.fail cause) [] (.error cause)
  | line {level : Nat} {blanks : String} (room : indentation (column base step level) = .ok blanks)
      (statement : String) : Gets base step level (.line statement) [.statement statement] (.ok ())
  | lineRefused {level : Nat} {e : Error} (room : indentation (column base step level) = .error e)
      (statement : String) : Gets base step level (.line statement) [] (.error e)
  | block {level : Nat} {blanks : String} {body : List Part} {inner : List Piece}
      {result : Except Error Unit} (room : indentation (column base step level) = .ok blanks)
      (header footer : String) (inside : GetsEach base step (level + 1) body inner result) :
      Gets base step level (.block header body footer) [.block header inner footer] result
  | headerRefused {level : Nat} {e : Error}
      (room : indentation (column base step level) = .error e) (header footer : String)
      (body : List Part) : Gets base step level (.block header body footer) [] (.error e)
/-- The pieces that become of a body at a level, and how it ends. -/
inductive GetsEach (base step : Int) : Nat → List Part → List Piece → Except Error Unit → Prop
  | nil {level : Nat} : GetsEach base step level [] [] (.ok ())
  | cons {level : Nat} {p : Part} {ps : List Part} {pieces more : List Piece}
      {result : Except Error Unit} (first : Gets base step level p pieces (.ok ()))
      (rest : GetsEach base step level ps more result) :
      GetsEach base step level (p :: ps) (pieces ++ more) result
  | left {level : Nat} {p : Part} {pieces : List Piece} {e : Error}
      (first : Gets base step level p pieces (.error e)) (ps : List Part) :
      GetsEach base step level (p :: ps) pieces (.error e)
end

variable {base step : Int} {level : Nat} {p : Part} {body : List Part} {pieces : List Piece}
  {result : Except Error Unit} {e : Error}

theorem placedEach_append (level : Nat) (ps qs : List Piece) :
    placedEach level (ps ++ qs) = placedEach level ps ++ placedEach level qs := by
  simp only [placedEach_eq_flatMap, List.flatMap_append]

theorem indented_eq {blanks : String} (room : indentation (column base step level) = .ok blanks)
    (text : String) : indented base step (level, text) = blanks ++ text := by
  obtain ⟨-, rfl⟩ := indentation_eq_ok room
  rfl

/-- The lines of a block: its header, what its body has come to, and its footer. -/
theorem map_indented_block {blanks : String}
    (room : indentation (column base step level) = .ok blanks) (header footer : String)
    (inner : List Piece) :
    (placedEach level [.block header inner footer]).map (indented base step) =
      [blanks ++ header] ++ (placedEach (level + 1) inner).map (indented base step) ++
        [blanks ++ footer] := by
  have hheader := indented_eq room header
  have hfooter := indented_eq room footer
  simp [placedEach, placed, hheader, hfooter]

-- On a part and on a body together. A block hands its result on, so the case of a block need
-- not ask whether its body has failed; only the parts behind it do.
mutual
/-- Whatever stands around it, a part comes to the pieces that it gets. -/
theorem exists_gets (base step : Int) (level : Nat) : ∀ p : Part, ∃ pieces result,
    Gets base step level p pieces result ∧
      Writes (action p) (column base step level) step result
        ((placedEach level pieces).map (indented base step))
  | .fail cause => ⟨[], _, .fail cause, Writes.throw⟩
  | .line statement => by
      cases room : indentation (column base step level) with
      | error e => exact ⟨[], _, .lineRefused room statement, Writes.line_error room⟩
      | ok blanks =>
          refine ⟨_, _, .line room statement, ?_⟩
          have hline : (placedEach level [.statement statement]).map (indented base step) =
              [blanks ++ statement] := by
            simp [placedEach, placed, indented_eq room]
          rw [hline]
          exact Writes.line_ok room
  | .block header body footer => by
      cases room : indentation (column base step level) with
      | error e => exact ⟨[], _, .headerRefused room header footer body, Writes.block_error room⟩
      | ok blanks =>
          obtain ⟨inner, result, hgets, hwrites⟩ := exists_getsEach base step (level + 1) body
          refine ⟨_, _, .block room header footer hgets, ?_⟩
          rw [map_indented_block room]
          rw [column_succ] at hwrites
          exact Writes.block room hwrites
theorem exists_getsEach (base step : Int) (level : Nat) : ∀ body : List Part, ∃ pieces result,
    GetsEach base step level body pieces result ∧
      Writes (actionEach body) (column base step level) step result
        ((placedEach level pieces).map (indented base step))
  | [] => ⟨[], _, .nil, Writes.pure ()⟩
  | p :: ps => by
      obtain ⟨pieces, result, hfirst, hwrites⟩ := exists_gets base step level p
      cases result with
      | error e => exact ⟨pieces, _, .left hfirst ps, Writes.bind_error hwrites⟩
      | ok _ =>
          obtain ⟨more, result, hrest, hmore⟩ := exists_getsEach base step level ps
          refine ⟨pieces ++ more, result, .cons hfirst hrest, ?_⟩
          rw [placedEach_append, List.map_append]
          exact Writes.bind_ok hwrites hmore
end

mutual
/-- A failure stands in the part, or there is no room in front of a line or a header. -/
theorem cause_of_gets {level : Nat} : ∀ {p : Part} {pieces : List Piece},
    Gets base step level p pieces (.error e) →
      e ∈ causes p ∨ ∃ inside, level ≤ inside ∧ indentation (column base step inside) = .error e
  | .fail _, _, .fail _ => Or.inl (List.mem_singleton_self _)
  | .line _, _, .lineRefused room _ => Or.inr ⟨level, Nat.le_refl _, room⟩
  | .block _ _ _, _, .headerRefused room _ _ _ => Or.inr ⟨level, Nat.le_refl _, room⟩
  | .block _ body _, _, .block _ _ _ hinside => by
      rcases cause_of_getsEach hinside with hcause | ⟨inside, hle, room⟩
      · exact Or.inl hcause
      · exact Or.inr ⟨inside, Nat.le_of_succ_le hle, room⟩
theorem cause_of_getsEach {level : Nat} : ∀ {body : List Part} {pieces : List Piece},
    GetsEach base step level body pieces (.error e) →
      e ∈ causesEach body ∨
        ∃ inside, level ≤ inside ∧ indentation (column base step inside) = .error e
  | p :: ps, _, .cons _ hrest => by
      rcases cause_of_getsEach hrest with hcause | hroom
      · exact Or.inl (List.mem_append_right _ hcause)
      · exact Or.inr hroom
  | p :: ps, _, .left hfirst _ => by
      rcases cause_of_gets hfirst with hcause | hroom
      · exact Or.inl (List.mem_append_left _ hcause)
      · exact Or.inr hroom
end

/-! ## Blocks on a desk -/

mutual
/-- A part as a step of a script that works on one sink. -/
def scriptStep (sink : Nat) : Part → Desk.Step
  | .line statement => .line sink statement
  | .block header body footer => .block sink header footer (script sink body)
  | .fail cause => .fail cause
def script (sink : Nat) : List Part → List Desk.Step
  | [] => []
  | p :: ps => scriptStep sink p :: script sink ps
end

variable {α : Type} {sink : Nat} {desk : Desk} {w : Sink}

/-- What an action does to one sink of a desk. -/
def OnSink (sink : Nat) (steps : DeskAction α) (act : Writing α) : Prop :=
  ∀ (desk : Desk) (w : Sink), desk[sink]? = some w →
    (ExceptT.run steps).run desk = ((act.run w).1, desk.set sink (act.run w).2)

theorem onSink_on (sink : Nat) (act : Writing α) : OnSink sink (Desk.on sink act) act :=
  fun _ _ hw => Desk.run_on_some hw

theorem getElem?_set_of_some {v : Sink} (hw : desk[sink]? = some w) :
    (desk.set sink v)[sink]? = some v := by
  obtain ⟨hlt, -⟩ := List.getElem?_eq_some_iff.mp hw
  exact List.getElem?_set_self hlt

theorem OnSink.pure (x : α) : OnSink sink (Pure.pure x) (Pure.pure x) := by
  intro desk w hw
  obtain ⟨hlt, hget⟩ := List.getElem?_eq_some_iff.mp hw
  have hsame : desk.set sink w = desk := by rw [← hget, List.set_getElem_self]
  show ((Except.ok x : Except Error α), desk) = (.ok x, desk.set sink w)
  rw [hsame]

theorem OnSink.throw (e : Error) :
    OnSink sink (MonadExcept.throw e : DeskAction α) (MonadExcept.throw e) := by
  intro desk w hw
  obtain ⟨hlt, hget⟩ := List.getElem?_eq_some_iff.mp hw
  have hsame : desk.set sink w = desk := by rw [← hget, List.set_getElem_self]
  show ((Except.error e : Except Error α), desk) = (.error e, desk.set sink w)
  rw [hsame]

theorem OnSink.bind {β : Type} {steps : DeskAction α} {act : Writing α}
    {next : α → DeskAction β} {after : α → Writing β} (h : OnSink sink steps act)
    (hnext : ∀ x, OnSink sink (next x) (after x)) :
    OnSink sink (steps >>= next) (act >>= after) := by
  intro desk w hw
  have hfirst := h desk w hw
  cases hrun : act.run w with
  | mk result v =>
      rw [hrun] at hfirst
      cases result with
      | error e => rw [run_bind_of_error hfirst, run_bind_error hrun]
      | ok x =>
          have hsecond := hnext x (desk.set sink v) v (getElem?_set_of_some hw)
          rw [run_bind_of_ok hfirst, run_bind_ok hrun, hsecond, List.set_set]

theorem OnSink.closing {steps : DeskAction α} {act : Writing α} (footer : String)
    (h : OnSink sink steps act) :
    OnSink sink (Desk.closing sink footer steps) (Writing.closing footer act) := by
  intro desk w hw
  have hfirst := h desk w hw
  have hclose := onSink_on sink (closeBlock footer) (desk.set sink (act.run w).2) (act.run w).2
    (getElem?_set_of_some hw)
  cases hbody : act.run w with
  | mk result v =>
      rw [hbody] at hfirst hclose
      cases houtcome : (closeBlock footer).run v with
      | mk outcome u =>
          rw [houtcome, List.set_set] at hclose
          unfold ExceptT.run StateT.run at hfirst hclose
          unfold Desk.closing Writing.closing ExceptT.run ExceptT.mk StateT.run
          simp only [hfirst, hclose, run_ofRun, hbody, houtcome]
          cases outcome <;> rfl

mutual
theorem onSink_scriptStep (sink : Nat) : ∀ p : Part,
    OnSink sink (scriptStep sink p).run (action p >>= fun _ => Pure.pure Desk.Answer.done)
  | .line statement => by
      rw [scriptStep, Desk.Step.run, action]
      exact (onSink_on sink _).bind fun _ => .pure _
  | .block header body footer => by
      rw [scriptStep, Desk.Step.run, action, Writing.block, bind_assoc]
      refine (onSink_on sink _).bind fun _ => ?_
      exact ((onSink_script sink body).closing footer).bind fun _ => .pure _
  | .fail cause => by
      rw [scriptStep, Desk.Step.run, action]
      exact .throw cause
theorem onSink_script (sink : Nat) : ∀ body : List Part,
    OnSink sink (Desk.runBody (script sink body)) (actionEach body)
  | [] => by
      rw [script, Desk.runBody, actionEach]
      exact .pure ()
  | p :: ps => by
      rw [script, Desk.runBody, actionEach]
      have hboth := (onSink_scriptStep sink p).bind fun _ => onSink_script sink ps
      simp only [bind_assoc, pure_bind] at hboth
      exact hboth
end

/-! ## Blocks -/

/-- Without room in front of the header nothing happens to the sink. -/
theorem run_block_of_error (room : indentation w.depth = .error e) (header footer : String)
    (body : List Part) : (action (.block header body footer)).run w = (.error e, w) := by
  have hblock : Writes (action (.block header body footer)) w.depth w.step (.error e) [] :=
    Writes.block_error room
  have hrun := hblock w rfl rfl
  rw [List.append_nil] at hrun
  exact hrun

/-- The sink that a header leaves to the body, which then comes to what it gets. -/
theorem exists_openBlock_of_writes {blanks : String} {lines : List String}
    (room : indentation w.depth = .ok blanks)
    (hwrites : Writes (actionEach body) (w.depth + w.step) w.step result lines) (header : String) :
    ∃ v, (openBlock header).run w = (.ok (), v) ∧ ((actionEach body).run v).1 = result := by
  have hinside := hwrites { w with
    lines := w.lines ++ [blanks ++ header]
    opened := w.depth :: w.opened
    depth := w.depth + w.step } rfl rfl
  exact ⟨_, run_openBlock_ok room, congrArg Prod.fst hinside⟩

/-- A step of a script that is a block does to its sink what the block does. -/
theorem outcome_block (hw : desk[sink]? = some w) (header footer : String) (body : List Part) :
    (Desk.Step.block sink header footer (script sink body)).outcome desk =
      (((action (.block header body footer)).run w).1.map fun _ => .done,
        desk.set sink ((action (.block header body footer)).run w).2) := by
  have hrun := onSink_scriptStep sink (.block header body footer) desk w hw
  rw [scriptStep] at hrun
  rw [Desk.Step.outcome, hrun]
  cases hblock : (action (.block header body footer)).run w with
  | mk result v =>
      cases result with
      | error e =>
          rw [run_bind_error hblock]
          rfl
      | ok _ =>
          rw [run_bind_ok hblock]
          rfl

/-- **A block restores its sink.** If there is no room in front of its header, a block fails and
leaves the sink as it is. Otherwise it ends as its body does on the sink that it opens, with a
result of the body's own: a failure that stands in the body, or one of a line or a header for which
there is no room. Whether or not the body fails, the depth and the open blocks are those from
before, and behind the earlier lines stand the header, what the body has come to, and the footer at
the column of the header. What the body has come to is a forest, so the same is true of each block
in it whose header was written. As a step of a script the block does this to the one sink that it
works on. -/
theorem block_restores (header footer : String) (body : List Part) (w : Sink) :
    ((∃ e, indentation w.depth = .error e ∧
        (action (.block header body footer)).run w = (.error e, w)) ∨
      ∃ blanks inner result, indentation w.depth = .ok blanks ∧
        GetsEach w.depth w.step 1 body inner result ∧
        (∃ v, (openBlock header).run w = (.ok (), v) ∧ ((actionEach body).run v).1 = result) ∧
        (∀ e, result = .error e → e ∈ causesEach body ∨
          ∃ level, 1 ≤ level ∧ indentation (column w.depth w.step level) = .error e) ∧
        (action (.block header body footer)).run w = (result, { w with
          lines := w.lines ++ ([blanks ++ header] ++
            (placedEach 1 inner).map (indented w.depth w.step) ++ [blanks ++ footer]) })) ∧
    ∀ (desk : Desk) (sink : Nat), desk[sink]? = some w →
      (Desk.Step.block sink header footer (script sink body)).outcome desk =
        (((action (.block header body footer)).run w).1.map fun _ => .done,
          desk.set sink ((action (.block header body footer)).run w).2) := by
  refine ⟨?_, fun desk sink hw => outcome_block hw header footer body⟩
  cases room : indentation w.depth with
  | error e => exact Or.inl ⟨e, rfl, run_block_of_error room header footer body⟩
  | ok blanks =>
      obtain ⟨inner, result, hgets, hwrites⟩ := exists_getsEach w.depth w.step 1 body
      rw [column_succ, column_zero] at hwrites
      refine Or.inr ⟨blanks, inner, result, rfl, hgets, ?_, ?_, ?_⟩
      · exact exists_openBlock_of_writes room hwrites header
      · rintro e rfl
        exact cause_of_getsEach hgets
      · exact Writes.block room hwrites w rfl rfl

/-- A failure two blocks deep: both close, the inner one first. -/
example : (action (.block "a" [.line "x", .block "b" [.line "y", .fail .abandoned, .line "z"] "end",
    .line "z"] "end")).run (new 0 2) =
    (.error .abandoned, { new 0 2 with lines := ["a", "  x", "  b", "    y", "  end", "end"] }) :=
  rfl

end InputBindings.Sink
