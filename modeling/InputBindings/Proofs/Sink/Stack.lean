import InputBindings.Proofs.Action
import InputBindings.Proofs.Emission
import InputBindings.Sink.Desk

/-!
# The stack of open blocks

A block is only opened where its header could be written, one step behind the
blocks around it. So the depths that a sink remembers are those of the levels
from its base on, each of them was written at once and can be written again, and
the depth is that of the next level. This survives whatever a script does, with
any number of sinks, failing steps and bodies that are left halfway.

Main statement: `stack_of_reachable`.
-/

namespace InputBindings

namespace Sink

/-! ## Sinks whose blocks stand in a row -/

/-- The depth of the lines with so many blocks around them. -/
def column (base step : Int) (level : Nat) : Int := base + level * step

theorem column_zero (base step : Int) : column base step 0 = base := by
  simp [column]

theorem column_succ (base step : Int) (level : Nat) :
    column base step (level + 1) = column base step level + step := by
  rw [column, column, Int.natCast_add, Int.add_mul, ← Int.add_assoc]
  simp

/-- The sink has the base and the step, and its blocks stand in a row: they were
opened at the levels from the base on, where a line can be written, and the next
line stands at the level behind them. -/
structure Standing (base step : Int) (w : Sink) : Prop where
  base_eq : w.base = base
  step_eq : w.step = step
  opened_eq : w.opened.reverse = (List.range w.opened.length).map (column base step)
  written : ∀ depth ∈ w.opened, ∃ blanks, indentation depth = .ok blanks
  depth_eq : w.depth = column base step w.opened.length

variable {base step : Int} {w : Sink}

theorem text_eq_ok_iff {text : String} :
    w.text = .ok text ↔ w.opened.length = 0 ∧ text = Text.closedLines w.lines := by
  unfold Sink.text Sink.isOpen
  cases w.opened with
  | nil =>
      constructor
      · intro h
        exact ⟨rfl, (Except.ok.inj h).symm⟩
      · rintro ⟨-, rfl⟩
        rfl
  | cons depth outer =>
      constructor
      · intro h
        cases h
      · rintro ⟨h, -⟩
        cases h

theorem exists_text_iff : (∃ text, w.text = .ok text) ↔ w.opened.length = 0 := by
  simp only [text_eq_ok_iff, exists_and_left, exists_eq, and_true]

theorem reverse_cons_eq_map_range {f : Nat → Int} {depth : Int} {outer : List Int} :
    (depth :: outer).reverse = (List.range (depth :: outer).length).map f ↔
      outer.reverse = (List.range outer.length).map f ∧ depth = f outer.length := by
  rw [List.reverse_cons, List.length_cons, List.range_succ, List.map_append, List.map_singleton,
    List.append_singleton_inj]

theorem standing_new (base step : Int) : (new base step).Standing base step where
  base_eq := rfl
  step_eq := rfl
  opened_eq := rfl
  written := List.forall_mem_nil _
  depth_eq := (column_zero base step).symm

namespace Standing

theorem nonneg (h : w.Standing base step) : ∀ depth ∈ w.opened, 0 ≤ depth := by
  intro depth hdepth
  obtain ⟨blanks, hblanks⟩ := h.written depth hdepth
  exact (indentation_eq_ok hblanks).1

theorem with_lines (h : w.Standing base step) (lines : List String) :
    ({ w with lines } : Sink).Standing base step where
  base_eq := h.base_eq
  step_eq := h.step_eq
  opened_eq := h.opened_eq
  written := h.written
  depth_eq := h.depth_eq

theorem open_block (h : w.Standing base step) {blanks : String}
    (hblanks : indentation w.depth = .ok blanks) (lines : List String) :
    ({ w with lines, opened := w.depth :: w.opened, depth := w.depth + w.step } : Sink).Standing
      base step where
  base_eq := h.base_eq
  step_eq := h.step_eq
  opened_eq := reverse_cons_eq_map_range.mpr ⟨h.opened_eq, h.depth_eq⟩
  written := List.forall_mem_cons.mpr ⟨⟨blanks, hblanks⟩, h.written⟩
  depth_eq := by
    show w.depth + w.step = column base step (w.opened.length + 1)
    rw [column_succ, h.depth_eq, h.step_eq]

theorem close_block (h : w.Standing base step) {depth : Int} {outer : List Int}
    (hopened : w.opened = depth :: outer) (lines : List String) :
    ({ w with lines, opened := outer, depth } : Sink).Standing base step := by
  obtain ⟨hbase, hstep, hrow, hwritten, -⟩ := h
  rw [hopened] at hrow hwritten
  obtain ⟨houter, hdepth⟩ := reverse_cons_eq_map_range.mp hrow
  exact ⟨hbase, hstep, houter, (List.forall_mem_cons.mp hwritten).2, hdepth⟩

end Standing

end Sink

/-! ## Actions on such a sink -/

namespace Writing

variable {α : Type} {base step : Int} {w : Sink}

theorem run_closeBlock_nil (footer : String) (h : w.opened = []) :
    (closeBlock footer).run w = (.error .unmatchedClose, w) := by
  rw [closeBlock, run_bind_ok (run_get w)]
  simp only [h]
  rfl

/-- Closing fails where no block is open and changes nothing then. Anywhere else
the footer can be written, since the header was. -/
theorem run_closeBlock_of_standing (h : w.Standing base step) (footer : String) :
    (w.opened = [] ∧ (closeBlock footer).run w = (.error .unmatchedClose, w)) ∨
      ∃ depth outer blanks, w.opened = depth :: outer ∧ indentation depth = .ok blanks ∧
        (closeBlock footer).run w = (.ok (),
          { w with lines := w.lines ++ [blanks ++ footer], opened := outer, depth }) := by
  cases hopened : w.opened with
  | nil => exact Or.inl ⟨rfl, run_closeBlock_nil footer hopened⟩
  | cons depth outer =>
      obtain ⟨blanks, hblanks⟩ := h.written depth (hopened ▸ List.mem_cons_self)
      exact Or.inr ⟨depth, outer, blanks, rfl, hblanks, run_closeBlock_ok hopened hblanks⟩

theorem whole_of_run {action : Writing α}
    (h : ∀ w : Sink, w.Standing base step → ∃ result v, action.run w = (result, v) ∧
      v.Standing base step ∧ ∀ e, result = .error e → v = w) :
    Whole (Sink.Standing base step) action := by
  intro w hw
  obtain ⟨result, v, hrun, hv⟩ := h w hw
  have hleft : (action.run w).2.Standing base step ∧
      ∀ e, (action.run w).1 = .error e → (action.run w).2 = w := by
    rw [hrun]
    exact hv
  exact hleft

theorem whole_line (statement : String) : Whole (Sink.Standing base step) (line statement) := by
  refine whole_of_run fun w hw => ?_
  cases hdepth : indentation w.depth with
  | error e => exact ⟨_, _, run_line_error hdepth, hw, fun _ _ => rfl⟩
  | ok blanks =>
      exact ⟨_, _, run_line_ok hdepth, hw.with_lines _, fun e he => by cases he⟩

theorem whole_openBlock (header : String) :
    Whole (Sink.Standing base step) (openBlock header) := by
  refine whole_of_run fun w hw => ?_
  cases hdepth : indentation w.depth with
  | error e => exact ⟨_, _, run_openBlock_error hdepth, hw, fun _ _ => rfl⟩
  | ok blanks =>
      exact ⟨_, _, run_openBlock_ok hdepth, hw.open_block hdepth _, fun e he => by cases he⟩

theorem whole_closeBlock (footer : String) :
    Whole (Sink.Standing base step) (closeBlock footer) := by
  refine whole_of_run fun w hw => ?_
  rcases run_closeBlock_of_standing hw footer with ⟨-, hrun⟩ | ⟨depth, outer, _, hopened, -, hrun⟩
  · exact ⟨_, _, hrun, hw, fun _ _ => rfl⟩
  · exact ⟨_, _, hrun, hw.close_block hopened _, fun e he => by cases he⟩

theorem run_extend (other w : Sink) : (extend other).run w =
    if other.isOpen then (.error .spliceOpen, w)
    else (.ok (), { w with lines := w.lines ++ other.lines }) := by
  unfold extend
  split <;> rfl

theorem exists_run_extend_iff {v : Sink} :
    (∃ u, (extend w).run v = (.ok (), u)) ↔ w.opened.length = 0 := by
  rw [run_extend, Sink.isOpen]
  cases w.opened with
  | nil =>
      constructor
      · intro _
        rfl
      · intro _
        exact ⟨_, rfl⟩
  | cons depth outer =>
      constructor
      · rintro ⟨u, h⟩
        cases h
      · intro h
        cases h

theorem whole_extend (other : Sink) : Whole (Sink.Standing base step) (extend other) := by
  refine whole_of_run fun w hw => ?_
  have hrun := run_extend other w
  split at hrun
  · exact ⟨_, _, hrun, hw, fun _ _ => rfl⟩
  · exact ⟨_, _, hrun, hw.with_lines _, fun e he => by cases he⟩

theorem whole_emitAll (s : Settings) (program : String) (params : List Parameter) :
    Whole (Sink.Standing base step) (Parameter.emitAll s program params) := by
  refine whole_of_run fun w hw => ?_
  obtain ⟨result, written, hwrites⟩ :=
    Parameter.exists_writes_emitEach s program [] params s.baseIndent s.indentStep
  cases result with
  | error e => exact ⟨_, _, Parameter.run_emitAll_error hwrites w, hw, fun _ _ => rfl⟩
  | ok _ =>
      exact ⟨_, _, Parameter.run_emitAll_ok hwrites w, hw.with_lines _, fun e he => by cases he⟩

/-- A parameter that fails may leave its guard behind, closed and without a call
in it, but never an open block. -/
theorem preserves_emit (p : Parameter) (s : Settings) :
    Preserves (Sink.Standing base step) (p.emit s) := by
  intro w hw
  show ((p.emit s).run w).2.Standing base step
  obtain ⟨result, written, hwrites⟩ := p.exists_writes_emit s w.depth w.step
  rw [hwrites w rfl rfl]
  exact hw.with_lines _

end Writing

namespace Desk

/-! ## Desks -/

/-- The first sinks have the bases and steps that were given, and the blocks of
each sink stand in a row. -/
structure Sound (given : List (Int × Int)) (desk : Desk) : Prop where
  origins : given <+: desk.map fun w => (w.base, w.step)
  standing : ∀ w ∈ desk, w.Standing w.base w.step

variable {α : Type} {given : List (Int × Int)} {desk : Desk}

theorem Sound.set (h : Sound given desk) {sink : Nat} {w v : Sink} (hw : desk[sink]? = some w)
    (hv : v.Standing w.base w.step) : Sound given (desk.set sink v) := by
  obtain ⟨hlt, hget⟩ := List.getElem?_eq_some_iff.mp hw
  have hsame : (desk.set sink v).map (fun w => (w.base, w.step)) =
      desk.map fun w => (w.base, w.step) := by
    rw [List.map_set, hv.base_eq, hv.step_eq]
    apply List.ext_getElem?
    intro i
    by_cases hi : sink = i
    · subst hi
      rw [List.getElem?_set_self (by rwa [List.length_map]), List.getElem?_map, hw]
      rfl
    · rw [List.getElem?_set_ne hi]
  refine ⟨hsame ▸ h.origins, ?_⟩
  intro u hu
  rcases List.mem_or_eq_of_mem_set hu with hu | rfl
  · exact h.standing u hu
  · rw [hv.base_eq, hv.step_eq]
    exact hv

theorem Sound.append (h : Sound given desk) (base step : Int) :
    Sound given (desk ++ [Sink.new base step]) where
  origins := by
    rw [List.map_append]
    exact h.origins.trans (List.prefix_append _ _)
  standing := by
    intro w hw
    rcases List.mem_append.mp hw with hw | hw
    · exact h.standing w hw
    · rw [List.mem_singleton.mp hw]
      exact Sink.standing_new base step

theorem run_on_none {action : Writing α} {sink : Nat} (hw : desk[sink]? = none) :
    (ExceptT.run (on sink action)).run desk = (.error .noSink, desk) := by
  unfold on ExceptT.run ExceptT.mk StateT.run
  simp only [hw]

theorem run_on_some {action : Writing α} {sink : Nat} {w : Sink} (hw : desk[sink]? = some w) :
    (ExceptT.run (on sink action)).run desk =
      ((action.run w).1, desk.set sink (action.run w).2) := by
  unfold on ExceptT.run ExceptT.mk StateT.run
  simp only [hw]

theorem preserves_on {action : Writing α} (sink : Nat)
    (h : ∀ base step, Preserves (Sink.Standing base step) action) :
    Preserves (Sound given) (on sink action) := by
  intro desk hdesk
  unfold Ensures
  cases hw : desk[sink]? with
  | none =>
      rw [run_on_none hw]
      exact hdesk
  | some w =>
      rw [run_on_some hw]
      exact hdesk.set hw (h _ _ w (hdesk.standing w (List.mem_of_getElem? hw)))

theorem whole_on {action : Writing α} (sink : Nat)
    (h : ∀ base step, Whole (Sink.Standing base step) action) :
    Whole (Sound given) (on sink action) := by
  intro desk hdesk
  refine ⟨preserves_on sink (fun base step => (h base step).preserves) desk hdesk, ?_⟩
  cases hw : desk[sink]? with
  | none =>
      rw [run_on_none hw]
      exact fun _ _ => rfl
  | some w =>
      obtain ⟨hlt, hget⟩ := List.getElem?_eq_some_iff.mp hw
      obtain ⟨-, hunchanged⟩ := h _ _ w (hdesk.standing w (List.mem_of_getElem? hw))
      rw [run_on_some hw]
      intro e he
      have hsame : (action.run w).2 = w := hunchanged e he
      show desk.set sink (action.run w).2 = desk
      rw [hsame, ← hget, List.set_getElem_self]

theorem reads_sinkAt (sink : Nat) : Reads (sinkAt sink) := by
  refine Reads.get.bind fun desk => ?_
  cases desk[sink]? with
  | none => exact Reads.throw _
  | some w => exact Reads.pure w

/-- The block is closed on the desk that the body has left, whatever the body and
the closing come to. -/
theorem run_closing_snd (action : DeskAction α) (sink : Nat) (footer : String) (desk : Desk) :
    ((ExceptT.run (closing sink footer action)).run desk).2 =
      ((ExceptT.run (on sink (Writing.closeBlock footer))).run
        ((ExceptT.run action).run desk).2).2 := by
  cases hbody : (ExceptT.run action).run desk with
  | mk result left =>
      cases hclose : (ExceptT.run (on sink (Writing.closeBlock footer))).run left with
      | mk outcome after =>
          unfold ExceptT.run StateT.run at hbody hclose
          unfold closing ExceptT.run ExceptT.mk StateT.run
          simp only [hbody, hclose]
          cases outcome <;> rfl

theorem preserves_closing {action : DeskAction α} (sink : Nat) (footer : String)
    (h : Preserves (Sound given) action) :
    Preserves (Sound given) (closing sink footer action) := by
  intro desk hdesk
  have hclosed := (whole_on sink fun _ _ => Writing.whole_closeBlock footer).preserves
    _ (h desk hdesk)
  unfold Ensures at hclosed ⊢
  rw [run_closing_snd]
  exact hclosed

/-- The steps that consist of one operation. A block has a body that may fail
behind its header, and so may the call of a parameter behind its guard. -/
def Step.isWhole : Step → Bool
  | .block .. | .emit .. => false
  | _ => true

theorem Step.whole_run {step : Step} (h : step.isWhole = true) :
    Whole (Sound given) step.run := by
  cases step with
  | block _ _ _ _ | emit _ _ _ => cases h
  | add base step =>
      intro desk hdesk
      rw [Step.run]
      exact ⟨hdesk.append base step, fun e he => by cases he⟩
  | line sink statement =>
      rw [Step.run]
      exact (whole_on sink fun _ _ => Writing.whole_line statement).bind_pure _
  | openBlock sink header =>
      rw [Step.run]
      exact (whole_on sink fun _ _ => Writing.whole_openBlock header).bind_pure _
  | closeBlock sink footer =>
      rw [Step.run]
      exact (whole_on sink fun _ _ => Writing.whole_closeBlock footer).bind_pure _
  | extend sink source =>
      rw [Step.run]
      exact Whole.read_bind (reads_sinkAt source) fun other =>
        (whole_on sink fun _ _ => Writing.whole_extend other).bind_pure _
  | text sink =>
      rw [Step.run]
      have hread :
          Reads (sinkAt sink >>= fun w => liftM w.text >>= fun s => pure (Answer.text s)) :=
        (reads_sinkAt sink).bind fun w => (Reads.lift w.text).bind fun _ => Reads.pure _
      exact hread.whole _
  | lines sink =>
      rw [Step.run]
      exact ((reads_sinkAt sink).bind fun w => Reads.pure _).whole _
  | emitAll sink settings program params =>
      rw [Step.run]
      exact (whole_on sink fun _ _ => Writing.whole_emitAll settings program params).bind_pure _
  | fail cause =>
      rw [Step.run]
      exact (Reads.throw cause).whole _

-- On the step and on the body of a block together: a body is left by its first
-- step that fails, and the block is closed where the body has left the desk.
mutual
theorem Step.preserves_run : ∀ step : Step, Preserves (Sound given) step.run
  | .block sink header footer body => by
      rw [Step.run]
      refine (whole_on sink fun _ _ => Writing.whole_openBlock header).preserves.bind fun _ => ?_
      exact (preserves_closing sink footer (preserves_runBody body)).bind fun _ => .pure _
  | .emit sink settings param => by
      rw [Step.run]
      exact (preserves_on sink fun _ _ => Writing.preserves_emit param settings).bind
        fun _ => .pure _
  | .add .. | .line .. | .openBlock .. | .closeBlock .. | .extend .. | .text .. | .lines ..
  | .emitAll .. | .fail .. => (Step.whole_run rfl).preserves
theorem preserves_runBody : ∀ body : List Step, Preserves (Sound given) (runBody body)
  | [] => by
      rw [runBody]
      exact .pure _
  | step :: rest => by
      rw [runBody]
      exact (Step.preserves_run step).bind fun _ => preserves_runBody rest
end

/-! ## Runs -/

/-- What a step comes to on a desk, and the desk after it. -/
def Step.outcome (step : Step) (desk : Desk) : Except Error Answer × Desk :=
  (ExceptT.run step.run).run desk

/-- The desks that come about. The body of a block consists of steps, and opening
the block is a step, so these are also the desks in the midst of a block. -/
inductive Reachable : Desk → Prop
  | empty : Reachable []
  | after {desk : Desk} (step : Step) : Reachable desk → Reachable (step.outcome desk).2

theorem Reachable.runBody (body : List Step) : Preserves Reachable (runBody body) := by
  induction body with
  | nil =>
      rw [Desk.runBody]
      exact .pure _
  | cons step rest ih =>
      rw [Desk.runBody]
      exact Preserves.bind (fun _ h => h.after step) fun _ => ih

/-- Wherever the body of a block is left off, the desk is reachable. -/
theorem Reachable.inside_block (h : Reachable desk) (sink : Nat) (header : String)
    (body : List Step) :
    Reachable ((ExceptT.run (on sink (Writing.openBlock header) >>= fun _ =>
      Desk.runBody body)).run desk).2 := by
  have hopened : Preserves Reachable (on sink (Writing.openBlock header)) := by
    intro desk hdesk
    have hafter := hdesk.after (.openBlock sink header)
    rw [Step.outcome, Step.run, run_bind_pure_snd] at hafter
    exact hafter
  exact hopened.bind (fun _ => Reachable.runBody body) desk h

theorem reachable_of_mem_runScript (script : List Step) (h : Reachable desk) :
    ∀ outcome ∈ runScript desk script, Reachable outcome.2 := by
  induction script generalizing desk with
  | nil => exact List.forall_mem_nil _
  | cons step rest ih => exact List.forall_mem_cons.mpr ⟨h.after step, ih (h.after step)⟩

theorem Reachable.sound (h : Reachable desk) : Sound [] desk := by
  induction h with
  | empty => exact ⟨List.prefix_rfl, List.forall_mem_nil _⟩
  | after step _ ih => exact step.preserves_run _ ih

/-- **The open blocks stand in a row.** On every desk that comes about, the depths
that a sink remembers are those of the levels from its base on, none of them is
negative, and its depth is that of the next level; the base and the step are those
that it was added with. So a block closes, with its footer, unless none is open;
a sink has a text, and its lines can be spliced, exactly if none is open; and a
step that is one operation changes nothing when it fails. -/
theorem stack_of_reachable (h : Reachable desk) :
    (∀ w ∈ desk,
      w.opened.reverse =
        (List.range w.opened.length).map (fun level : Nat => w.base + level * w.step) ∧
      (∀ depth ∈ w.opened, 0 ≤ depth) ∧
      w.depth = w.base + w.opened.length * w.step ∧
      (∀ footer,
        (w.opened = [] ∧ (Writing.closeBlock footer).run w = (.error .unmatchedClose, w)) ∨
        ∃ depth outer blanks, w.opened = depth :: outer ∧ indentation depth = .ok blanks ∧
          (Writing.closeBlock footer).run w = (.ok (),
            { w with lines := w.lines ++ [blanks ++ footer], opened := outer, depth })) ∧
      ((∃ text, w.text = .ok text) ↔ w.opened.length = 0) ∧
      (∀ v, (∃ u, (Writing.extend w).run v = (.ok (), u)) ↔ w.opened.length = 0)) ∧
    ∀ step : Step,
      (desk.map fun w => (w.base, w.step)) <+:
        ((step.outcome desk).2.map fun w => (w.base, w.step)) ∧
      (step.isWhole = true → ∀ e, (step.outcome desk).1 = .error e →
        (step.outcome desk).2 = desk) := by
  have hstanding := h.sound.standing
  have hsound : Sound (desk.map fun w => (w.base, w.step)) desk := ⟨List.prefix_rfl, hstanding⟩
  refine ⟨?_, ?_⟩
  · intro w hw
    have hrow := hstanding w hw
    exact ⟨hrow.opened_eq, hrow.nonneg, hrow.depth_eq, Writing.run_closeBlock_of_standing hrow,
      Sink.exists_text_iff, fun _ => Writing.exists_run_extend_iff⟩
  · intro step
    exact ⟨(step.preserves_run desk hsound).origins,
      fun hwhole => (Step.whole_run hwhole desk hsound).2⟩

/-- A block whose body opens a second one and then fails: closing it closes the
second one. -/
def leftInside : Step := .block 0 "a" "end" [.openBlock 0 "b", .fail .abandoned]

def leftOpen : Sink :=
  { base := 2, step := -1, depth := 1, lines := ["  a", " b", " end"], opened := [2] }

theorem leftOpen_standing :
    Reachable [leftOpen] ∧ leftOpen.opened.reverse = [2 + 0 * -1] ∧ leftOpen.depth = 2 + 1 * -1 ∧
      ¬∃ text, leftOpen.text = .ok text := by
  have hdesk : (leftInside.outcome [Sink.new 2 (-1)]).2 = [leftOpen] := rfl
  have hreachable : Reachable [leftOpen] :=
    hdesk ▸ (Reachable.empty.after (.add 2 (-1))).after leftInside
  obtain ⟨hstack, -⟩ := stack_of_reachable hreachable
  obtain ⟨hopened, -, hdepth, -, htext, -⟩ := hstack leftOpen List.mem_cons_self
  exact ⟨hreachable, hopened, hdepth, htext.not.mpr Nat.one_ne_zero⟩

end Desk

end InputBindings
