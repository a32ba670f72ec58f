import InputBindings.Proofs.Sink.Stack

/-!
# What a sink releases is a forest

Of the operations on a new sink that opens and closes blocks some may fail. Those
that succeed spell a row of unfinished blocks, each with the pieces in front of
its header, and the finished pieces inside the innermost of them. A sink releases
its text when no block is unfinished, and what is left then is a forest.

Main statement: `text_eq_ok_iff_forest`.
-/

namespace InputBindings.Sink

/-! ## Operations and pieces -/

inductive Operation
  | line (statement : String)
  | openBlock (header : String)
  | closeBlock (footer : String)

def Operation.action : Operation → Writing Unit
  | line statement => Writing.line statement
  | openBlock header => Writing.openBlock header
  | closeBlock footer => Writing.closeBlock footer

/-- Tries an operation on a sink, after those that have succeeded. -/
def attempt (state : List Operation × Sink) (op : Operation) : List Operation × Sink :=
  match op.action.run state.2 with
  | (.ok _, w) => (state.1 ++ [op], w)
  | (.error _, w) => (state.1, w)

/-- The operations that succeed on a new sink, in their order, and the sink in the
end. -/
def perform (base step : Int) (ops : List Operation) : List Operation × Sink :=
  ops.foldl attempt ([], new base step)

inductive Piece
  | statement (text : String)
  | block (header : String) (body : List Piece) (footer : String)

mutual
def operations : Piece → List Operation
  | .statement text => [.line text]
  | .block header body footer =>
      .openBlock header :: (operationsEach body ++ [.closeBlock footer])
def operationsEach : List Piece → List Operation
  | [] => []
  | p :: ps => operations p ++ operationsEach ps
end

mutual
/-- The texts of a piece, each with the level that it stands at. -/
def placed (level : Nat) : Piece → List (Nat × String)
  | .statement text => [(level, text)]
  | .block header body footer =>
      (level, header) :: (placedEach (level + 1) body ++ [(level, footer)])
def placedEach (level : Nat) : List Piece → List (Nat × String)
  | [] => []
  | p :: ps => placed level p ++ placedEach level ps
end

/-- A text at its level as a line. -/
def indented (base step : Int) (entry : Nat × String) : String :=
  String.ofList (List.replicate (base + entry.1 * step).toNat ' ') ++ entry.2

theorem operationsEach_eq_flatMap (ps : List Piece) :
    operationsEach ps = ps.flatMap operations := by
  induction ps with
  | nil => rfl
  | cons p ps ih => rw [operationsEach, ih, List.flatMap_cons]

theorem placedEach_eq_flatMap (level : Nat) (ps : List Piece) :
    placedEach level ps = ps.flatMap (placed level) := by
  induction ps with
  | nil => rfl
  | cons p ps ih => rw [placedEach, ih, List.flatMap_cons]

theorem operationsEach_snoc (ps : List Piece) (p : Piece) :
    operationsEach (ps ++ [p]) = operationsEach ps ++ operations p := by
  rw [operationsEach_eq_flatMap, operationsEach_eq_flatMap, List.flatMap_append,
    List.flatMap_singleton]

theorem placedEach_snoc (level : Nat) (ps : List Piece) (p : Piece) :
    placedEach level (ps ++ [p]) = placedEach level ps ++ placed level p := by
  rw [placedEach_eq_flatMap, placedEach_eq_flatMap, List.flatMap_append, List.flatMap_singleton]

/-! ## Unfinished blocks -/

/-- A block without its footer, behind the pieces in front of it. -/
structure Frame where
  before : List Piece
  header : String

/-- The operations of unfinished blocks, the innermost first, and of the pieces
inside the innermost. -/
def spelled : List Frame → List Piece → List Operation
  | [], here => operationsEach here
  | f :: outer, here => spelled outer f.before ++ .openBlock f.header :: operationsEach here

/-- The texts of unfinished blocks and of the pieces inside the innermost, each
with the level that it stands at. -/
def spread : List Frame → List Piece → List (Nat × String)
  | [], here => placedEach 0 here
  | f :: outer, here =>
      spread outer f.before ++ (outer.length, f.header) :: placedEach (outer.length + 1) here

theorem spelled_snoc (frames : List Frame) (here : List Piece) (p : Piece) :
    spelled frames (here ++ [p]) = spelled frames here ++ operations p := by
  cases frames with
  | nil => exact operationsEach_snoc here p
  | cons f outer => rw [spelled, spelled, operationsEach_snoc, List.append_assoc, List.cons_append]

theorem spread_snoc (frames : List Frame) (here : List Piece) (p : Piece) :
    spread frames (here ++ [p]) = spread frames here ++ placed frames.length p := by
  cases frames with
  | nil => exact placedEach_snoc 0 here p
  | cons f outer =>
      rw [spread, spread, placedEach_snoc, List.append_assoc, List.cons_append, List.length_cons]

theorem spelled_close (f : Frame) (outer : List Frame) (here : List Piece) (footer : String) :
    spelled outer (f.before ++ [.block f.header here footer]) =
      spelled (f :: outer) here ++ [.closeBlock footer] := by
  rw [spelled_snoc, operations, spelled, List.append_assoc, List.cons_append]

theorem spread_close (f : Frame) (outer : List Frame) (here : List Piece) (footer : String) :
    spread outer (f.before ++ [.block f.header here footer]) =
      spread (f :: outer) here ++ [(outer.length, footer)] := by
  rw [spread_snoc, placed, spread, List.append_assoc, List.cons_append]

variable {base step : Int} {frames : List Frame} {here : List Piece}

/-- The operations that have succeeded are those of the unfinished blocks, and the
lines of the sink are theirs, each at a column that is not negative. -/
structure Traces (base step : Int) (frames : List Frame) (here : List Piece)
    (state : List Operation × Sink) : Prop where
  standing : state.2.Standing base step
  depth : state.2.opened.length = frames.length
  done : state.1 = spelled frames here
  lines : state.2.lines = (spread frames here).map (indented base step)
  columns : ∀ entry ∈ spread frames here, 0 ≤ base + entry.1 * step

theorem traces_new (base step : Int) : Traces base step [] [] ([], new base step) where
  standing := standing_new base step
  depth := rfl
  done := rfl
  lines := rfl
  columns := List.forall_mem_nil _

/-- An operation that writes its text at a level carries the unfinished blocks on. -/
theorem Traces.advance {done : List Operation} {w v : Sink}
    (h : Traces base step frames here (done, w)) {frames' : List Frame} {here' : List Piece}
    {op : Operation} {level : Nat} {text blanks : String} (hstanding : v.Standing base step)
    (hdepth : v.opened.length = frames'.length)
    (hspelled : spelled frames' here' = spelled frames here ++ [op])
    (hspread : spread frames' here' = spread frames here ++ [(level, text)])
    (hblanks : indentation (column base step level) = .ok blanks)
    (hlines : v.lines = w.lines ++ [blanks ++ text]) :
    Traces base step frames' here' (done ++ [op], v) := by
  obtain ⟨hcolumn, rfl⟩ := indentation_eq_ok hblanks
  refine ⟨hstanding, hdepth, ?_, ?_, ?_⟩
  · rw [hspelled, ← h.done]
  · rw [hspread, List.map_append, ← h.lines]
    exact hlines
  · rw [hspread]
    intro entry hentry
    rcases List.mem_append.mp hentry with hold | hnew
    · exact h.columns entry hold
    · rw [List.mem_singleton.mp hnew]
      exact hcolumn

theorem attempt_ok {done : List Operation} {w v : Sink} (op : Operation)
    (h : op.action.run w = (.ok (), v)) : attempt (done, w) op = (done ++ [op], v) := by
  simp only [attempt, h]

theorem attempt_error {done : List Operation} {w v : Sink} {e : Error} (op : Operation)
    (h : op.action.run w = (.error e, v)) : attempt (done, w) op = (done, v) := by
  simp only [attempt, h]

/-- Whether an operation succeeds or fails, the sink stays one of unfinished
blocks. -/
theorem Traces.attempt {done : List Operation} {w : Sink}
    (h : Traces base step frames here (done, w)) (op : Operation) :
    ∃ frames' here', Traces base step frames' here' (attempt (done, w) op) := by
  have hlevel : w.depth = column base step frames.length := h.depth ▸ h.standing.depth_eq
  cases op with
  | line statement =>
      cases hblanks : indentation w.depth with
      | error e =>
          rw [attempt_error (.line statement) (Writing.run_line_error hblanks)]
          exact ⟨frames, here, h⟩
      | ok blanks =>
          rw [attempt_ok (.line statement) (Writing.run_line_ok hblanks)]
          exact ⟨frames, here ++ [.statement statement], h.advance (h.standing.with_lines _)
            h.depth (spelled_snoc _ _ _) (spread_snoc _ _ _) (hlevel ▸ hblanks) rfl⟩
  | openBlock header =>
      cases hblanks : indentation w.depth with
      | error e =>
          rw [attempt_error (.openBlock header) (Writing.run_openBlock_error hblanks)]
          exact ⟨frames, here, h⟩
      | ok blanks =>
          rw [attempt_ok (.openBlock header) (Writing.run_openBlock_ok hblanks)]
          exact ⟨⟨here, header⟩ :: frames, [], h.advance (h.standing.open_block hblanks _)
            (congrArg (· + 1) h.depth) rfl rfl (hlevel ▸ hblanks) rfl⟩
  | closeBlock footer =>
      rcases Writing.run_closeBlock_of_standing h.standing footer with
        ⟨-, hrun⟩ | ⟨depth, outer, blanks, hopened, hblanks, hrun⟩
      · rw [attempt_error (.closeBlock footer) hrun]
        exact ⟨frames, here, h⟩
      · rw [attempt_ok (.closeBlock footer) hrun]
        have hlength := h.depth
        rw [hopened, List.length_cons] at hlength
        cases frames with
        | nil => cases hlength
        | cons f outerFrames =>
            have houter : outer.length = outerFrames.length := Nat.succ.inj hlength
            have hdepth : depth = column base step outerFrames.length := by
              have hrow := h.standing.opened_eq
              rw [hopened] at hrow
              exact houter ▸ (reverse_cons_eq_map_range.mp hrow).2
            exact ⟨outerFrames, f.before ++ [.block f.header here footer],
              h.advance (h.standing.close_block hopened _) houter
                (spelled_close f outerFrames here footer) (spread_close f outerFrames here footer)
                (hdepth ▸ hblanks) rfl⟩

theorem exists_traces_perform (base step : Int) (ops : List Operation) :
    ∃ frames here, Traces base step frames here (perform base step ops) := by
  induction ops using List.reverseRecOn with
  | nil => exact ⟨[], [], traces_new base step⟩
  | append_singleton ops op ih =>
      obtain ⟨frames, here, h⟩ := ih
      have hperform : perform base step (ops ++ [op]) =
          Sink.attempt (perform base step ops) op := by
        rw [perform, perform, List.foldl_append]
        rfl
      rw [hperform]
      exact h.attempt op

/-! ## Finished forests -/

/-- By how many levels an operation moves the depth. -/
def Operation.rise : Operation → Int
  | line _ => 0
  | openBlock _ => 1
  | closeBlock _ => -1

def rise : List Operation → Int
  | [] => 0
  | op :: ops => op.rise + rise ops

theorem rise_append (ops more : List Operation) : rise (ops ++ more) = rise ops + rise more := by
  induction ops with
  | nil => exact (Int.zero_add _).symm
  | cons op ops ih => rw [List.cons_append, rise, rise, ih, Int.add_assoc]

mutual
theorem rise_operations : ∀ p : Piece, rise (operations p) = 0
  | .statement text => rfl
  | .block header body footer => by
      rw [operations, rise, rise_append, rise_operationsEach body]
      rfl
theorem rise_operationsEach : ∀ ps : List Piece, rise (operationsEach ps) = 0
  | [] => rfl
  | p :: ps => by
      rw [operationsEach, rise_append, rise_operations p, rise_operationsEach ps]
      rfl
end

theorem rise_spelled (frames : List Frame) (here : List Piece) :
    rise (spelled frames here) = frames.length := by
  induction frames generalizing here with
  | nil => exact rise_operationsEach here
  | cons f outer ih =>
      rw [spelled, rise_append, ih, rise, rise_operationsEach, List.length_cons,
        Int.natCast_add]
      rfl

/-- **What a sink releases is a forest.** Try any operations on a new sink. The sink
releases a text exactly if those that succeed are, in their order, the operations
of a forest of statements and blocks. Then its lines are the forest, printed: a
statement, and the header and the footer of a block, stand as many steps behind
the base as there are blocks around them, and the body of a block stands between
its header and its footer. -/
theorem text_eq_ok_iff_forest (base step : Int) (ops : List Operation) (text : String) :
    (perform base step ops).2.text = .ok text ↔
      ∃ forest : List Piece,
        (perform base step ops).1 = operationsEach forest ∧
        (perform base step ops).2.lines = (placedEach 0 forest).map (indented base step) ∧
        (∀ entry ∈ placedEach 0 forest, 0 ≤ base + entry.1 * step) ∧
        text = Text.closedLines ((placedEach 0 forest).map (indented base step)) := by
  obtain ⟨frames, here, h⟩ := exists_traces_perform base step ops
  rw [text_eq_ok_iff, h.depth]
  constructor
  · rintro ⟨hfinished, rfl⟩
    obtain rfl : frames = [] := List.length_eq_zero_iff.mp hfinished
    exact ⟨here, h.done, h.lines, h.columns, congrArg Text.closedLines h.lines⟩
  · rintro ⟨forest, hdone, hlines, -, rfl⟩
    have hrise : (frames.length : Int) = 0 := by
      rw [← rise_spelled frames here, ← h.done, hdone, rise_operationsEach]
    exact ⟨Int.natCast_eq_zero.mp hrise, congrArg Text.closedLines hlines.symm⟩

/-- A line that would stand in front of the first column is not written, and the
block around it closes nevertheless. -/
example : (perform 1 (-2)
    [.openBlock "a", .line "x", .closeBlock "end", .closeBlock "end"]).2.lines = [" a", " end"] :=
  rfl

end InputBindings.Sink
