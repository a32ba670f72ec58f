import InputBindings.Proofs.Action
import InputBindings.StoreCall

/-!
# What an action writes

Whatever an action does to a sink, the generator only needs three things of it:
its result, the lines that it appends, and that all else about the sink stays.
`Writes` says this for all sinks of one depth and one step, so neither earlier
lines nor blocks that are open around the action matter.

Main statements: `Writes.block` closes a block whatever its body comes to, and
`Parameter.exists_writes_emit` says that a parameter always has such an effect,
also where a negative step makes the call inside its guard fail.
-/

namespace InputBindings

/-! ## Blanks in front of a line -/

section Blanks

variable {level : Int} {blanks : String} {e : Error}

/-- All that can be asked for, from the left to the right. -/
theorem indentation_cases (level : Int) :
    (level < 0 ∧ indentation level = .error (.negativeIndent level)) ∨
    (0 ≤ level ∧ level ≤ maxIndentation ∧
      indentation level = .ok (String.ofList (List.replicate level.toNat ' '))) ∨
    (maxIndentation < level ∧ indentation level = .error .indentOutOfRange) := by
  unfold indentation
  by_cases hnegative : level < 0
  · exact Or.inl ⟨hnegative, if_pos hnegative⟩
  rw [if_neg hnegative]
  by_cases hwide : maxIndentation < level
  · exact Or.inr (Or.inr ⟨hwide, if_pos hwide⟩)
  · exact Or.inr (Or.inl ⟨Int.not_lt.mp hnegative, Int.not_lt.mp hwide, if_neg hwide⟩)

theorem indentation_eq_ok (h : indentation level = .ok blanks) :
    0 ≤ level ∧ blanks = String.ofList (List.replicate level.toNat ' ') := by
  rcases indentation_cases level with ⟨-, herror⟩ | ⟨hlevel, -, hblanks⟩ | ⟨-, herror⟩
  · cases herror.symm.trans h
  · exact ⟨hlevel, Except.ok.inj (h.symm.trans hblanks)⟩
  · cases herror.symm.trans h

theorem indentation_eq_error (h : indentation level = .error e) :
    (level < 0 ∧ e = .negativeIndent level) ∨
      (maxIndentation < level ∧ e = .indentOutOfRange) := by
  rcases indentation_cases level with ⟨hnegative, herror⟩ | ⟨-, -, hblanks⟩ | ⟨hwide, herror⟩
  · exact Or.inl ⟨hnegative, Except.error.inj (h.symm.trans herror)⟩
  · cases hblanks.symm.trans h
  · exact Or.inr ⟨hwide, Except.error.inj (h.symm.trans herror)⟩

end Blanks

namespace Writing

variable {α β : Type}

/-! ## One step of a run -/

@[simp] theorem run_pure (x : α) (w : Sink) :
    (pure x : Writing α).run w = (.ok x, w) := rfl

@[simp] theorem run_throw (e : Error) (w : Sink) :
    (throw e : Writing α).run w = (.error e, w) := rfl

@[simp] theorem run_lift (x : Except Error α) (w : Sink) :
    (liftM x : Writing α).run w = (x, w) := rfl

@[simp] theorem run_get (w : Sink) : (get : Writing Sink).run w = (.ok w, w) := rfl

@[simp] theorem run_set (v w : Sink) : (set v : Writing PUnit).run w = (.ok ⟨⟩, v) := rfl

@[simp] theorem run_ofRun (f : Sink → Except Error α × Sink) (w : Sink) :
    (ofRun f).run w = f w := rfl

@[simp] theorem run_modify (f : Sink → Sink) (w : Sink) :
    (modify f : Writing PUnit).run w = (.ok ⟨⟩, f w) := rfl

theorem run_bind_ok {action : Writing α} {next : α → Writing β} {w v : Sink} {x : α}
    (h : action.run w = (.ok x, v)) : (action >>= next).run w = (next x).run v :=
  run_bind_of_ok h

theorem run_bind_error {action : Writing α} {next : α → Writing β} {w v : Sink} {e : Error}
    (h : action.run w = (.error e, v)) : (action >>= next).run w = (.error e, v) :=
  run_bind_of_error h

theorem run_line_ok {statement blanks : String} {w : Sink}
    (h : indentation w.depth = .ok blanks) :
    (line statement).run w = (.ok (), { w with lines := w.lines ++ [blanks ++ statement] }) := by
  rw [line, run_bind_ok (run_get w)]
  exact run_bind_ok (by rw [run_lift, h])

theorem run_line_error {statement : String} {w : Sink} {e : Error}
    (h : indentation w.depth = .error e) : (line statement).run w = (.error e, w) := by
  rw [line, run_bind_ok (run_get w)]
  exact run_bind_error (by rw [run_lift, h])

theorem run_openBlock_ok {header blanks : String} {w : Sink}
    (h : indentation w.depth = .ok blanks) :
    (openBlock header).run w = (.ok (), { w with
      lines := w.lines ++ [blanks ++ header]
      opened := w.depth :: w.opened
      depth := w.depth + w.step }) := by
  rw [openBlock, run_bind_ok (run_line_ok h)]
  rfl

theorem run_openBlock_error {header : String} {w : Sink} {e : Error}
    (h : indentation w.depth = .error e) : (openBlock header).run w = (.error e, w) := by
  rw [openBlock]
  exact run_bind_error (run_line_error h)

theorem run_closeBlock_ok {footer blanks : String} {w : Sink} {depth : Int} {outer : List Int}
    (hopen : w.opened = depth :: outer) (h : indentation depth = .ok blanks) :
    (closeBlock footer).run w = (.ok (), { w with
      lines := w.lines ++ [blanks ++ footer]
      opened := outer
      depth := depth }) := by
  rw [closeBlock, run_bind_ok (run_get w)]
  simp only [hopen]
  rw [run_bind_ok (run_set _ w)]
  exact run_line_ok h

theorem run_closing {footer : String} {action : Writing α} {w v u : Sink}
    {result : Except Error α} (h : action.run w = (result, v))
    (hclose : (closeBlock footer).run v = (.ok (), u)) :
    (closing footer action).run w = (result, u) := by
  unfold closing
  simp only [run_ofRun, h, hclose]

/-! ## Effects that every sink of a depth shares -/

/-- On a sink of the given depth and step the action has the given result and
appends the given lines; all else about the sink stays. -/
def Writes (action : Writing α) (depth step : Int) (result : Except Error α)
    (written : List String) : Prop :=
  ∀ w : Sink, w.depth = depth → w.step = step →
    action.run w = (result, { w with lines := w.lines ++ written })

namespace Writes

variable {depth step : Int} {written more : List String} {e : Error}

theorem pure (x : α) : Writes (Pure.pure x) depth step (.ok x) [] := by
  intro w _ _
  simp

theorem throw : Writes (MonadExcept.throw e : Writing α) depth step (.error e) [] := by
  intro w _ _
  simp

theorem lift (x : Except Error α) : Writes (liftM x) depth step x [] := by
  intro w _ _
  simp

theorem bind_ok {action : Writing α} {next : α → Writing β} {x : α}
    {result : Except Error β} (h : Writes action depth step (.ok x) written)
    (hnext : Writes (next x) depth step result more) :
    Writes (action >>= next) depth step result (written ++ more) := by
  intro w hdepth hstep
  have hrest := hnext { w with lines := w.lines ++ written } hdepth hstep
  rw [run_bind_ok (h w hdepth hstep), hrest, List.append_assoc]

theorem bind_error {action : Writing α} {next : α → Writing β}
    (h : Writes action depth step (.error e) written) :
    Writes (action >>= next) depth step (.error e) written := by
  intro w hdepth hstep
  exact run_bind_error (h w hdepth hstep)

theorem line_ok {statement blanks : String} (h : indentation depth = .ok blanks) :
    Writes (line statement) depth step (.ok ()) [blanks ++ statement] := by
  intro w hdepth _
  exact run_line_ok (hdepth ▸ h)

theorem line_error {statement : String} (h : indentation depth = .error e) :
    Writes (line statement) depth step (.error e) [] := by
  intro w hdepth _
  rw [run_line_error (hdepth ▸ h), List.append_nil]

/-- A block whose header can be written ends as its body does. The footer
stands where the header does, so it can be written as well, and it follows all
that the body has written, be it cut short by a failure. -/
theorem block {header footer blanks : String} {body : Writing α} {result : Except Error α}
    (h : indentation depth = .ok blanks)
    (hbody : Writes body (depth + step) step result written) :
    Writes (Writing.block header footer body) depth step result
      ([blanks ++ header] ++ written ++ [blanks ++ footer]) := by
  intro w hdepth hstep
  subst hdepth hstep
  have hrun := hbody
    { w with
      lines := w.lines ++ [blanks ++ header]
      opened := w.depth :: w.opened
      depth := w.depth + w.step } rfl rfl
  rw [Writing.block, run_bind_ok (run_openBlock_ok h),
    run_closing hrun (run_closeBlock_ok rfl h)]
  simp only [List.append_assoc]

theorem block_error {header footer : String} {body : Writing α}
    (h : indentation depth = .error e) :
    Writes (Writing.block header footer body) depth step (.error e) [] := by
  intro w hdepth _
  rw [Writing.block, run_bind_error (run_openBlock_error (hdepth ▸ h)), List.append_nil]

end Writes

end Writing

/-! ## The effect of a parameter -/

open Writing

namespace StoreCall

/-- Where a call stands: its guard stands at the depth, and the call one step inside. -/
def column (required : Bool) (depth step : Int) : Int := if required then depth else depth + step

theorem le_column {step : Int} (hstep : 0 ≤ step) (required : Bool) (depth : Int) :
    depth ≤ column required depth step := by
  unfold column
  split <;> omega

theorem column_le {step : Int} (hstep : 0 ≤ step) (required : Bool) (depth : Int) :
    column required depth step ≤ depth + step := by
  unfold column
  split <;> omega

/-- A call can be written exactly if the blanks in front of its guard and those in
front of itself can. -/
theorem exists_writes_write (c : StoreCall) (s : Settings) (required : Bool)
    (depth step : Int) :
    ∃ written, Writes (c.write s required) depth step
      (indentation depth >>= fun _ =>
        (indentation (column required depth step)).map fun _ => ()) written := by
  unfold write
  cases required with
  | true =>
      cases hdepth : indentation depth with
      | error e => exact ⟨_, Writes.line_error hdepth⟩
      | ok blanks =>
          show ∃ written, Writes _ depth step ((indentation depth).map fun _ => ()) written
          rw [hdepth]
          exact ⟨_, Writes.line_ok hdepth⟩
  | false =>
      cases hdepth : indentation depth with
      | error e => exact ⟨_, Writes.block_error hdepth⟩
      | ok blanks =>
          show ∃ written, Writes _ depth step ((indentation (depth + step)).map fun _ => ()) written
          cases hinner : indentation (depth + step) with
          | error e => exact ⟨_, Writes.block hdepth (Writes.line_error hinner)⟩
          | ok inner => exact ⟨_, Writes.block hdepth (Writes.line_ok hinner)⟩

/-- A call that is written without a failure stands on a line, behind blanks. -/
theorem exists_line_of_write {c : StoreCall} {s : Settings} {required : Bool}
    {w v : Sink} (h : (c.write s required).run w = (.ok (), v)) :
    ∃ written blanks, v = { w with lines := w.lines ++ written } ∧ blanks ++ c.text ∈ written := by
  have hv : ∀ {written : List String},
      Writes (c.write s required) w.depth w.step (.ok ()) written →
        v = { w with lines := w.lines ++ written } := by
    intro written hwrites
    exact (Prod.mk.inj (h.symm.trans (hwrites w rfl rfl))).2
  have hfails : ∀ {e : Error} {written : List String},
      ¬Writes (c.write s required) w.depth w.step (.error e) written := by
    intro e written hwrites
    cases (Prod.mk.inj (h.symm.trans (hwrites w rfl rfl))).1
  unfold write at hv hfails
  cases hdepth : indentation w.depth with
  | error e =>
      cases required with
      | true => exact absurd (Writes.line_error hdepth) hfails
      | false => exact absurd (Writes.block_error hdepth) hfails
  | ok blanks =>
  cases required with
  | true => exact ⟨_, blanks, hv (Writes.line_ok hdepth), List.mem_singleton_self _⟩
  | false =>
  cases hinner : indentation (w.depth + w.step) with
  | error e => exact absurd (Writes.block hdepth (Writes.line_error hinner)) hfails
  | ok inner =>
      refine ⟨_, inner, hv (Writes.block hdepth (Writes.line_ok hinner)), ?_⟩
      simp

end StoreCall

namespace Parameter

variable {p : Parameter} {s : Settings} {depth step : Int}

theorem emit_eq (p : Parameter) (s : Settings) :
    p.emit s = (liftM (p.type.family s >>= p.storeCall s) : Writing StoreCall) >>=
      fun call => call.write s p.required := by
  rw [Parameter.emit]
  cases p.type.family s <;> rfl

/-- Without a call nothing is written. -/
theorem writes_emit_of_error {e : Error} (h : p.type.family s >>= p.storeCall s = .error e) :
    Writes (p.emit s) depth step (.error e) [] := by
  rw [emit_eq, h]
  exact Writes.bind_error (Writes.lift _)

/-- What a parameter writes is its call. -/
theorem writes_emit_of_ok {call : StoreCall} {result : Except Error Unit} {written : List String}
    (h : p.type.family s >>= p.storeCall s = .ok call)
    (hwrite : Writes (call.write s p.required) depth step result written) :
    Writes (p.emit s) depth step result written := by
  rw [emit_eq, h, ← List.nil_append written]
  exact Writes.bind_ok (Writes.lift _) hwrite

/-- A parameter has one effect on all sinks of a depth and a step. -/
theorem exists_writes_emit (p : Parameter) (s : Settings) (depth step : Int) :
    ∃ result written, Writes (p.emit s) depth step result written := by
  cases hcall : p.type.family s >>= p.storeCall s with
  | error e => exact ⟨_, _, writes_emit_of_error hcall⟩
  | ok call =>
      obtain ⟨written, hwrite⟩ := call.exists_writes_write s p.required depth step
      exact ⟨_, _, writes_emit_of_ok hcall hwrite⟩

end Parameter

end InputBindings
