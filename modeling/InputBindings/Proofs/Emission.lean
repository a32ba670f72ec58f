import InputBindings.Program
import InputBindings.Proofs.Traversal
import InputBindings.Proofs.Writing
import Mathlib.Data.List.Forall2
import Mathlib.Data.List.Induction

/-!
# Parameter lists

A parameter list is written into one sink, with one record of the names that
have occurred. Nothing but a repeated name ties its parameters together: each
leaves the sink at the depth at which it found it and with its own lines behind
the earlier ones, so the text of a list is put together from the texts of its
parameters alone.

Main statements: `emitText_concat_or_first_fault` says when a list has a text
and which, and which of several faults is reported; `emitAll_atomic` says that
the sink of a caller gets all of the lines or is left as it is.
-/

namespace InputBindings.Parameter

open Writing

variable {s : Settings} {program : String} {depth step : Int}

/-! ## Effects of parameter lists -/

theorem writes_emitEach_nil (seen : List String) :
    Writes (emitEach s program seen []) depth step (.ok ()) [] :=
  Writes.pure ()

theorem writes_emitEach_repeated {p : Parameter} {seen : List String} (program : String)
    (rest : List Parameter) (hseen : p.name ∈ seen) :
    Writes (emitEach s program seen (p :: rest)) depth step
      (.error (.duplicateParameter p.name program)) [] := by
  rw [emitEach, if_pos hseen]
  exact Writes.bind_error Writes.throw

theorem writes_emitEach_cons {p : Parameter} {rest : List Parameter} {seen : List String}
    {result : Except Error Unit} {written more : List String} (hseen : p.name ∉ seen)
    (hp : Writes (p.emit s) depth step (.ok ()) written)
    (hrest : Writes (emitEach s program (p.name :: seen) rest) depth step result more) :
    Writes (emitEach s program seen (p :: rest)) depth step result (written ++ more) := by
  rw [emitEach, if_neg hseen]
  exact Writes.bind_ok hp hrest

theorem writes_emitEach_failing {p : Parameter} {seen written : List String} {e : Error}
    (program : String) (rest : List Parameter) (hseen : p.name ∉ seen)
    (hp : Writes (p.emit s) depth step (.error e) written) :
    Writes (emitEach s program seen (p :: rest)) depth step (.error e) written := by
  rw [emitEach, if_neg hseen]
  exact Writes.bind_error hp

theorem exists_writes_emitEach (s : Settings) (program : String) (seen : List String)
    (params : List Parameter) (depth step : Int) :
    ∃ result written, Writes (emitEach s program seen params) depth step result written := by
  induction params generalizing seen with
  | nil => exact ⟨_, _, writes_emitEach_nil seen⟩
  | cons p rest ih =>
      by_cases hseen : p.name ∈ seen
      · exact ⟨_, _, writes_emitEach_repeated program rest hseen⟩
      · obtain ⟨result, written, hp⟩ := p.exists_writes_emit s depth step
        cases result with
        | error e => exact ⟨_, _, writes_emitEach_failing program rest hseen hp⟩
        | ok _ =>
            obtain ⟨result, more, hrest⟩ := ih (p.name :: seen)
            exact ⟨_, _, writes_emitEach_cons hseen hp hrest⟩

/-! ## From effects to texts -/

theorem buffer_of_writes {params : List Parameter} {result : Except Error Unit}
    {written : List String}
    (h : Writes (emitEach s program [] params) s.baseIndent s.indentStep result written) :
    buffer s program params =
      result.map fun _ => { Sink.new s.baseIndent s.indentStep with lines := written } := by
  unfold buffer
  rw [h _ rfl rfl]
  cases result <;> rfl

theorem emitText_of_writes {params : List Parameter} {result : Except Error Unit}
    {written : List String}
    (h : Writes (emitEach s program [] params) s.baseIndent s.indentStep result written) :
    emitText s program params = result.map fun _ => Text.closedLines written := by
  unfold emitText
  rw [buffer_of_writes h]
  cases result <;> rfl

theorem emitText_singleton {p : Parameter} {result : Except Error Unit} {written : List String}
    (h : Writes (p.emit s) s.baseIndent s.indentStep result written) :
    emitText s program [p] = result.map fun _ => Text.closedLines written := by
  cases result with
  | error e => exact emitText_of_writes (writes_emitEach_failing program [] List.not_mem_nil h)
  | ok _ =>
      rw [← List.append_nil written]
      exact emitText_of_writes
        (writes_emitEach_cons List.not_mem_nil h (writes_emitEach_nil _))

theorem writes_of_emitText_ok {p : Parameter} {text : String}
    (h : emitText s program [p] = .ok text) :
    ∃ written, Writes (p.emit s) s.baseIndent s.indentStep (.ok ()) written ∧
      Text.closedLines written = text := by
  obtain ⟨result, written, hwrites⟩ := p.exists_writes_emit s s.baseIndent s.indentStep
  rw [emitText_singleton hwrites] at h
  cases result with
  | error e => cases h
  | ok _ => exact ⟨written, hwrites, Except.ok.inj h⟩

theorem writes_of_emitText_error {p : Parameter} {e : Error}
    (h : emitText s program [p] = .error e) :
    ∃ written, Writes (p.emit s) s.baseIndent s.indentStep (.error e) written := by
  obtain ⟨result, written, hwrites⟩ := p.exists_writes_emit s s.baseIndent s.indentStep
  rw [emitText_singleton hwrites] at h
  cases result with
  | error _ => exact ⟨written, Except.error.inj h ▸ hwrites⟩
  | ok _ => cases h

theorem closedLines_append (ls ms : List String) :
    Text.closedLines (ls ++ ms) = Text.closedLines ls ++ Text.closedLines ms := by
  simp [Text.closedLines]

/-- Parameters with new names that have texts alone leave the sink to the ones
behind them as they found it, with their own lines and names added. -/
theorem writes_emitEach_append {before after : List Parameter} {texts : List String}
    {other : String} {result : Except Error Unit} {more : List String}
    (halone : List.Forall₂ (fun p text => emitText s other [p] = .ok text) before texts) :
    ∀ {seen : List String}, (before.map (·.name)).Nodup →
      (∀ p ∈ before, p.name ∉ seen) →
      Writes (emitEach s program ((before.map (·.name)).reverse ++ seen) after)
        s.baseIndent s.indentStep result more →
      ∃ written, Text.closedLines written = String.join texts ∧
        Writes (emitEach s program seen (before ++ after)) s.baseIndent s.indentStep
          result (written ++ more) := by
  induction halone with
  | nil =>
      intro seen _ _ hafter
      exact ⟨[], rfl, hafter⟩
  | @cons p text before texts hp _ ih =>
      intro seen hnodup hseen hafter
      rw [List.map_cons, List.nodup_cons] at hnodup
      rw [List.map_cons, List.reverse_cons, List.append_assoc] at hafter
      obtain ⟨lines, hlines, htext⟩ := writes_of_emitText_ok hp
      have hapart : ∀ q ∈ before, q.name ∉ p.name :: seen := by
        intro q hq hmem
        rcases List.mem_cons.mp hmem with heq | hold
        · exact hnodup.1 (heq ▸ List.mem_map_of_mem hq)
        · exact hseen q (List.mem_cons_of_mem _ hq) hold
      obtain ⟨written, hwritten, hrest⟩ := ih hnodup.2 hapart hafter
      refine ⟨lines ++ written, ?_, ?_⟩
      · rw [closedLines_append, htext, hwritten, String.join_cons]
      · rw [List.append_assoc]
        exact writes_emitEach_cons (hseen p List.mem_cons_self) hlines hrest

/-! ## The text of a list, or its first fault -/

/-- The names differ and each parameter has a text of its own. -/
def Faultless (s : Settings) (params : List Parameter) : Prop :=
  (params.map (·.name)).Nodup ∧ ∀ p ∈ params, ∃ text, emitText s "" [p] = .ok text

/-- What is wrong with a parameter behind others: that its name has occurred,
whatever else is wrong with it, or what is wrong with it alone. -/
def FaultBehind (s : Settings) (program : String) (before : List Parameter) (p : Parameter)
    (e : Error) : Prop :=
  if p.name ∈ before.map (·.name) then e = .duplicateParameter p.name program
  else emitText s "" [p] = .error e

theorem forall₂_texts {params : List Parameter}
    (h : ∀ p ∈ params, ∃ text, emitText s "" [p] = .ok text) :
    ∃ texts, List.Forall₂ (fun p text => emitText s "" [p] = .ok text) params texts := by
  obtain ⟨texts, htexts⟩ := Traversal.exists_mapM_eq_ok_iff.mpr h
  exact ⟨texts, Traversal.mapM_eq_ok_iff.mp htexts⟩

theorem emitText_of_forall₂ {params : List Parameter} {texts : List String}
    (hnodup : (params.map (·.name)).Nodup)
    (halone : List.Forall₂ (fun p text => emitText s "" [p] = .ok text) params texts) :
    emitText s program params = .ok (String.join texts) := by
  obtain ⟨written, hwritten, hwrites⟩ := writes_emitEach_append halone hnodup
    (fun _ _ => List.not_mem_nil) (writes_emitEach_nil _)
  rw [List.append_nil, List.append_nil] at hwrites
  rw [emitText_of_writes hwrites, ← hwritten]
  rfl

theorem emitText_of_faultBehind {before : List Parameter} {p : Parameter} {e : Error}
    (after : List Parameter) (hbefore : Faultless s before)
    (hfault : FaultBehind s program before p e) :
    emitText s program (before ++ p :: after) = .error e := by
  obtain ⟨texts, halone⟩ := forall₂_texts hbefore.2
  unfold FaultBehind at hfault
  -- the record of names behind `before` is that of its names, in reverse
  have hmem : p.name ∈ (before.map (·.name)).reverse ++ [] ↔ p.name ∈ before.map (·.name) := by
    rw [List.append_nil, List.mem_reverse]
  split at hfault
  · rename_i hrepeated
    obtain ⟨written, _, hwrites⟩ := writes_emitEach_append halone hbefore.1
      (fun _ _ => List.not_mem_nil)
      (writes_emitEach_repeated program after (hmem.mpr hrepeated))
    rw [emitText_of_writes hwrites, hfault]
    rfl
  · rename_i hnew
    obtain ⟨lines, hlines⟩ := writes_of_emitText_error hfault
    obtain ⟨written, _, hwrites⟩ := writes_emitEach_append halone hbefore.1
      (fun _ _ => List.not_mem_nil)
      (writes_emitEach_failing program after (mt hmem.mp hnew) hlines)
    rw [emitText_of_writes hwrites]
    rfl

/-- A list is without faults or has a first one. -/
theorem faultless_or_first_fault (s : Settings) (program : String) (params : List Parameter) :
    Faultless s params ∨ ∃ before p after e, params = before ++ p :: after ∧
      Faultless s before ∧ FaultBehind s program before p e := by
  induction params using List.reverseRecOn with
  | nil => exact Or.inl ⟨List.nodup_nil, fun _ hp => absurd hp List.not_mem_nil⟩
  | append_singleton params p ih =>
      rcases ih with hclean | ⟨before, q, after, e, heq, hbefore, hfault⟩
      · by_cases hrepeated : p.name ∈ params.map (·.name)
        · exact Or.inr ⟨params, p, [], _, rfl, hclean, (if_pos hrepeated).mpr rfl⟩
        · cases halone : emitText s "" [p] with
          | error e =>
              exact Or.inr ⟨params, p, [], e, rfl, hclean, (if_neg hrepeated).mpr halone⟩
          | ok text =>
              refine Or.inl ⟨?_, ?_⟩
              · rw [List.map_append, List.map_singleton]
                exact List.nodup_append.mpr ⟨hclean.1, List.pairwise_singleton _ _, by
                  intro a ha b hb
                  rw [List.mem_singleton] at hb
                  exact fun hab => hrepeated (hb ▸ hab ▸ ha)⟩
              · intro q hq
                rcases List.mem_append.mp hq with hq | hq
                · exact hclean.2 q hq
                · exact ⟨text, List.mem_singleton.mp hq ▸ halone⟩
      · refine Or.inr ⟨before, q, after ++ [p], e, ?_, hbefore, hfault⟩
        rw [heq, List.append_assoc, List.cons_append]

theorem emitText_eq_ok_iff {params : List Parameter} {text : String} :
    emitText s program params = .ok text ↔
      (params.map (·.name)).Nodup ∧ ∃ texts,
        List.Forall₂ (fun p t => emitText s "" [p] = .ok t) params texts ∧
          text = String.join texts := by
  constructor
  · intro h
    rcases faultless_or_first_fault s program params with
      hclean | ⟨before, p, after, e, rfl, hbefore, hfault⟩
    · obtain ⟨texts, halone⟩ := forall₂_texts hclean.2
      rw [emitText_of_forall₂ hclean.1 halone] at h
      exact ⟨hclean.1, texts, halone, (Except.ok.inj h).symm⟩
    · rw [emitText_of_faultBehind after hbefore hfault] at h
      cases h
  · rintro ⟨hnodup, texts, halone, rfl⟩
    exact emitText_of_forall₂ hnodup halone

theorem emitText_eq_error_iff {params : List Parameter} {e : Error} :
    emitText s program params = .error e ↔
      ∃ before p after, params = before ++ p :: after ∧
        Faultless s before ∧ FaultBehind s program before p e := by
  constructor
  · intro h
    rcases faultless_or_first_fault s program params with
      hclean | ⟨before, p, after, e', rfl, hbefore, hfault⟩
    · obtain ⟨texts, halone⟩ := forall₂_texts hclean.2
      rw [emitText_of_forall₂ hclean.1 halone] at h
      cases h
    · have he := h.symm.trans (emitText_of_faultBehind after hbefore hfault)
      exact ⟨before, p, after, rfl, hbefore, Except.error.inj he ▸ hfault⟩
  · rintro ⟨before, p, after, rfl, hbefore, hfault⟩
    exact emitText_of_faultBehind after hbefore hfault

/-- **Lists are concatenations.** A list has a text exactly if its names differ
and each parameter has one alone, and the text is theirs in a row. Otherwise
the first parameter that repeats a name or fails alone decides the error, the
repetition before any other fault of it. So the list adds no error of its own
but the repetition: whatever else it fails with, one of its parameters does. -/
theorem emitText_concat_or_first_fault (s : Settings) (program : String)
    (params : List Parameter) :
    (∀ text, emitText s program params = .ok text ↔
      (params.map (·.name)).Nodup ∧ ∃ texts,
        List.Forall₂ (fun p t => emitText s "" [p] = .ok t) params texts ∧
          text = String.join texts) ∧
    (∀ e, emitText s program params = .error e ↔
      ∃ before p after, params = before ++ p :: after ∧
        Faultless s before ∧ FaultBehind s program before p e) ∧
    (∀ e, emitText s program params = .error e →
      (∃ p ∈ params, e = .duplicateParameter p.name program) ∨
        ∃ p ∈ params, emitText s "" [p] = .error e) := by
  refine ⟨fun _ => emitText_eq_ok_iff, fun _ => emitText_eq_error_iff, ?_⟩
  intro e h
  obtain ⟨before, p, after, rfl, _, hfault⟩ := emitText_eq_error_iff.mp h
  have hp : p ∈ before ++ p :: after := List.mem_append_right _ List.mem_cons_self
  unfold FaultBehind at hfault
  split at hfault
  · exact Or.inl ⟨p, hp, hfault⟩
  · exact Or.inr ⟨p, hp, hfault⟩

/-! ## The sink of a caller -/

theorem run_emitAll_error {params : List Parameter} {written : List String} {e : Error}
    (h : Writes (emitEach s program [] params) s.baseIndent s.indentStep (.error e) written)
    (w : Sink) : (emitAll s program params).run w = (.error e, w) := by
  rw [emitAll]
  exact run_bind_error (by rw [buffer_of_writes h]; rfl)

theorem run_emitAll_ok {params : List Parameter} {written : List String}
    (h : Writes (emitEach s program [] params) s.baseIndent s.indentStep (.ok ()) written)
    (w : Sink) : (emitAll s program params).run w =
      (.ok (Text.closedLines written), { w with lines := w.lines ++ written }) := by
  rw [emitAll, buffer_of_writes h]
  rfl

/-- **All lines or none.** A parameter list either fails, on every sink with the
same error and leaving it as it is, or has some lines, which it puts behind
those of any sink and whose text it returns. Neither the depth of the sink nor
the blocks open on it matter, and the outcome is that of a list without one. -/
theorem emitAll_atomic (s : Settings) (program : String) (params : List Parameter) :
    (∃ e, emitText s program params = .error e ∧
      ∀ w : Sink, (emitAll s program params).run w = (.error e, w)) ∨
    (∃ lines, emitText s program params = .ok (Text.closedLines lines) ∧
      ∀ w : Sink, (emitAll s program params).run w =
        (.ok (Text.closedLines lines), { w with lines := w.lines ++ lines })) := by
  obtain ⟨result, written, h⟩ :=
    exists_writes_emitEach s program [] params s.baseIndent s.indentStep
  cases result with
  | error e => exact Or.inl ⟨e, emitText_of_writes h, run_emitAll_error h⟩
  | ok _ => exact Or.inr ⟨written, emitText_of_writes h, run_emitAll_ok h⟩

end InputBindings.Parameter
