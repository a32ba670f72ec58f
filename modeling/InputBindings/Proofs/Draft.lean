import InputBindings.Proofs.Faults

/-!
# What becomes of a parameter

A parameter is judged in four steps: its type, its name, the identifier of a model, and
the target type. The settings have no say in any of them, and the sink has none either.
A parameter that passes is a draft of a store call, to which the settings add only how
it is spelled. Then the sink decides the rest: a draft is written at once or inside a
guard, and cannot be written beyond the widest indentation.

Main statement: `emit_refused_or_written`.
-/

namespace InputBindings

open Traversal Writing

/-! ## Types -/

namespace NativeType

variable {t : NativeType} {s : Settings}

/-- A container that cannot be serialized, has no element type, or is a row and a column
at once. -/
def Misshapen (t : NativeType) : Prop :=
  t.container = true ∧
    (t.serializable = false ∨ t.element = none ∨ t.isRow = true ∧ t.isColumn = true)

/-- A type that cannot be serialized and is no container. -/
def IsPlain (t : NativeType) : Prop := t.serializable = false ∧ t.container = false

/-- A type that can be serialized and is no container. -/
def IsModel (t : NativeType) : Prop := t.serializable = true ∧ t.container = false

theorem plain_or_model_or_container (h : ¬t.Misshapen) :
    t.IsPlain ∨ t.IsModel ∨ ∃ element, t.container = true ∧ t.element = some element := by
  cases hcontainer : t.container with
  | true =>
      cases helement : t.element with
      | none => exact absurd ⟨hcontainer, Or.inr (Or.inl helement)⟩ h
      | some element => exact Or.inr (Or.inr ⟨element, rfl, rfl⟩)
  | false =>
      cases hserializable : t.serializable with
      | false => exact Or.inl ⟨hserializable, hcontainer⟩
      | true => exact Or.inr (Or.inl ⟨hserializable, hcontainer⟩)

theorem family_of_misshapen (h : t.Misshapen) :
    ∃ e : Error, e.kind = .configuration ∧ ∀ s, t.family s = .error e := by
  obtain ⟨hcontainer, hshape⟩ := h
  cases hserializable : t.serializable with
  | false =>
      refine ⟨.ambiguousType t.name [Category.plain.name, Category.container.name], rfl, ?_⟩
      intro s
      simp [family, categories, belongs, hcontainer, hserializable, throw, throwThe,
        MonadExceptOf.throw]
  | true =>
      have hfamily : ∀ s, t.family s = t.containerFamily s := by
        intro s
        simp [family, categories, belongs, hcontainer, hserializable]
      cases helement : t.element with
      | none =>
          refine ⟨.noElementType t.name, rfl, fun s => ?_⟩
          simp only [hfamily, containerFamily, helement]
          rfl
      | some element =>
          have hboth : t.isRow = true ∧ t.isColumn = true := by
            simpa [hserializable, helement] using hshape
          refine ⟨.rowAndColumn t.name, rfl, fun s => ?_⟩
          simp only [hfamily, containerFamily, helement, hboth.1, hboth.2]
          rfl

theorem family_of_isPlain (h : t.IsPlain) : t.family s = .ok .plain := by
  simp [family, categories, belongs, h.1, h.2, pure, Except.pure]

theorem family_of_isModel (h : t.IsModel) : t.family s = .ok (.model t.name) := by
  simp [family, categories, belongs, h.1, h.2, pure, Except.pure]

theorem family_of_container {element : String} (h : ¬t.Misshapen)
    (hcontainer : t.container = true) (helement : t.element = some element) :
    t.family s = .ok (.container
      (if element ∈ s.unsignedElements then .unsigned else .other) t.shape) := by
  have hserializable : t.serializable = true := by
    by_contra hnot
    exact h ⟨hcontainer, Or.inl (Bool.eq_false_iff.mpr hnot)⟩
  have hboth : (t.isRow && t.isColumn) = false := by
    rw [Bool.eq_false_iff, ne_eq, Bool.and_eq_true]
    exact fun hboth => h ⟨hcontainer, Or.inr (Or.inr hboth)⟩
  simp [family, categories, belongs, hcontainer, hserializable, containerFamily, helement, hboth,
    pure, Except.pure]

end NativeType

/-! ## Drafts -/

/-- How a parameter is passed, as far as the settings have no say in it. -/
inductive Passage where
  | plain
  | container (element : String) (shape : Shape)
  | model (identifier : String)
  deriving DecidableEq, Repr

namespace Passage

def accessor (s : Settings) : Passage → String
  | .plain => s.storePrefix
  | .container element shape =>
    s.storePrefix ++ accessorSuffix s.unsignedMarker
      (if element ∈ s.unsignedElements then .unsigned else .other) shape
  | .model identifier => s.storePrefix ++ identifier ++ s.objectSuffix

end Passage

/-- A store call up to its spelling. -/
structure Draft where
  passage : Passage
  name : String
  target : String
  required : Bool
  deriving DecidableEq, Repr

/-- The blanks of an indentation that can be written. -/
def spaces (level : Int) : String := String.ofList (List.replicate level.toNat ' ')

namespace Draft

def call (d : Draft) (s : Settings) : StoreCall := ⟨d.passage.accessor s, d.name, d.target⟩

/-- The lines of a draft at a depth. -/
def lines (d : Draft) (s : Settings) (depth step : Int) : List String :=
  if d.required then [spaces depth ++ (d.call s).text]
  else [spaces depth ++ (d.call s).guard s, spaces (depth + step) ++ (d.call s).text,
    spaces depth ++ StoreCall.guardEnd]

end Draft

/-! ## Parameters as drafts -/

namespace Parameter

variable {p : Parameter} {s : Settings} {w : Sink} {d : Draft} {e : Error}

/-- What the type and the native spelling say of how the parameter is passed. -/
inductive Passes (p : Parameter) : Passage → Prop where
  | plain (plain : p.type.IsPlain) : Passes p .plain
  | container {element : String} (shape : ¬p.type.Misshapen)
      (container : p.type.container = true) (element_eq : p.type.element = some element) :
      Passes p (.container element p.type.shape)
  | model {spelling : String} (model : p.type.IsModel) (underlying : p.underlying = .str spelling)
      (identifier : Identifier.ofSpelling spelling ≠ "") :
      Passes p (.model (Identifier.ofSpelling spelling))

/-- A model without an identifier: nothing is left of its native spelling. -/
def Nameless (p : Parameter) : Prop :=
  p.type.IsModel ∧ ∃ spelling, p.underlying = .str spelling ∧ Identifier.ofSpelling spelling = ""

/-- The target type as it is written: the parameter's own if it has one, then that of the
type, then the array or the model that the type stands for. -/
inductive Targets (p : Parameter) : String → Prop where
  | own {target : String} (given : p.target.isGiven = true) (text : p.target.text = some target) :
      Targets p target
  | type {target : String} (own : p.target.isGiven = false)
      (given : p.type.target.isGiven = true) (text : p.type.target.text = some target) :
      Targets p target
  | array {element name : String} (own : p.target.isGiven = false)
      (type : p.type.target.isGiven = false) (container : p.type.container = true)
      (element_eq : p.type.element = some element) (name_eq : elementTarget? element = some name) :
      Targets p ("Array\x7b" ++ name ++
        (if p.type.isRow || p.type.isColumn then ", 1\x7d" else ", 2\x7d"))
  | model (own : p.target.isGiven = false) (type : p.type.target.isGiven = false)
      (model : p.type.IsModel) (identifier : Identifier.ofSpelling p.type.name ≠ "") :
      Targets p (Identifier.ofSpelling p.type.name)

/-- There is no target type: none is given, and none can be made out. -/
structure Untargeted (p : Parameter) : Prop where
  own : p.target.isGiven = false
  type : p.type.target.isGiven = false
  array : p.type.container = true → ∀ element, p.type.element = some element →
    elementTarget? element = none
  model : p.type.IsModel → Identifier.ofSpelling p.type.name = ""

/-- The target type is given as a value that has no text. -/
def Textless (p : Parameter) : Prop := ∃ v, p.targetType = .ok v ∧ v.text = none

/-- The parameter is the draft, under all settings. -/
structure Drafts (p : Parameter) (d : Draft) : Prop where
  checked : p.checkName = .ok ()
  passage : p.Passes d.passage
  name : d.name = p.name
  target : p.Targets d.target
  required : d.required = p.required

/-- The parameter fails with the error before anything is written, under all settings. -/
def Refuses (p : Parameter) (e : Error) : Prop :=
  ∀ s, p.type.family s >>= p.storeCall s = .error e

/-! ### Accessors -/

theorem underlying_of_text? {spelling : String} (h : p.underlying.text? = some spelling) :
    p.underlying = .str spelling := by
  unfold Value.text? at h
  split at h
  · rename_i text hunderlying
    rw [hunderlying, Option.some.inj h]
  · cases h

theorem Passes.family {passage : Passage} (h : p.Passes passage) (s : Settings) :
    ∃ family, p.type.family s = .ok family ∧
      p.accessor s family = .ok (passage.accessor s) := by
  cases h with
  | plain hplain => exact ⟨_, NativeType.family_of_isPlain hplain, rfl⟩
  | container hshape hcontainer helement =>
      exact ⟨_, NativeType.family_of_container hshape hcontainer helement, rfl⟩
  | model hmodel hunderlying hidentifier =>
      refine ⟨_, NativeType.family_of_isModel hmodel, ?_⟩
      simp [accessor, identifier, hunderlying, hidentifier, bind, Except.bind, pure, Except.pure,
        Passage.accessor]

/-- A type in good shape is passed in one of three ways, unless a model has no
identifier. -/
theorem exists_passes (hshape : ¬p.type.Misshapen) (hnameless : ¬p.Nameless) :
    p.type.IsModel ∧ p.underlying.text? = none ∨ ∃ passage, p.Passes passage := by
  rcases NativeType.plain_or_model_or_container hshape with
    hplain | hmodel | ⟨element, hcontainer, helement⟩
  · exact Or.inr ⟨_, .plain hplain⟩
  · cases htext : p.underlying.text? with
    | none => exact Or.inl ⟨hmodel, rfl⟩
    | some spelling =>
        have hunderlying := underlying_of_text? htext
        refine Or.inr ⟨_, .model hmodel hunderlying fun hidentifier => ?_⟩
        exact hnameless ⟨hmodel, spelling, hunderlying, hidentifier⟩
  · exact Or.inr ⟨_, .container hshape hcontainer helement⟩

/-! ### Target types -/

theorem targetType_of_targets {target : String} (h : p.Targets target) :
    ∃ v, p.targetType = .ok v ∧ v.text = some target := by
  cases h with
  | own hgiven htext => exact ⟨_, if_pos hgiven, htext⟩
  | type hown hgiven htext =>
      refine ⟨_, ?_, htext⟩
      simp [targetType, NativeType.targetType, hown, hgiven, pure, Except.pure]
  | array hown htype hcontainer helement hname =>
      refine ⟨.str _, ?_, rfl⟩
      simp [targetType, NativeType.targetType, NativeType.arrayTarget?, hown, htype, hcontainer,
        helement, hname, pure, Except.pure]
  | model hown htype hmodel hidentifier =>
      refine ⟨.str _, ?_, rfl⟩
      simp [targetType, NativeType.targetType, NativeType.arrayTarget?, NativeType.modelTarget?,
        hown, htype, hmodel.1, hmodel.2, hidentifier, pure, Except.pure]

theorem targetType_of_untargeted (h : p.Untargeted) :
    p.targetType = .error (.noTargetType p.type.name) := by
  have harray : p.type.arrayTarget? = none := by
    unfold NativeType.arrayTarget?
    cases hcontainer : p.type.container with
    | false => rfl
    | true =>
        cases helement : p.type.element with
        | none => rfl
        | some element => simp [h.array hcontainer element helement]
  have hmodel : p.type.modelTarget? = none := by
    unfold NativeType.modelTarget?
    split
    · rename_i hkind
      rw [Bool.and_eq_true, Bool.not_eq_true'] at hkind
      simp [h.model hkind]
    · rfl
  simp [targetType, NativeType.targetType, h.own, h.type, harray, hmodel, throw, throwThe,
    MonadExceptOf.throw]

theorem untargeted_or_targets (p : Parameter) :
    p.Untargeted ∨ p.Textless ∨ ∃ target, p.Targets target := by
  cases hown : p.target.isGiven with
  | true =>
      cases htext : p.target.text with
      | none => exact Or.inr (Or.inl ⟨_, if_pos hown, htext⟩)
      | some target => exact Or.inr (Or.inr ⟨target, .own hown htext⟩)
  | false =>
  cases htype : p.type.target.isGiven with
  | true =>
      cases htext : p.type.target.text with
      | none =>
          refine Or.inr (Or.inl ⟨p.type.target, ?_, htext⟩)
          simp [targetType, NativeType.targetType, hown, htype, pure, Except.pure]
      | some target => exact Or.inr (Or.inr ⟨target, .type hown htype htext⟩)
  | false =>
  by_cases harray : ∃ element name, p.type.container = true ∧ p.type.element = some element ∧
      elementTarget? element = some name
  · obtain ⟨element, name, hcontainer, helement, hname⟩ := harray
    exact Or.inr (Or.inr ⟨_, .array hown htype hcontainer helement hname⟩)
  by_cases hmodel : p.type.IsModel ∧ Identifier.ofSpelling p.type.name ≠ ""
  · exact Or.inr (Or.inr ⟨_, .model hown htype hmodel.1 hmodel.2⟩)
  · refine Or.inl ⟨hown, htype, ?_, fun h => not_not.mp fun hne => hmodel ⟨h, hne⟩⟩
    intro hcontainer element helement
    rw [Option.eq_none_iff_forall_ne_some]
    exact fun name hname => harray ⟨element, name, hcontainer, helement, hname⟩

/-! ### Refused or drafted -/

theorem exists_family (h : ¬p.type.Misshapen) (s : Settings) :
    ∃ family, p.type.family s = .ok family := by
  rcases NativeType.plain_or_model_or_container h with
    hplain | hmodel | ⟨element, hcontainer, helement⟩
  · exact ⟨_, NativeType.family_of_isPlain hplain⟩
  · exact ⟨_, NativeType.family_of_isModel hmodel⟩
  · exact ⟨_, NativeType.family_of_container h hcontainer helement⟩

theorem refuses_of_misshapen (h : p.type.Misshapen) :
    ∃ e : Error, e.kind = .configuration ∧ p.Refuses e := by
  obtain ⟨e, hkind, hfamily⟩ := NativeType.family_of_misshapen h
  exact ⟨e, hkind, fun s => bind_of_error (hfamily s)⟩

theorem refuses_of_checkName (hshape : ¬p.type.Misshapen) (h : p.checkName = .error e) :
    p.Refuses e := by
  intro s
  obtain ⟨family, hfamily⟩ := exists_family hshape s
  rw [bind_of_ok hfamily, storeCall]
  exact bind_of_error h

theorem refuses_of_identifier (hmodel : p.type.IsModel) (hname : p.checkName = .ok ())
    (h : p.identifier = .error e) : p.Refuses e := by
  intro s
  rw [bind_of_ok (NativeType.family_of_isModel hmodel), storeCall, bind_of_ok hname]
  exact bind_of_error (bind_of_error h)

theorem refuses_of_nameless (hname : p.checkName = .ok ()) (h : p.Nameless) :
    ∃ e : Error, e.kind = .descriptor ∧ p.Refuses e := by
  obtain ⟨hmodel, spelling, hunderlying, hidentifier⟩ := h
  refine ⟨.noUsableIdentifier p.name spelling, rfl, refuses_of_identifier hmodel hname ?_⟩
  simp [identifier, hunderlying, hidentifier, throw, throwThe, MonadExceptOf.throw]

/-- Behind the accessor, what is wrong with the target type decides. -/
theorem refuses_of_target {passage : Passage} (hname : p.checkName = .ok ())
    (hpassage : p.Passes passage) (h : p.targetType >>= Value.written = .error e) :
    p.Refuses e := by
  intro s
  obtain ⟨family, hfamily, haccessor⟩ := hpassage.family s
  rw [bind_of_ok hfamily, storeCall, bind_of_ok hname, bind_of_ok haccessor]
  rcases bind_eq_error_iff.mp h with htarget | ⟨v, htarget, hwritten⟩
  · exact bind_of_error htarget
  · rw [bind_of_ok htarget]
    exact bind_of_error hwritten

theorem refuses_of_untargeted {passage : Passage} (hname : p.checkName = .ok ())
    (hpassage : p.Passes passage) (h : p.Untargeted) : p.Refuses (.noTargetType p.type.name) :=
  refuses_of_target hname hpassage (bind_of_error (targetType_of_untargeted h))

theorem refuses_of_textless {passage : Passage} (hname : p.checkName = .ok ())
    (hpassage : p.Passes passage) (h : p.Textless) : p.Refuses .noText := by
  obtain ⟨v, htarget, htext⟩ := h
  refine refuses_of_target hname hpassage ?_
  rw [bind_of_ok htarget, Value.written, htext]
  rfl

theorem Drafts.call (h : p.Drafts d) (s : Settings) :
    p.type.family s >>= p.storeCall s = .ok (d.call s) := by
  obtain ⟨family, hfamily, haccessor⟩ := h.passage.family s
  obtain ⟨v, htarget, htext⟩ := targetType_of_targets h.target
  have hwritten : v.written = .ok d.target := by
    rw [Value.written, htext]
    rfl
  rw [bind_of_ok hfamily, storeCall, bind_of_ok h.checked, bind_of_ok haccessor,
    bind_of_ok htarget, bind_of_ok hwritten, Draft.call, h.name]
  rfl

/-- The settings decide neither whether a parameter is refused nor why. -/
theorem refuses_or_drafts (p : Parameter) : (∃ e, p.Refuses e) ∨ ∃ d, p.Drafts d := by
  by_cases hshape : p.type.Misshapen
  · obtain ⟨e, -, hrefuses⟩ := refuses_of_misshapen hshape
    exact Or.inl ⟨e, hrefuses⟩
  cases hname : p.checkName with
  | error e => exact Or.inl ⟨e, refuses_of_checkName hshape hname⟩
  | ok _ =>
  by_cases hnameless : p.Nameless
  · obtain ⟨e, -, hrefuses⟩ := refuses_of_nameless hname hnameless
    exact Or.inl ⟨e, hrefuses⟩
  rcases exists_passes hshape hnameless with ⟨hmodel, htext⟩ | ⟨passage, hpassage⟩
  · exact Or.inl ⟨_, refuses_of_identifier hmodel hname (identifier_of_text? htext)⟩
  rcases untargeted_or_targets p with huntargeted | htextless | ⟨target, htarget⟩
  · exact Or.inl ⟨_, refuses_of_untargeted hname hpassage huntargeted⟩
  · exact Or.inl ⟨_, refuses_of_textless hname hpassage htextless⟩
  · exact Or.inr ⟨⟨passage, p.name, target, p.required⟩, hname, hpassage, rfl, htarget, rfl⟩

end Parameter

/-! ## What is written -/

/-- The indentation can be written. -/
def Fits (level : Int) : Prop := 0 ≤ level ∧ level ≤ maxIndentation

theorem indentation_of_fits {level : Int} (h : Fits level) :
    indentation level = .ok (spaces level) := by
  obtain ⟨hnonneg, hle⟩ := h
  rcases indentation_cases level with ⟨hnegative, -⟩ | ⟨-, -, hblanks⟩ | ⟨hwide, -⟩
  · exact absurd hnonneg (Int.not_le.mpr hnegative)
  · exact hblanks
  · exact absurd hle (Int.not_le.mpr hwide)

theorem indentation_of_wide {level : Int} (h : maxIndentation < level) :
    indentation level = .error .indentOutOfRange := by
  have hmax : 0 < maxIndentation := by decide
  rcases indentation_cases level with ⟨hnegative, -⟩ | ⟨-, hle, -⟩ | ⟨-, herror⟩
  · exact absurd h (Int.not_lt.mpr (Int.le_of_lt (Int.lt_trans hnegative hmax)))
  · exact absurd h (Int.not_lt.mpr hle)
  · exact herror

namespace Parameter

variable {p : Parameter} {s : Settings} {w : Sink} {d : Draft} {e : Error} {depth step : Int}

theorem Refuses.run (h : p.Refuses e) (s : Settings) (w : Sink) :
    (p.emit s).run w = (.error e, w) := by
  rw [writes_emit_of_error (h s) w rfl rfl, List.append_nil]

namespace Drafts

theorem writes_lines (h : p.Drafts d) (s : Settings) (hdepth : Fits depth)
    (hcolumn : Fits (StoreCall.column p.required depth step)) :
    Writes (p.emit s) depth step (.ok ()) (d.lines s depth step) := by
  refine writes_emit_of_ok (h.call s) ?_
  unfold StoreCall.write Draft.lines
  rw [h.required]
  cases hrequired : p.required with
  | true => exact Writes.line_ok (indentation_of_fits hdepth)
  | false =>
      rw [hrequired] at hcolumn
      exact Writes.block (indentation_of_fits hdepth) (Writes.line_ok (indentation_of_fits hcolumn))

theorem writes_nothing (h : p.Drafts d) (s : Settings) (step : Int)
    (hwide : maxIndentation < depth) :
    Writes (p.emit s) depth step (.error .indentOutOfRange) [] := by
  refine writes_emit_of_ok (h.call s) ?_
  unfold StoreCall.write
  cases p.required with
  | true => exact Writes.line_error (indentation_of_wide hwide)
  | false => exact Writes.block_error (indentation_of_wide hwide)

/-- The guard is closed although the call inside cannot be written. -/
theorem writes_guard (h : p.Drafts d) (s : Settings) (hdepth : Fits depth)
    (hwide : maxIndentation < StoreCall.column p.required depth step) :
    Writes (p.emit s) depth step (.error .indentOutOfRange)
      [spaces depth ++ (d.call s).guard s, spaces depth ++ StoreCall.guardEnd] := by
  have hrequired : p.required = false := by
    rw [Bool.eq_false_iff]
    intro hrequired
    rw [StoreCall.column, if_pos hrequired] at hwide
    exact Int.not_lt.mpr hdepth.2 hwide
  rw [hrequired] at hwide
  refine writes_emit_of_ok (h.call s) ?_
  unfold StoreCall.write
  rw [hrequired]
  exact Writes.block (indentation_of_fits hdepth) (Writes.line_error (indentation_of_wide hwide))

end Drafts

/-- Writing the parameter fails with an error of the kind and leaves the sink as it is. -/
def Refused (p : Parameter) (s : Settings) (w : Sink) (kind : Error.Kind) : Prop :=
  ∃ e : Error, e.kind = kind ∧ (p.emit s).run w = (.error e, w)

/-- What comes of a draft on a sink whose blocks go to the right: all of its lines, or
none if it stands too far to the right, or the guard alone if only the call does. -/
def Settles (p : Parameter) (d : Draft) (s : Settings) (w : Sink) : Prop :=
  (w.depth ≤ maxIndentation → StoreCall.column p.required w.depth w.step ≤ maxIndentation →
    (p.emit s).run w = (.ok (), { w with lines := w.lines ++ d.lines s w.depth w.step })) ∧
  (maxIndentation < w.depth → (p.emit s).run w = (.error .indentOutOfRange, w)) ∧
  (w.depth ≤ maxIndentation → maxIndentation < StoreCall.column p.required w.depth w.step →
    (p.emit s).run w = (.error .indentOutOfRange, { w with
      lines := w.lines ++ [spaces w.depth ++ (d.call s).guard s,
        spaces w.depth ++ StoreCall.guardEnd] }))

theorem Drafts.settles (h : p.Drafts d) (s : Settings) (hdepth : 0 ≤ w.depth)
    (hinner : 0 ≤ w.depth + w.step) : p.Settles d s w := by
  have hcolumn : 0 ≤ StoreCall.column p.required w.depth w.step := by
    unfold StoreCall.column
    split <;> assumption
  refine ⟨fun hfits hroom => ?_, fun hwide => ?_, fun hfits hwide => ?_⟩
  · exact h.writes_lines s ⟨hdepth, hfits⟩ ⟨hcolumn, hroom⟩ w rfl rfl
  · rw [h.writes_nothing s w.step hwide w rfl rfl, List.append_nil]
  · exact h.writes_guard s ⟨hdepth, hfits⟩ hwide w rfl rfl

/-- **A parameter is refused or written.** On a sink whose depth is not negative, nor the
depth inside a block, a parameter whose native spelling is text is refused for its type,
else for its name, else because a model has no identifier, else because it has no target
type or one without a text; the errors are those of a configuration, a descriptor, a
descriptor, a configuration and a value, and the sink stays as it is. Otherwise the
parameter is a draft: the accessor, the name and the target type are made out, and the
line of its call, inside a guard unless it is required, follows the lines of the sink.
Only a call that stands beyond the widest indentation fails, and leaves the guard behind
if that can be written. -/
theorem emit_refused_or_written (hspelling : ∃ spelling, p.underlying = .str spelling)
    (hdepth : 0 ≤ w.depth) (hinner : 0 ≤ w.depth + w.step) :
    (p.type.Misshapen → p.Refused s w .configuration) ∧
    (¬p.type.Misshapen → p.checkName ≠ .ok () → p.Refused s w .descriptor) ∧
    (¬p.type.Misshapen → p.checkName = .ok () → p.Nameless → p.Refused s w .descriptor) ∧
    (¬p.type.Misshapen → p.checkName = .ok () → ¬p.Nameless →
      (p.Untargeted → p.Refused s w .configuration) ∧
      (p.Textless → p.Refused s w .value) ∧
      (¬p.Untargeted → ¬p.Textless → ∃ d, p.Drafts d ∧ p.Settles d s w)) := by
  refine ⟨fun hshape => ?_, fun hshape hname => ?_, fun hshape hname hnameless => ?_,
    fun hshape hname hnameless => ?_⟩
  · obtain ⟨e, hkind, hrefuses⟩ := refuses_of_misshapen hshape
    exact ⟨e, hkind, hrefuses.run s w⟩
  · cases hcheck : p.checkName with
    | ok _ => exact absurd hcheck hname
    | error e => exact ⟨e, kind_of_checkName hcheck, (refuses_of_checkName hshape hcheck).run s w⟩
  · obtain ⟨e, hkind, hrefuses⟩ := refuses_of_nameless hname hnameless
    exact ⟨e, hkind, hrefuses.run s w⟩
  · rcases exists_passes hshape hnameless with ⟨-, htext⟩ | ⟨passage, hpassage⟩
    · obtain ⟨spelling, hunderlying⟩ := hspelling
      rw [hunderlying] at htext
      cases htext
    refine ⟨fun huntargeted => ?_, fun htextless => ?_, fun huntargeted htextless => ?_⟩
    · exact ⟨_, rfl, (refuses_of_untargeted hname hpassage huntargeted).run s w⟩
    · exact ⟨_, rfl, (refuses_of_textless hname hpassage htextless).run s w⟩
    · obtain ⟨target, htarget⟩ :=
        ((untargeted_or_targets p).resolve_left huntargeted).resolve_left htextless
      have hdrafts : p.Drafts ⟨passage, p.name, target, p.required⟩ :=
        ⟨hname, hpassage, rfl, htarget, rfl⟩
      exact ⟨_, hdrafts, hdrafts.settles s hdepth hinner⟩

/-- An optional count. -/
def count : Parameter := { name := "n", type := .plain "size_t" (.str "UInt") }

theorem count_settles : ∃ d, count.Drafts d ∧ count.Settles d {} (Sink.new 2 2) := by
  obtain ⟨-, -, -, htargeted⟩ := emit_refused_or_written (p := count) (s := {})
    (w := Sink.new 2 2) ⟨"size_t", rfl⟩ (by decide) (by decide)
  have hshape : ¬count.type.Misshapen := by
    rintro ⟨hcontainer, -⟩
    cases hcontainer
  have hnameless : ¬count.Nameless := by
    rintro ⟨⟨hserializable, -⟩, -⟩
    cases hserializable
  obtain ⟨-, -, hsettles⟩ := htargeted hshape rfl hnameless
  refine hsettles ?_ ?_
  · rintro ⟨-, htype, -, -⟩
    cases htype
  · rintro ⟨v, hv, htext⟩
    cases hv
    cases htext

/-- A draft whose call stands beyond all machine integers leaves its guard behind. -/
theorem count_leaves_guard :
    count.underlying = .str "size_t" ∧ count.Drafts ⟨.plain, "n", "UInt", false⟩ ∧
    0 ≤ (Sink.new 0 (10 ^ 20)).depth ∧ 0 ≤ (Sink.new 0 (10 ^ 20)).depth + (10 ^ 20 : Int) ∧
    (count.emit {}).run (Sink.new 0 (10 ^ 20)) =
      (.error .indentOutOfRange, { Sink.new 0 (10 ^ 20) with
        lines := ["if n !== nothing", "end"] }) := by
  refine ⟨rfl, ?_, by decide, by decide, by rfl⟩
  exact ⟨rfl, .plain ⟨rfl, rfl⟩, rfl, .type rfl rfl rfl, rfl⟩

end Parameter

end InputBindings
