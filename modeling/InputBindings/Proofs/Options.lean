import InputBindings.Proofs.Manifest.Checks
import Mathlib

/-!
# The options of the settings

An option has one of three forms, and its form says which values it may be given and how they are
held. Each step of reading settings looks at one option: it gives the value as it is held, or the
standard one where none is given, and refuses a value that the form does not admit. What is held is
admitted again and held as it is, so settings are read back from their own items, and from any part
of them in which no option is left out but those that have their standard value.

Main statements: `ofEntries_eq_ok_iff`, `ofEntries_eq_error_iff`, `options_read_and_read_back`.
-/

namespace InputBindings.Settings

open Traversal

variable {entries part : List (Value × Value)} {s : Settings} {v : Value} {e : Error}

/-! ## Look-ups -/

theorem mem_of_lookup? {key : String} (h : Value.lookup? entries key = some v) :
    ∃ field ∈ entries, field.1 = .str key ∧ field.2 = v := by
  obtain ⟨field, hfield, hv⟩ := Option.map_eq_some_iff.mp h
  have hkey := List.find?_some hfield
  exact ⟨field, List.mem_of_find?_eq_some hfield, Value.same_str_iff.mp hkey, hv⟩

theorem lookup?_ne_none_of_mem {key : String} (h : (Value.str key, v) ∈ entries) :
    Value.lookup? entries key ≠ none := by
  intro hnone
  have hall := List.find?_eq_none.mp (Option.map_eq_none_iff.mp hnone)
  exact hall _ h (Value.same_str_iff.mpr rfl)

/-! ## Forms -/

inductive Form where
  | typeNames
  | text
  | indent
  deriving DecidableEq, Repr

namespace Form

/-- The values that an option of this form may be given: null, a text or a row of texts; a text; an
integer that is not negative. -/
inductive Admits : Form → Value → Prop where
  | none : Admits .typeNames .null
  | one (name : String) : Admits .typeNames (.str name)
  | list (names : List String) : Admits .typeNames (.list (names.map .str))
  | tuple (names : List String) : Admits .typeNames (.tuple (names.map .str))
  | text (s : String) : Admits .text (.str s)
  | indent {n : Int} (nonneg : 0 ≤ n) : Admits .indent (.int n)

/-- A value as settings hold it: type names are held as a tuple. -/
def held : Form → Value → Value
  | .typeNames, .null => .tuple []
  | .typeNames, .str name => .tuple [.str name]
  | .typeNames, .list names => .tuple names
  | _, v => v

/-- What is reported of a value that is not admitted. -/
def refusal (option : String) (v : Value) : Form → Error
  | .typeNames => .optionNotTypeNames option v
  | .text => .optionNotText option v
  | .indent => .optionNotIndent option v

/-- What is held is admitted again. -/
theorem Admits.held {f : Form} (h : f.Admits v) : f.Admits (f.held v) := by
  cases h with
  | none => exact .tuple []
  | one name => exact .tuple [name]
  | list names => exact .tuple names
  | tuple names => exact .tuple names
  | text s => exact .text s
  | indent nonneg => exact .indent nonneg

end Form

/-! ## One option -/

/-- The value of an option. -/
def value (s : Settings) (option : String) : Value := (s.items.lookup option).getD .null

/-- The options with their forms, in the order in which they are looked at. -/
def options : List (String × Form) :=
  [("unsigned_elem_types", .typeNames), ("store_prefix", .text), ("unsigned_marker", .text),
   ("object_suffix", .text), ("absent", .text), ("base_indent", .indent), ("indent_step", .indent)]

/-- The option has no value or one that its form admits. -/
def Admitted (entries : List (Value × Value)) (o : String × Form) : Prop :=
  ∀ v, Value.lookup? entries o.1 = some v → o.2.Admits v

/-- The value that settings have for the option: the one that is given, as it is held, or the
standard one. -/
def taken (entries : List (Value × Value)) (o : String × Form) : Value :=
  match Value.lookup? entries o.1 with
  | some v => o.2.held v
  | none => ({} : Settings).value o.1

/-- What is reported of an option with a value that is not admitted. -/
def report (entries : List (Value × Value)) (o : String × Form) : Error :=
  o.2.refusal o.1 (Value.lookup entries o.1)

/-- A reader gives what is admitted, as it is held, and refuses the rest. -/
structure Reads (f : Form) {α : Type} (read : String → Value → Except Error α)
    (hold : α → Value) : Prop where
  gives : ∀ {v : Value} (option : String), f.Admits v →
    ∃ x, read option v = .ok x ∧ hold x = f.held v
  refuses : ∀ {v : Value} (option : String), ¬ f.Admits v →
    read option v = .error (f.refusal option v)
  hold_inj : Function.Injective hold

theorem map_str_inj : Function.Injective (List.map Value.str) :=
  List.map_injective_iff.mpr fun _ _ => Value.str.inj

theorem mapM_text?_eq_some_iff {items : List Value} {names : List String} :
    items.mapM Value.text? = some names ↔ items = names.map .str := by
  induction items generalizing names with
  | nil => cases names <;> simp
  | cons item items ih =>
      rw [List.mapM_cons]
      simp only [Option.bind_eq_bind, Option.bind_eq_some_iff, Value.text?_eq_some_iff, ih,
        Option.pure_def, Option.some.injEq]
      constructor
      · rintro ⟨name, rfl, names, rfl, rfl⟩
        rfl
      · intro h
        cases names with
        | nil => cases h
        | cons name names =>
            cases h
            exact ⟨name, rfl, names, rfl, rfl⟩

theorem texts?_eq_some_iff {names : List String} : texts? v = some names ↔
    v = .list (names.map .str) ∨ v = .tuple (names.map .str) := by
  cases v <;> simp [texts?, mapM_text?_eq_some_iff]

theorem reads_typeNames :
    Reads .typeNames readTypeNames fun names => .tuple (names.map .str) where
  gives option h := by
    cases h with
    | none => exact ⟨[], rfl, rfl⟩
    | one name => exact ⟨[name], rfl, rfl⟩
    | list names =>
        refine ⟨names, ?_, rfl⟩
        unfold readTypeNames
        simp only [texts?_eq_some_iff.mpr (Or.inl rfl)]
        rfl
    | tuple names =>
        refine ⟨names, ?_, rfl⟩
        unfold readTypeNames
        simp only [texts?_eq_some_iff.mpr (Or.inr rfl)]
        rfl
  refuses option h := by
    unfold readTypeNames
    split
    · exact absurd .none h
    · exact absurd (.one _) h
    · split
      · rename_i names hnames
        rcases texts?_eq_some_iff.mp hnames with rfl | rfl
        · exact absurd (.list names) h
        · exact absurd (.tuple names) h
      · rfl
  hold_inj _ _ h := map_str_inj (Value.tuple.inj h)

theorem reads_text : Reads .text readText .str where
  gives option h := by
    cases h with
    | text s => exact ⟨s, rfl, rfl⟩
  refuses option h := by
    unfold readText
    split
    · exact absurd (.text _) h
    · rfl
  hold_inj _ _ := Value.str.inj

theorem reads_indent : Reads .indent readIndent .int where
  gives option h := by
    cases h with
    | @indent n nonneg => exact ⟨n, if_neg (Int.not_lt.mpr nonneg), rfl⟩
  refuses option h := by
    unfold readIndent
    split
    · split
      · rfl
      · rename_i nonneg
        exact absurd (.indent (Int.not_lt.mp nonneg)) h
    · rfl
  hold_inj _ _ := Value.int.inj

section ReadOption

variable {α : Type} {f : Form} {read : String → Value → Except Error α} {hold : α → Value}
  {option : String} {standard x : α}

theorem Reads.option_eq_ok_iff (h : Reads f read hold)
    (hstandard : ({} : Settings).value option = hold standard) :
    readOption entries read option standard = .ok x ↔
      Admitted entries (option, f) ∧ hold x = taken entries (option, f) := by
  unfold readOption Admitted taken
  cases hlookup : Value.lookup? entries option with
  | none =>
      dsimp only
      rw [hstandard, h.hold_inj.eq_iff]
      constructor
      · intro hx
        exact ⟨nofun, (Except.ok.inj hx).symm⟩
      · rintro ⟨-, rfl⟩
        rfl
  | some v =>
      dsimp only
      constructor
      · intro hx
        by_cases hv : f.Admits v
        · obtain ⟨y, hy, heq⟩ := h.gives option hv
          cases hy.symm.trans hx
          exact ⟨fun w hw => Option.some.inj hw ▸ hv, heq⟩
        · rw [h.refuses option hv] at hx
          cases hx
      · rintro ⟨hv, hx⟩
        obtain ⟨y, hy, heq⟩ := h.gives option (hv v rfl)
        rw [h.hold_inj (hx.trans heq.symm), hy]

theorem Reads.exists_option_iff (h : Reads f read hold) :
    (∃ x, readOption entries read option standard = .ok x) ↔ Admitted entries (option, f) := by
  unfold readOption Admitted
  cases hlookup : Value.lookup? entries option with
  | none => exact ⟨fun _ => nofun, fun _ => ⟨standard, rfl⟩⟩
  | some v =>
      dsimp only
      constructor
      · rintro ⟨x, hx⟩ w hw
        cases hw
        by_contra hv
        rw [h.refuses option hv] at hx
        cases hx
      · intro hall
        obtain ⟨x, hx, -⟩ := h.gives option (hall v rfl)
        exact ⟨x, hx⟩

theorem Reads.option_eq_error_iff (h : Reads f read hold) :
    readOption entries read option standard = .error e ↔
      ¬ Admitted entries (option, f) ∧ e = report entries (option, f) := by
  unfold readOption Admitted report
  cases hlookup : Value.lookup? entries option with
  | none =>
      refine ⟨nofun, fun hv => absurd ?_ hv.1⟩
      exact nofun
  | some v =>
      rw [Manifest.lookup_of_lookup? hlookup]
      dsimp only
      by_cases hv : f.Admits v
      · obtain ⟨y, hy, -⟩ := h.gives option hv
        rw [hy]
        refine ⟨nofun, fun hno => absurd (fun w hw => ?_) hno.1⟩
        exact Option.some.inj hw ▸ hv
      · rw [h.refuses option hv]
        constructor
        · intro he
          exact ⟨fun hall => hv (hall v rfl), (Except.error.inj he).symm⟩
        · rintro ⟨-, rfl⟩
          rfl

end ReadOption

/-! ## The keys -/

/-- All keys are names of options. -/
def OptionKeys (entries : List (Value × Value)) : Prop :=
  ∀ field ∈ entries, ∃ name ∈ names, field.1 = .str name

/-- A key that is not text is among the refused ones, so they cannot be put in order. -/
theorem textKeys_otherKeys_of_not_text (names : List String)
    (h : ∃ field ∈ entries, field.1.text? = none) :
    textKeys (otherKeys names entries) = .error .keysNotText := by
  obtain ⟨field, hfield, htext⟩ := h
  have hno : ∀ s, field.1 ≠ .str s := fun s hs => by
    rw [Value.text?_eq_some_iff.mpr hs] at htext
    cases htext
  have hother : field.1 ∈ otherKeys names entries := by
    refine List.mem_filter.mpr ⟨List.mem_map_of_mem hfield, ?_⟩
    simp [Value.same_str_iff, hno]
  unfold textKeys
  refine bind_eq_error_iff.mpr (Or.inl (mapM_eq_error_of_mem hother ?_ fun other _ e he => ?_))
  · rw [htext]
    rfl
  · split at he
    · cases he
    · exact (Except.error.inj he).symm

/-- The keys that are no options, in ascending order. -/
def strangeOptions (entries : List (Value × Value)) : List String :=
  ((Manifest.keyTexts entries).filter (· ∉ names)).mergeSort (· ≤ ·)

theorem ofEntries_of_other {r : Except Error (List String)} (h : ¬ OptionKeys entries)
    (hkeys : textKeys (otherKeys names entries) = r) :
    ofEntries entries =
      r >>= fun other => .error (.unknownOptions other (names.mergeSort (· ≤ ·))) := by
  have hsome : (otherKeys names entries).isEmpty = false := by
    rw [List.isEmpty_eq_false_iff]
    exact mt Manifest.otherKeys_eq_nil_iff.mp h
  unfold ofEntries
  dsimp only
  rw [hsome, hkeys]
  cases r <;> rfl

/-- Keys that are not all text are not all options. -/
theorem not_optionKeys_of_not_text (h : ∃ field ∈ entries, field.1.text? = none) :
    ¬ OptionKeys entries := by
  intro hall
  obtain ⟨field, hfield, htext⟩ := h
  obtain ⟨name, -, hname⟩ := hall field hfield
  rw [hname] at htext
  cases htext

theorem not_textKeys_iff : ¬ Manifest.TextKeys entries ↔
    ∃ field ∈ entries, field.1.text? = none := by
  simp [Manifest.TextKeys, Option.eq_none_iff_forall_ne_some, Value.text?_eq_some_iff]

theorem ofEntries_of_not_text (h : ∃ field ∈ entries, field.1.text? = none) :
    ofEntries entries = .error .keysNotText := by
  rw [ofEntries_of_other (not_optionKeys_of_not_text h) (textKeys_otherKeys_of_not_text names h)]
  rfl

theorem ofEntries_of_strange (htext : Manifest.TextKeys entries) (h : ¬ OptionKeys entries) :
    ofEntries entries =
      .error (.unknownOptions (strangeOptions entries) (names.mergeSort (· ≤ ·))) := by
  have hkeys : textKeys (otherKeys names entries) = .ok (strangeOptions entries) := by
    rw [Manifest.otherKeys_of_textKeys names htext, Manifest.textKeys_map_str]
    rfl
  rw [ofEntries_of_other h hkeys]
  rfl

/-! ## All options -/

theorem forall_options_iff {P : String × Form → Prop} : (∀ o ∈ options, P o) ↔
    P ("unsigned_elem_types", .typeNames) ∧ P ("store_prefix", .text) ∧
      P ("unsigned_marker", .text) ∧ P ("object_suffix", .text) ∧ P ("absent", .text) ∧
        P ("base_indent", .indent) ∧ P ("indent_step", .indent) := by
  simp [options]

theorem ofEntries_eq_ok_iff_of_optionKeys (h : OptionKeys entries) : ofEntries entries = .ok s ↔
    ∀ o ∈ options, Admitted entries o ∧ s.value o.1 = taken entries o := by
  unfold ofEntries
  rw [Manifest.otherKeys_eq_nil_iff.mpr h, forall_options_iff]
  simp only [bind_eq_ok_iff, List.isEmpty_nil, if_true]
  constructor
  · rintro ⟨names, hnames, start, hstart, marker, hmarker, ending, hending, absent, habsent,
      base, hbase, step, hstep, hs⟩
    cases hs
    exact ⟨(reads_typeNames.option_eq_ok_iff rfl).mp hnames,
      (reads_text.option_eq_ok_iff rfl).mp hstart, (reads_text.option_eq_ok_iff rfl).mp hmarker,
      (reads_text.option_eq_ok_iff rfl).mp hending, (reads_text.option_eq_ok_iff rfl).mp habsent,
      (reads_indent.option_eq_ok_iff rfl).mp hbase, (reads_indent.option_eq_ok_iff rfl).mp hstep⟩
  · rintro ⟨hnames, hstart, hmarker, hending, habsent, hbase, hstep⟩
    exact ⟨s.unsignedElements, (reads_typeNames.option_eq_ok_iff rfl).mpr hnames,
      s.storePrefix, (reads_text.option_eq_ok_iff rfl).mpr hstart,
      s.unsignedMarker, (reads_text.option_eq_ok_iff rfl).mpr hmarker,
      s.objectSuffix, (reads_text.option_eq_ok_iff rfl).mpr hending,
      s.absent, (reads_text.option_eq_ok_iff rfl).mpr habsent,
      s.baseIndent, (reads_indent.option_eq_ok_iff rfl).mpr hbase,
      s.indentStep, (reads_indent.option_eq_ok_iff rfl).mpr hstep, rfl⟩

theorem ofEntries_eq_error_iff_of_optionKeys (h : OptionKeys entries) :
    ofEntries entries = .error e ↔
      FirstFault options (Admitted entries) (fun o e => e = report entries o) e := by
  unfold ofEntries
  rw [Manifest.otherKeys_eq_nil_iff.mpr h]
  simp only [List.isEmpty_nil, if_true, bind_eq_error_iff, options, firstFault_cons_iff,
    not_firstFault_nil, reads_typeNames.option_eq_error_iff, reads_text.option_eq_error_iff,
    reads_indent.option_eq_error_iff, pure, Except.pure, reduceCtorEq, and_false, exists_false,
    or_false, exists_and_right, reads_typeNames.exists_option_iff, reads_text.exists_option_iff,
    reads_indent.exists_option_iff]

/-- The keys are options and the values are admitted. -/
structure Acceptable (entries : List (Value × Value)) : Prop where
  keys : OptionKeys entries
  values : ∀ o ∈ options, Admitted entries o

/-- What is reported of entries: a key that is not text, or else the keys that are no options, or
else the first option with a value that is not admitted. -/
inductive Refused (entries : List (Value × Value)) : Error → Prop where
  | notText (h : ∃ field ∈ entries, field.1.text? = none) : Refused entries .keysNotText
  | strange (htext : Manifest.TextKeys entries) (h : ¬ OptionKeys entries) :
      Refused entries (.unknownOptions (strangeOptions entries) (names.mergeSort (· ≤ ·)))
  | value {e : Error} (h : OptionKeys entries)
      (hfirst : FirstFault options (Admitted entries) (fun o e => e = report entries o) e) :
      Refused entries e

theorem Refused.not_acceptable (h : Refused entries e) : ¬ Acceptable entries := by
  rintro ⟨hkeys, hvalues⟩
  cases h with
  | notText h => exact not_optionKeys_of_not_text h hkeys
  | strange _ h => exact h hkeys
  | value _ hfirst => exact hfirst.not_forall hvalues

theorem ofEntries_eq_ok_iff : ofEntries entries = .ok s ↔
    Acceptable entries ∧ ∀ o ∈ options, s.value o.1 = taken entries o := by
  by_cases hkeys : OptionKeys entries
  · rw [ofEntries_eq_ok_iff_of_optionKeys hkeys]
    constructor
    · intro h
      exact ⟨⟨hkeys, fun o ho => (h o ho).1⟩, fun o ho => (h o ho).2⟩
    · rintro ⟨⟨-, hvalues⟩, htaken⟩ o ho
      exact ⟨hvalues o ho, htaken o ho⟩
  · refine ⟨fun h => ?_, fun h => absurd h.1.keys hkeys⟩
    rw [ofEntries_of_other hkeys rfl] at h
    obtain ⟨_, -, h⟩ := bind_eq_ok_iff.mp h
    cases h

theorem ofEntries_eq_error_iff : ofEntries entries = .error e ↔ Refused entries e := by
  constructor
  · intro he
    by_cases htext : Manifest.TextKeys entries
    · by_cases hkeys : OptionKeys entries
      · exact .value hkeys ((ofEntries_eq_error_iff_of_optionKeys hkeys).mp he)
      · rw [ofEntries_of_strange htext hkeys] at he
        cases he
        exact .strange htext hkeys
    · have hno := not_textKeys_iff.mp htext
      rw [ofEntries_of_not_text hno] at he
      cases he
      exact .notText hno
  · intro he
    cases he with
    | notText h => exact ofEntries_of_not_text h
    | strange htext h => exact ofEntries_of_strange htext h
    | value h hfirst => exact (ofEntries_eq_error_iff_of_optionKeys h).mpr hfirst

theorem exists_ofEntries_iff : (∃ s, ofEntries entries = .ok s) ↔ Acceptable entries :=
  exists_eq_ok_iff_accepted (fun _ => ofEntries_eq_ok_iff) fun _ he =>
    (ofEntries_eq_error_iff.mp he).not_acceptable

/-! ## Values -/

theorem ofValue?_of_mapping (h : v.opened = .mapping entries) :
    ofValue? v = some <$> ofEntries entries := by
  unfold ofValue?
  rw [h]

theorem some_map_eq_ok_iff : some <$> ofEntries entries = .ok (some s) ↔
    ofEntries entries = .ok s := by
  cases ofEntries entries with
  | error e => exact ⟨nofun, nofun⟩
  | ok t =>
      constructor
      · intro ht
        exact congrArg Except.ok (Option.some.inj (Except.ok.inj ht))
      · intro ht
        exact congrArg (fun t => Except.ok (some t)) (Except.ok.inj ht)

theorem ofValue?_eq_ok_iff (h : v.opened = .mapping entries) :
    ofValue? v = .ok (some s) ↔ ofEntries entries = .ok s := by
  rw [ofValue?_of_mapping h, some_map_eq_ok_iff]

/-! ## Reading settings back -/

/-- The items of settings as the entries of a mapping. -/
def asEntries (s : Settings) : List (Value × Value) :=
  s.items.map fun item => (.str item.1, item.2)

/-- A mapping of some of the items of settings, among them all whose values are not standard. -/
structure PartOf (part : List (Value × Value)) (s : Settings) : Prop where
  fields : ∀ field ∈ part, field ∈ s.asEntries
  changed : ∀ field ∈ s.asEntries, field ∉ ({} : Settings).asEntries → field ∈ part

theorem mem_asEntries_iff {field : Value × Value} :
    field ∈ s.asEntries ↔ ∃ o ∈ options, field = (.str o.1, s.value o.1) := by
  have hsome : (∃ o ∈ options, field = (Value.str o.1, s.value o.1)) ↔
      ¬ ∀ o ∈ options, field ≠ (Value.str o.1, s.value o.1) := by
    simp
  rw [hsome, forall_options_iff]
  simp [asEntries, items, value, List.lookup]
  tauto

theorem value_of_mem {option : String} {w : Value} (h : (Value.str option, w) ∈ s.asEntries) :
    w = s.value option := by
  obtain ⟨o, -, heq⟩ := mem_asEntries_iff.mp h
  obtain ⟨hkey, hvalue⟩ := Prod.mk.inj heq
  rw [hvalue, Value.str.inj hkey]

theorem mem_names : ∀ o ∈ options, o.1 ∈ names := by
  decide

/-- What settings hold is held as it is. -/
theorem held_value : ∀ o ∈ options, o.2.held (s.value o.1) = s.value o.1 :=
  forall_options_iff.mpr ⟨rfl, rfl, rfl, rfl, rfl, rfl, rfl⟩

theorem admits_standard : ∀ o ∈ options, o.2.Admits (({} : Settings).value o.1) :=
  forall_options_iff.mpr ⟨.tuple ["size_t"], .text _, .text _, .text _, .text _,
    .indent (by decide), .indent (by decide)⟩

theorem admits_taken {o : String × Form} (ho : o ∈ options) (h : Admitted entries o) :
    o.2.Admits (taken entries o) := by
  unfold taken
  split
  · rename_i v hv
    exact (h v hv).held
  · exact admits_standard o ho

theorem admits_value (h : ofEntries entries = .ok s) : ∀ o ∈ options, o.2.Admits (s.value o.1) := by
  obtain ⟨hacceptable, htaken⟩ := ofEntries_eq_ok_iff.mp h
  intro o ho
  rw [htaken o ho]
  exact admits_taken ho (hacceptable.values o ho)

theorem PartOf.lookup?_eq {option : String} {w : Value} (h : PartOf part s)
    (hw : Value.lookup? part option = some w) : w = s.value option := by
  obtain ⟨field, hfield, hkey, rfl⟩ := mem_of_lookup? hw
  refine value_of_mem ?_
  rw [← hkey]
  exact h.fields field hfield

/-- An option that is left out has its standard value. -/
theorem PartOf.standard_of_lookup? {o : String × Form} (h : PartOf part s) (ho : o ∈ options)
    (hnone : Value.lookup? part o.1 = none) : s.value o.1 = ({} : Settings).value o.1 := by
  have hfield : (Value.str o.1, s.value o.1) ∈ s.asEntries := mem_asEntries_iff.mpr ⟨o, ho, rfl⟩
  have hout : (Value.str o.1, s.value o.1) ∉ part := fun hmem => by
    have hsome := lookup?_ne_none_of_mem hmem
    exact hsome hnone
  by_contra hne
  refine hout (h.changed _ hfield fun hstandard => ?_)
  exact hne (value_of_mem hstandard)

theorem PartOf.ofEntries_eq (h : PartOf part s) (hs : ∀ o ∈ options, o.2.Admits (s.value o.1)) :
    ofEntries part = .ok s := by
  refine ofEntries_eq_ok_iff.mpr ⟨⟨?_, ?_⟩, ?_⟩
  · intro field hfield
    obtain ⟨o, ho, rfl⟩ := mem_asEntries_iff.mp (h.fields field hfield)
    exact ⟨o.1, mem_names o ho, rfl⟩
  · intro o ho w hw
    rw [h.lookup?_eq hw]
    exact hs o ho
  · intro o ho
    unfold taken
    split
    · rename_i w hw
      rw [h.lookup?_eq hw, held_value o ho]
    · rename_i hnone
      exact h.standard_of_lookup? ho hnone

theorem partOf_asEntries (s : Settings) : PartOf s.asEntries s :=
  ⟨fun _ hfield => hfield, fun _ hfield _ => hfield⟩

/-- **Settings are what their options say, and are read back from what they hold.** A mapping is
accepted exactly if its keys are options and the values are admitted: texts for four of them,
integers that are not negative for the two indentations, and null, a text or a row of texts for
the type names. The settings then have for each option the value that is given, with type names as
a tuple, and the standard one for an option that is not given. They are read from their own items
without a change, and so from any part of these in which all options are that have another value
than the standard one. -/
theorem options_read_and_read_back (hv : v.opened = .mapping entries) :
    ((∃ s, ofValue? v = .ok (some s)) ↔ Acceptable entries) ∧
    (∀ s, ofValue? v = .ok (some s) → ∀ o ∈ options, s.value o.1 = taken entries o) ∧
    (∀ s, ofValue? v = .ok (some s) → ∀ part, PartOf part s →
      ofValue? (.mapping part) = .ok (some s)) ∧
    ∀ s, ofValue? v = .ok (some s) → ofValue? (.mapping s.asEntries) = .ok (some s) := by
  have hback : ∀ s, ofValue? v = .ok (some s) → ∀ part, PartOf part s →
      ofValue? (.mapping part) = .ok (some s) := by
    intro s hs part hpart
    have hadmits := admits_value ((ofValue?_eq_ok_iff hv).mp hs)
    exact (ofValue?_eq_ok_iff rfl).mpr (hpart.ofEntries_eq hadmits)
  refine ⟨?_, ?_, hback, fun s hs => hback s hs _ (partOf_asEntries s)⟩
  · simp only [ofValue?_eq_ok_iff hv]
    exact exists_ofEntries_iff
  · intro s hs
    exact (ofEntries_eq_ok_iff.mp ((ofValue?_eq_ok_iff hv).mp hs)).2

/-- A settings file with a single type name, as it may be written and as it is held. -/
def words (names : Value) : Value :=
  .mapping [(.str "unsigned_elem_types", names), (.str "base_indent", .int 4)]

/-- A type name that stands alone is read as a row of one, and read back from it. The options that
are left out have their standard values both times. -/
theorem words_read_back :
    ofValue? (words (.str "uword")) =
      .ok (some { baseIndent := 4, unsignedElements := ["uword"] }) ∧
    ofValue? (words (.tuple [.str "uword"])) =
      .ok (some { baseIndent := 4, unsignedElements := ["uword"] }) := by
  have hread : ofValue? (words (.str "uword")) =
      .ok (some { baseIndent := 4, unsignedElements := ["uword"] }) := by cbv
  obtain ⟨-, -, hback, -⟩ := options_read_and_read_back (v := words (.str "uword")) rfl
  refine ⟨hread, hback _ hread _ ⟨?_, ?_⟩⟩
  · simp [asEntries, items]
  · simp [asEntries, items]

end InputBindings.Settings
