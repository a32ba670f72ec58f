import InputBindings.Proofs.Manifest.Defects
import InputBindings.Proofs.Options
import InputBindings.Proofs.Writable

/-!
# What reading does not report

Reading a manifest or settings either succeeds or fails with a defect that is reported to the user,
but for two things. Keys that are not what they should be are put in order and named in the report,
and that fails where one of them is not text. A value that is not what it should be is shown in the
report, and that fails where it has no text, for an integer in it that has too many digits. The
first of these that is met, with all in order before it, is what reading fails with in a way that
is not reported; where the keys are text and the integers are short nothing goes unreported.

Main statement: `unreported_iff_stray`.
-/

namespace InputBindings

open Traversal

/-! ## Reports without a text -/

namespace Manifest

variable {catalog : Catalog} {manifest v : Value} {fields : List (Value × Value)} {e : Error}

theorem isReported_nameless : (Check.nameless v).isReported = false ↔ v.text = none := by
  unfold Check.nameless
  cases hgiven : v.isGiven with
  | false =>
      obtain ⟨s, hs⟩ := (Value.writable_of_not_given hgiven).exists_text
      simp [hs, Error.isReported, Error.kind]
  | true => cases v.text <;> simp [Error.isReported, Error.kind]

theorem isReported_flagNotTruth {name flag : String} :
    (Error.flagNotTruth name flag v).isReported = false ↔ v.literal = none := by
  cases h : v.literal <;> simp [Error.isReported, Error.kind, Error.showing, h]

theorem isReported_entryNotMapping :
    (Error.entryNotMapping v).isReported = false ↔ v.literal = none := by
  cases h : v.literal <;> simp [Error.isReported, Error.kind, Error.showing, h]

/-- Of the reports of checks those of the name and of the flags show a value. -/
theorem isReported_report {c : Check} : (c.report catalog fields).isReported = false ↔
    (c = .name ∧ (Value.lookup fields "name").text = none) ∨
      ∃ flag, c = .flag flag ∧ (Value.lookup fields flag).literal = none := by
  cases c with
  | name => simp [Check.report, isReported_nameless]
  | keys => simp [Check.report, Error.isReported, Error.kind]
  | type => simp [Check.report, Error.isReported, Error.kind]
  | flag flag => simp [Check.report, isReported_flagNotTruth]
  | known => simp [Check.report, Error.isReported, Error.kind]

/-! ## Entries -/

/-- What the fields of an entry fail with that is not reported, if all checks before it are
passed. -/
inductive FieldsStray (catalog : Catalog) (fields : List (Value × Value)) : Error → Prop where
  /-- What stands for the name has no text. -/
  | name (text : (Value.lookup fields "name").text = none) : FieldsStray catalog fields .noText
  /-- A key is not text. -/
  | keys (name : Check.name.Passes catalog fields)
      (key : ∃ field ∈ fields, field.1.text? = none) : FieldsStray catalog fields .keysNotText
  /-- What stands for a flag is no truth value and has no text. -/
  | flag {before after : List Check} {flag : String}
      (split : Check.order = before ++ .flag flag :: after)
      (passed : ∀ c ∈ before, c.Passes catalog fields)
      (text : (Value.lookup fields flag).literal = none) :
      FieldsStray catalog fields
        (.flagNotTruth (textAt fields "name") flag (Value.lookup fields flag))

theorem not_passes_name (h : (Value.lookup fields "name").text = none) :
    ¬ Check.name.Passes catalog fields := by
  rintro ⟨s, -, hs⟩
  rw [lookup_of_lookup? hs] at h
  cases h

theorem not_passes_flag {flag : String} (h : (Value.lookup fields flag).literal = none) :
    ¬ (Check.flag flag).Passes catalog fields := by
  intro hpasses
  cases hlookup : Value.lookup? fields flag with
  | none =>
      unfold Value.lookup at h
      rw [hlookup] at h
      cases h
  | some v =>
      obtain ⟨b, rfl⟩ := hpasses v hlookup
      rw [lookup_of_lookup? hlookup] at h
      cases h

theorem not_passes_keys (h : ∃ field ∈ fields, field.1.text? = none) :
    ¬ Check.keys.Passes catalog fields := by
  intro hall
  obtain ⟨field, hfield, htext⟩ := h
  obtain ⟨key, -, hkey⟩ := hall field hfield
  rw [hkey] at htext
  cases htext

theorem nameless_of_text (h : v.text = none) : Check.nameless v = .noText := by
  have hgiven : v.isGiven = true := by
    by_contra hnot
    have hwritable := Value.writable_of_not_given (Bool.eq_false_of_not_eq_true hnot)
    obtain ⟨s, hs⟩ := hwritable.exists_text
    cases h.symm.trans hs
  unfold Check.nameless
  rw [hgiven, h]

/-- A flag is looked at behind the keys. -/
theorem keys_mem_of_split {before after : List Check} {flag : String}
    (h : Check.order = before ++ .flag flag :: after) : Check.keys ∈ before := by
  match before with
  | [] => cases h
  | [_] => cases h
  | first :: second :: rest =>
      simp only [Check.order, List.cons_append, List.cons.injEq] at h
      exact h.2.1 ▸ List.mem_cons_of_mem first List.mem_cons_self

theorem checkKeys_of_not_text {name : String} (h : ∃ field ∈ fields, field.1.text? = none) :
    checkKeys name fields = .error .keysNotText := by
  have hfails := Settings.textKeys_otherKeys_of_not_text entryKeys h
  have hsome : (Settings.otherKeys entryKeys fields).isEmpty = false := by
    rw [List.isEmpty_eq_false_iff]
    intro hnil
    rw [hnil] at hfails
    cases hfails
  unfold checkKeys
  dsimp only
  rw [hsome, hfails]
  rfl

theorem readParameter_of_not_text (h : ∃ field ∈ fields, field.1.text? = none) :
    readParameter catalog fields = .error e ↔
      (¬ Check.name.Passes catalog fields ∧ e = Check.name.report catalog fields) ∨
        (Check.name.Passes catalog fields ∧ e = .keysNotText) := by
  unfold readParameter
  rw [(decides_readName catalog fields).bind_eq_error_iff, bind_of_error (checkKeys_of_not_text h)]
  simp [eq_comm]

theorem readParameter_unreported_iff :
    (readParameter catalog fields = .error e ∧ e.isReported = false) ↔
      FieldsStray catalog fields e := by
  constructor
  · rintro ⟨he, hreported⟩
    by_cases htext : TextKeys fields
    · rw [readParameter_eq_error_iff htext] at he
      obtain ⟨before, c, after, hsplit, hbefore, -, rfl⟩ := he
      rcases isReported_report.mp hreported with ⟨rfl, hname⟩ | ⟨flag, rfl, hflag⟩
      · rw [Check.report, nameless_of_text hname]
        exact .name hname
      · exact .flag hsplit hbefore hflag
    · have hno := Settings.not_textKeys_iff.mp htext
      rcases (readParameter_of_not_text hno).mp he with ⟨-, rfl⟩ | ⟨hname, rfl⟩
      · have hname := isReported_nameless.mp hreported
        rw [Check.report, nameless_of_text hname]
        exact .name hname
      · exact .keys hname hno
  · intro h
    cases h with
    | name text =>
      refine ⟨?_, rfl⟩
      by_cases htext : TextKeys fields
      · rw [readParameter_eq_error_iff htext]
        refine ⟨[], .name, _, rfl, List.forall_mem_nil _, not_passes_name text, ?_⟩
        exact (nameless_of_text text).symm
      · refine (readParameter_of_not_text (Settings.not_textKeys_iff.mp htext)).mpr (Or.inl ?_)
        exact ⟨not_passes_name text, (nameless_of_text text).symm⟩
    | keys name key =>
      exact ⟨(readParameter_of_not_text key).mpr (Or.inr ⟨name, rfl⟩), rfl⟩
    | flag split passed text =>
      refine ⟨?_, isReported_flagNotTruth.mpr text⟩
      have hkeys := passed _ (keys_mem_of_split split)
      have htext : TextKeys fields := by
        by_contra hno
        exact not_passes_keys (Settings.not_textKeys_iff.mp hno) hkeys
      rw [readParameter_eq_error_iff htext]
      exact ⟨_, _, _, split, passed, not_passes_flag text, rfl⟩

/-- What an entry fails with that is not reported. -/
inductive EntryStray (catalog : Catalog) (v : Value) : Error → Prop where
  /-- The entry is no mapping and has no text. -/
  | notMapping (h : ∀ fields, v.opened ≠ .mapping fields) (text : v.literal = none) :
      EntryStray catalog v (.entryNotMapping v)
  | fields {fields : List (Value × Value)} {e : Error} (h : v.opened = .mapping fields)
      (stray : FieldsStray catalog fields e) : EntryStray catalog v e

theorem readEntry_unreported_iff :
    (readEntry catalog v = .error e ∧ e.isReported = false) ↔ EntryStray catalog v e := by
  by_cases h : ∃ fields, v.opened = .mapping fields
  · obtain ⟨fields, h⟩ := h
    rw [readEntry_of_mapping h, readParameter_unreported_iff]
    constructor
    · exact .fields h
    · intro hstray
      cases hstray with
      | notMapping hno _ => exact absurd h (hno fields)
      | fields h' stray =>
          cases h.symm.trans h'
          exact stray
  · have hno : ∀ fields, v.opened ≠ .mapping fields := fun fields hv => h ⟨fields, hv⟩
    rw [readEntry_of_not_mapping hno]
    constructor
    · rintro ⟨he, hreported⟩
      cases he
      exact .notMapping hno (isReported_entryNotMapping.mp hreported)
    · intro hstray
      cases hstray with
      | notMapping _ text => exact ⟨rfl, isReported_entryNotMapping.mpr text⟩
      | fields h' _ => exact absurd h' (hno _)

/-! ## Programs -/

/-- What a program fails with that is not reported: its key has no text, or the first entry that
is not read strays. -/
inductive ProgramStray (catalog : Catalog) (entry : Value × Value) : Error → Prop where
  | key (text : entry.1.text = none) : ProgramStray catalog entry .noText
  | item {name : String} {before after : List Value} {item : Value} {e : Error}
      (key : entry.1.text = some name) (h : entry.2.opened = .list (before ++ item :: after))
      (read : ∀ b ∈ before, ∃ p, readEntry catalog b = .ok p)
      (stray : EntryStray catalog item e) : ProgramStray catalog entry e

theorem written_of_text_eq_none {key : Value} (h : key.text = none) :
    key.written = .error .noText := by
  unfold Value.written
  rw [h]
  rfl

theorem readProgram_of_textless {key : Value} (h : key.text = none) :
    readProgram catalog key v = .error .noText := by
  unfold readProgram
  split
  · exact bind_of_error (written_of_text_eq_none h)
  · exact bind_of_error (written_of_text_eq_none h)

theorem readProgram_of_text {key : Value} {name : String} (h : key.text = some name) :
    readProgram catalog key v = readProgram catalog (.str name) v := by
  have hwritten : key.written = (Value.str name).written := by
    unfold Value.written
    rw [h]
    rfl
  unfold readProgram
  rw [hwritten]

theorem readProgram_unreported_iff {entry : Value × Value} :
    (readProgram catalog entry.1 entry.2 = .error e ∧ e.isReported = false) ↔
      ProgramStray catalog entry e := by
  constructor
  · rintro ⟨he, hreported⟩
    cases htext : entry.1.text with
    | none =>
        rw [readProgram_of_textless htext] at he
        cases he
        exact .key htext
    | some name =>
        rw [readProgram_of_text htext] at he
        by_cases h : ∃ items, entry.2.opened = .list items
        · obtain ⟨items, h⟩ := h
          rw [readProgram_of_list h, bind_eq_error_iff] at he
          rcases he with hitems | ⟨params, -, hagain⟩
          · obtain ⟨before, item, after, rfl, hbefore, hitem⟩ := mapM_eq_error_iff.mp hitems
            exact .item htext h hbefore (readEntry_unreported_iff.mp ⟨hitem, hreported⟩)
          · obtain ⟨again, -, rfl⟩ := Program.ofParams_eq_error_iff.mp hagain
            cases hreported
        · rw [readProgram_of_not_list fun items hv => h ⟨items, hv⟩] at he
          cases he
          cases hreported
  · intro hstray
    cases hstray with
    | key text => exact ⟨readProgram_of_textless text, rfl⟩
    | item key h read stray =>
        obtain ⟨hitem, hreported⟩ := readEntry_unreported_iff.mpr stray
        refine ⟨?_, hreported⟩
        rw [readProgram_of_text key, readProgram_of_list h]
        exact bind_of_error (mapM_eq_error_iff.mpr ⟨_, _, _, rfl, read, hitem⟩)

/-! ## Manifests -/

/-- What a manifest fails with that is not reported: the first program that is not read strays. -/
def Stray (catalog : Catalog) (manifest : Value) (e : Error) : Prop :=
  ∃ before entry after, HasPrograms manifest (before ++ entry :: after) ∧
    (∀ b ∈ before, ∃ p, readProgram catalog b.1 b.2 = .ok p) ∧ ProgramStray catalog entry e

theorem programs_unreported_iff :
    (programs catalog manifest = .error e ∧ e.isReported = false) ↔ Stray catalog manifest e := by
  by_cases h : ∃ entries, HasPrograms manifest entries
  · obtain ⟨entries, h⟩ := h
    rw [programs_of_hasPrograms h, mapM_eq_error_iff]
    constructor
    · rintro ⟨⟨before, entry, after, rfl, hbefore, he⟩, hreported⟩
      exact ⟨before, entry, after, h, hbefore, readProgram_unreported_iff.mp ⟨he, hreported⟩⟩
    · rintro ⟨before, entry, after, h', hbefore, hstray⟩
      cases h.unique h'
      obtain ⟨he, hreported⟩ := readProgram_unreported_iff.mpr hstray
      exact ⟨⟨before, entry, after, rfl, hbefore, he⟩, hreported⟩
  · have hnone : ∀ entries, ¬ HasPrograms manifest entries := fun entries hentries =>
      h ⟨entries, hentries⟩
    rw [programs_of_not_hasPrograms hnone]
    constructor
    · rintro ⟨he, hreported⟩
      cases he
      cases hreported
    · rintro ⟨before, entry, after, h', -⟩
      exact absurd h' (hnone _)

end Manifest

/-! ## Settings -/

namespace Settings

variable {entries : List (Value × Value)} {v : Value} {e : Error}

theorem isReported_report {o : String × Form} : (report entries o).isReported = false ↔
    (Value.lookup entries o.1).literal = none := by
  obtain ⟨option, f⟩ := o
  unfold report Form.refusal
  cases f <;> cases h : (Value.lookup entries option).literal <;>
    simp [Error.isReported, Error.kind, Error.showing, h]

/-- What settings fail with that is not reported: a key is not text, or the first option whose value
is not admitted has one without a text. -/
inductive Stray (entries : List (Value × Value)) : Error → Prop where
  | key (h : ∃ field ∈ entries, field.1.text? = none) : Stray entries .keysNotText
  | value {before after : List (String × Form)} {o : String × Form} (keys : OptionKeys entries)
      (split : options = before ++ o :: after) (admitted : ∀ b ∈ before, Admitted entries b)
      (refused : ¬ Admitted entries o) (text : (Value.lookup entries o.1).literal = none) :
      Stray entries (report entries o)

theorem ofEntries_unreported_iff :
    (ofEntries entries = .error e ∧ e.isReported = false) ↔ Stray entries e := by
  rw [ofEntries_eq_error_iff]
  constructor
  · rintro ⟨he, hreported⟩
    cases he with
    | notText h => exact .key h
    | strange => cases hreported
    | value h hfirst =>
        obtain ⟨before, o, after, hsplit, hbefore, hrefused, rfl⟩ := hfirst
        exact .value h hsplit hbefore hrefused (isReported_report.mp hreported)
  · intro h
    cases h with
    | key h => exact ⟨.notText h, rfl⟩
    | value keys split admitted refused text =>
        refine ⟨.value keys ⟨_, _, _, split, admitted, refused, rfl⟩, ?_⟩
        exact isReported_report.mpr text

theorem ofValue?_unreported_iff : (ofValue? v = .error e ∧ e.isReported = false) ↔
    ∃ entries, v.opened = .mapping entries ∧ Stray entries e := by
  by_cases h : ∃ entries, v.opened = .mapping entries
  · obtain ⟨entries, h⟩ := h
    have hmap : some <$> ofEntries entries = .error e ↔ ofEntries entries = .error e :=
      map_eq_error_iff
    rw [ofValue?_of_mapping h, hmap, ofEntries_unreported_iff]
    constructor
    · exact fun hstray => ⟨entries, h, hstray⟩
    · rintro ⟨entries', h', hstray⟩
      cases h.symm.trans h'
      exact hstray
  · have hno : ∀ entries, v.opened ≠ .mapping entries := fun entries hv => h ⟨entries, hv⟩
    refine ⟨?_, fun ⟨entries, hv, _⟩ => absurd hv (hno entries)⟩
    rintro ⟨he, -⟩
    unfold ofValue? at he
    split at he
    · cases he
    · rename_i entries hv
      exact absurd hv (hno entries)
    · cases he

end Settings

/-! ## What is reported -/

theorem Value.writable_lookup {fields : List (Value × Value)} (h : WritableEntries fields)
    (key : String) : (lookup fields key).Writable := by
  unfold lookup
  cases hlookup : lookup? fields key with
  | none => trivial
  | some v =>
      obtain ⟨field, hfield, -, rfl⟩ := Settings.mem_of_lookup? hlookup
      exact (writable_of_mem_entries h hfield).2

namespace Manifest

variable {catalog : Catalog} {manifest v : Value} {e : Error}

theorem EntryStray.not_writable (h : EntryStray catalog v e) (htext : TextEntry v) :
    ¬ v.Writable := by
  intro hwritable
  cases h with
  | notMapping _ text => exact hwritable.literal_ne_none text
  | fields h stray =>
      have hfields := hwritable.entries h
      cases stray with
      | name text => exact (Value.writable_lookup hfields "name").text_ne_none text
      | keys _ key => exact Settings.not_textKeys_iff.mpr key (htext _ h)
      | flag _ _ text => exact (Value.writable_lookup hfields _).literal_ne_none text

theorem Stray.not_writable (h : Stray catalog manifest e)
    (htext : ∀ entries, HasPrograms manifest entries → ∀ entry ∈ entries, TextProgram entry.2) :
    ¬ manifest.Writable := by
  intro hwritable
  obtain ⟨before, entry, after, hprograms, -, hstray⟩ := h
  have hentry : entry ∈ before ++ entry :: after :=
    List.mem_append_right before List.mem_cons_self
  obtain ⟨fields, v, hmanifest, hlookup, hv⟩ := id hprograms
  have hv' : v.Writable := by
    rw [← lookup_of_lookup? hlookup]
    exact Value.writable_lookup (hwritable.entries hmanifest) "programs"
  obtain ⟨hkey, hvalue⟩ := Value.writable_of_mem_entries (hv'.entries hv) hentry
  cases hstray with
  | key text => exact hkey.text_ne_none text
  | @item name before' after' item e key h read stray =>
      have hitem : item ∈ before' ++ item :: after' :=
        List.mem_append_right before' List.mem_cons_self
      exact stray.not_writable (htext _ hprograms _ hentry _ h item hitem)
        (Value.writable_of_mem_items (hvalue.items h) hitem)

end Manifest

theorem Settings.Stray.not_writable {entries : List (Value × Value)} {e : Error}
    (h : Stray entries e) (htext : Manifest.TextKeys entries) :
    ¬ Value.WritableEntries entries := by
  intro hwritable
  cases h with
  | key h => exact not_textKeys_iff.mpr h htext
  | value _ _ _ _ text => exact (Value.writable_lookup hwritable _).literal_ne_none text

/-- **What reading fails with is reported, but for keys and texts.** Whatever the value, a manifest
fails in a way that is not reported exactly if the first program that is not read strays: its key
has no text, or its first entry that is not read has a key that is not text, or shows a value that
has no text where a mapping, a name or a flag should be. Settings do so exactly if a key is not
text, or the first option whose value is not admitted has one without a text. So all that a
manifest or settings fail with is reported if the keys of the entries and of the settings are text
and all integers are short enough to be written. That a value can be too deep to be shown is left
out. -/
theorem unreported_iff_stray (catalog : Catalog) (manifest v : Value) :
    (∀ e, (Manifest.programs catalog manifest = .error e ∧ e.isReported = false) ↔
      Manifest.Stray catalog manifest e) ∧
    (∀ e, (Settings.ofValue? v = .error e ∧ e.isReported = false) ↔
      ∃ entries, v.opened = .mapping entries ∧ Settings.Stray entries e) ∧
    (manifest.Writable → (∀ entries, Manifest.HasPrograms manifest entries →
        ∀ entry ∈ entries, Manifest.TextProgram entry.2) →
      ∀ e, Manifest.programs catalog manifest = .error e → e.isReported = true) ∧
    (v.Writable → Manifest.TextEntry v →
      ∀ e, Settings.ofValue? v = .error e → e.isReported = true) := by
  refine ⟨fun _ => Manifest.programs_unreported_iff, fun _ => Settings.ofValue?_unreported_iff,
    ?_, ?_⟩
  · intro hwritable htext e he
    by_contra hreported
    have hstray := Manifest.programs_unreported_iff.mp ⟨he, Bool.eq_false_of_not_eq_true hreported⟩
    exact hstray.not_writable htext hwritable
  · intro hwritable htext e he
    by_contra hreported
    obtain ⟨entries, hv, hstray⟩ :=
      Settings.ofValue?_unreported_iff.mp ⟨he, Bool.eq_false_of_not_eq_true hreported⟩
    exact hstray.not_writable (htext entries hv) (hwritable.entries hv)

/-- An entry with a further key. -/
def keyedEntry (key : Value) : Value :=
  .mapping [(.str "name", .str "a"), (.str "type", .str "int"), (key, .str "x")]

/-- A key that is misspelled is reported, in an entry as in settings. -/
theorem misspelled_reported :
    Manifest.programs Catalog.standard
      (Manifest.ofPrograms [(.str "fit", .list [keyedEntry (.str "requird")])]) =
        .error (.unknownKeys "a" ["requird"]) ∧
    (∀ e, Manifest.programs Catalog.standard
      (Manifest.ofPrograms [(.str "fit", .list [keyedEntry (.str "requird")])]) = .error e →
      e.isReported = true) ∧
    ∀ e, Settings.ofValue? (.mapping [(.str "absnt", .str "x")]) = .error e →
      e.isReported = true := by
  obtain ⟨-, -, hmanifest, hsettings⟩ := unreported_iff_stray Catalog.standard
    (Manifest.ofPrograms [(.str "fit", .list [keyedEntry (.str "requird")])])
    (.mapping [(.str "absnt", .str "x")])
  refine ⟨by cbv, hmanifest ?_ ?_, hsettings ?_ ?_⟩
  · simp [Manifest.ofPrograms, keyedEntry, Value.Writable, Value.WritableItems,
      Value.WritableEntries]
  · intro entries hentries
    rw [Manifest.hasPrograms_ofPrograms_iff.mp hentries]
    refine List.forall_mem_singleton.mpr (Manifest.textProgram_list.mpr ?_)
    refine List.forall_mem_singleton.mpr (Manifest.textEntry_mapping.mpr ?_)
    simp [Manifest.TextKeys]
  · simp [Value.Writable, Value.WritableEntries]
  · exact Manifest.textEntry_mapping.mpr (by simp [Manifest.TextKeys])

/-- The number 1 is a key that no entry and no settings have, and neither reports it. -/
theorem number_as_key_unreported :
    Manifest.programs Catalog.standard
      (Manifest.ofPrograms [(.str "fit", .list [keyedEntry (.int 1)])]) = .error .keysNotText ∧
    Settings.ofValue? (.mapping [(.int 1, .str "x")]) = .error .keysNotText ∧
    Error.keysNotText.isReported = false := by
  refine ⟨by cbv, by cbv, rfl⟩

end InputBindings
