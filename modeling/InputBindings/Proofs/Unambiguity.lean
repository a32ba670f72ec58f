import InputBindings.Proofs.Batches
import InputBindings.Proofs.Characters
import InputBindings.Proofs.Emission
import InputBindings.Proofs.Identifier.Layout

/-!
# Generated code is unambiguous

The code of some programs consists of closed lines: a header for each program,
the lines of its calls, and an empty line between two programs. No other line is
empty, so the empty lines tell the programs apart. A call starts as every accessor
does and a guard does not, so the lines of a program tell its calls apart. And a
call tells its accessor and its name, which hold no bracket and no quote; what
stands between them is the target type, whatever is in it.

Main statement: `stores_eq_of_render_eq`.
-/

namespace InputBindings

open Text Traversal

/-! ## Lines -/

theorem closedLines_cons (l : String) (ls : List String) :
    closedLines (l :: ls) = l ++ "\n" ++ closedLines ls := by
  rw [closedLines, List.map_cons, String.join_cons]
  rfl

theorem closedLines_cons_ne_nil (l : String) (ls : List String) :
    closedLines (l :: ls) ≠ closedLines [] := by
  intro h
  have hempty : l ++ "\n" ++ closedLines ls = "" := (closedLines_cons l ls).symm.trans h
  simp at hempty

/-- What stands in front of the first mark ends there. -/
theorem append_mark_inj {mark : Char} {xs ys rest more : List Char} (hxs : mark ∉ xs)
    (hys : mark ∉ ys) (h : xs ++ mark :: rest = ys ++ mark :: more) : xs = ys ∧ rest = more := by
  induction xs generalizing ys with
  | nil =>
      cases ys with
      | nil => exact ⟨rfl, (List.cons.inj h).2⟩
      | cons y ys => exact absurd ((List.cons.inj h).1 ▸ List.mem_cons_self) hys
  | cons x xs ih =>
      cases ys with
      | nil => exact absurd ((List.cons.inj h).1 ▸ List.mem_cons_self) hxs
      | cons y ys =>
          obtain ⟨hxy, htail⟩ := List.cons.inj h
          obtain ⟨hxs', hrest⟩ := ih (fun hmem => hxs (List.mem_cons_of_mem x hmem))
            (fun hmem => hys (List.mem_cons_of_mem y hmem)) htail
          exact ⟨by rw [hxy, hxs'], hrest⟩

/-- Closed lines without line feeds in them can be told apart. -/
theorem closedLines_inj {ls ms : List String} (hls : ∀ l ∈ ls, '\n' ∉ l.toList)
    (hms : ∀ m ∈ ms, '\n' ∉ m.toList) (h : closedLines ls = closedLines ms) : ls = ms := by
  induction ls generalizing ms with
  | nil =>
      cases ms with
      | nil => rfl
      | cons m ms => exact absurd h.symm (closedLines_cons_ne_nil m ms)
  | cons l ls ih =>
      cases ms with
      | nil => exact absurd h (closedLines_cons_ne_nil l ls)
      | cons m ms =>
          obtain ⟨hl, hls⟩ := List.forall_mem_cons.mp hls
          obtain ⟨hm, hms⟩ := List.forall_mem_cons.mp hms
          have hfeed : ∀ (k : String) (ks : List String), (closedLines (k :: ks)).toList =
              k.toList ++ '\n' :: (closedLines ks).toList := by
            intro k ks
            rw [closedLines_cons, String.toList_append, String.toList_append, List.append_assoc]
            rfl
          have hchars := congrArg String.toList h
          rw [hfeed, hfeed] at hchars
          obtain ⟨hline, hrest⟩ := append_mark_inj hl hm hchars
          rw [String.toList_inj.mp hline, ih hls hms (String.toList_inj.mp hrest)]

/-- Pieces of text with a line feed between them have an empty line between them. -/
theorem intercalate_closedLines (pieces : List (List String)) :
    "\n".intercalate (pieces.map closedLines) = closedLines ([""].intercalate pieces) := by
  induction pieces with
  | nil => rfl
  | cons piece rest ih =>
      cases rest with
      | nil => rw [List.map_singleton, String.intercalate_singleton, List.intercalate_singleton]
      | cons next rest =>
          rw [List.map_cons] at ih
          rw [List.map_cons, List.map_cons, String.intercalate_cons_cons, ih,
            List.intercalate_cons_cons, Parameter.closedLines_append,
            Parameter.closedLines_append]
          rfl

/-- A line of the code that separates nothing: it is not empty, and it is a line. -/
def Solid (line : String) : Prop := line ≠ "" ∧ '\n' ∉ line.toList

/-! ## Calls as lines -/

namespace StoreCall

/-- The parts of a call can be told apart: the accessor starts as every accessor
does, it and the name hold name characters only, and the target type is a line. -/
structure Legible (c : StoreCall) : Prop where
  accessor : ∃ rest, c.accessor = "Store" ++ rest
  accessor_chars : ∀ ch ∈ c.accessor.toList, isNameChar ch = true
  name_chars : ∀ ch ∈ c.name.toList, isNameChar ch = true
  target : '\n' ∉ c.target.toList

variable {c d : StoreCall}

theorem Legible.not_mem_accessor (h : c.Legible) {ch : Char} (hch : isNameChar ch = false) :
    ch ∉ c.accessor.toList := by
  intro hmem
  exact Bool.false_ne_true (hch.symm.trans (h.accessor_chars ch hmem))

theorem Legible.not_mem_name (h : c.Legible) {ch : Char} (hch : isNameChar ch = false) :
    ch ∉ c.name.toList := by
  intro hmem
  exact Bool.false_ne_true (hch.symm.trans (h.name_chars ch hmem))

theorem toList_text (c : StoreCall) : c.text.toList = c.accessor.toList ++ '(' :: '"' ::
    (c.name.toList ++ '"' :: (", convert(".toList ++ (c.target.toList ++
      (", ".toList ++ (c.name.toList ++ "))".toList))))) := by
  simp [text]

/-- The accessor of a legible call ends at the first bracket and its name at the
second quote; the target type is what is left in the middle. -/
theorem text_inj (hc : c.Legible) (hd : d.Legible) (h : c.text = d.text) : c = d := by
  have hchars := congrArg String.toList h
  rw [toList_text, toList_text] at hchars
  obtain ⟨haccessor, hquoted⟩ := append_mark_inj (hc.not_mem_accessor (by decide))
    (hd.not_mem_accessor (by decide)) hchars
  obtain ⟨hname, hconvert⟩ := append_mark_inj (hc.not_mem_name (by decide))
    (hd.not_mem_name (by decide)) (List.cons.inj hquoted).2
  have htarget : c.target.toList = d.target.toList := by
    have hmiddle := List.append_cancel_left hconvert
    rw [hname] at hmiddle
    exact List.append_cancel_right hmiddle
  cases c
  cases d
  rw [mk.injEq]
  exact ⟨String.toList_inj.mp haccessor, String.toList_inj.mp hname, String.toList_inj.mp htarget⟩

theorem text_ne_guard (hc : c.Legible) (d : StoreCall) :
    "  " ++ c.text ≠ "  " ++ d.guard {} := by
  intro h
  obtain ⟨rest, haccessor⟩ := hc.accessor
  have hchars := congrArg String.toList h
  simp [text, guard, haccessor] at hchars

theorem feed_not_mem_text (h : c.Legible) : '\n' ∉ c.text.toList := by
  have haccessor : '\n' ∉ c.accessor.toList := h.not_mem_accessor (by decide)
  have hname : '\n' ∉ c.name.toList := h.not_mem_name (by decide)
  simp [text, haccessor, hname, h.target]

theorem feed_not_mem_guard (h : c.Legible) : '\n' ∉ (c.guard {}).toList := by
  have hname : '\n' ∉ c.name.toList := h.not_mem_name (by decide)
  simp [guard, hname]

end StoreCall

/-- A call and whether it stands without a guard. -/
structure StoreEntry where
  call : StoreCall
  required : Bool
  deriving DecidableEq, Repr

namespace StoreEntry

/-- The lines of a call under the default settings. -/
def lines (e : StoreEntry) : List String :=
  if e.required then ["  " ++ e.call.text]
  else ["  " ++ e.call.guard {}, "    " ++ e.call.text, "  " ++ StoreCall.guardEnd]

/-- The lines of a call tell where they end and which call it is. -/
theorem lines_append_inj {e f : StoreEntry} {rest more : List String} (he : e.call.Legible)
    (hf : f.call.Legible) (h : e.lines ++ rest = f.lines ++ more) : e = f ∧ rest = more := by
  obtain ⟨c, required⟩ := e
  obtain ⟨d, required'⟩ := f
  cases required with
  | true =>
      cases required' with
      | true =>
          obtain ⟨hline, hrest⟩ := List.cons.inj h
          have hcall : c = d := StoreCall.text_inj he hf ((String.append_right_inj _).mp hline)
          exact ⟨by rw [hcall], hrest⟩
      | false => exact absurd (List.cons.inj h).1 (StoreCall.text_ne_guard he d)
  | false =>
      cases required' with
      | true => exact absurd (List.cons.inj h).1.symm (StoreCall.text_ne_guard hf c)
      | false =>
          obtain ⟨hline, hrest⟩ := List.cons.inj (List.cons.inj h).2
          have hcall : c = d := StoreCall.text_inj he hf ((String.append_right_inj _).mp hline)
          exact ⟨by rw [hcall], (List.cons.inj hrest).2⟩

theorem flatMap_lines_inj {es fs : List StoreEntry} (hes : ∀ e ∈ es, e.call.Legible)
    (hfs : ∀ f ∈ fs, f.call.Legible) (h : es.flatMap lines = fs.flatMap lines) : es = fs := by
  have hne : ∀ (e : StoreEntry) (rest : List String), e.lines ++ rest ≠ [] := by
    intro e rest
    unfold lines
    split <;> exact List.cons_ne_nil _ _
  induction es generalizing fs with
  | nil =>
      cases fs with
      | nil => rfl
      | cons f fs => exact absurd h.symm (hne f _)
  | cons e es ih =>
      cases fs with
      | nil => exact absurd h (hne e _)
      | cons f fs =>
          obtain ⟨he, hes⟩ := List.forall_mem_cons.mp hes
          obtain ⟨hf, hfs⟩ := List.forall_mem_cons.mp hfs
          rw [List.flatMap_cons, List.flatMap_cons] at h
          obtain ⟨hef, hrest⟩ := lines_append_inj he hf h
          rw [hef, ih hes hfs hrest]

theorem solid_of_mem_lines {e : StoreEntry} (he : e.call.Legible) : ∀ l ∈ e.lines, Solid l := by
  have hblanks : ∀ (k : Nat) (text : String), '\n' ∉ text.toList →
      Solid (String.ofList (List.replicate (k + 1) ' ') ++ text) := by
    intro k text htext
    refine ⟨?_, ?_⟩
    · simp
    · simp [htext]
  intro l hl
  unfold lines at hl
  split at hl
  · rw [List.mem_singleton.mp hl]
    exact hblanks 1 _ (StoreCall.feed_not_mem_text he)
  · simp only [List.mem_cons, List.not_mem_nil, or_false] at hl
    rcases hl with rfl | rfl | rfl
    · exact hblanks 1 _ (StoreCall.feed_not_mem_guard he)
    · exact hblanks 3 _ (StoreCall.feed_not_mem_text he)
    · exact hblanks 1 _ (by decide)

end StoreEntry

/-! ## Programs as lines -/

/-- What the code of a program says. -/
@[ext]
structure ProgramOutline where
  name : String
  entries : List StoreEntry
  deriving DecidableEq, Repr

namespace ProgramOutline

def lines (o : ProgramOutline) : List String :=
  ("# " ++ o.name) :: o.entries.flatMap StoreEntry.lines

structure Legible (o : ProgramOutline) : Prop where
  name : '\n' ∉ o.name.toList
  calls : ∀ e ∈ o.entries, e.call.Legible

theorem lines_inj {o o' : ProgramOutline} (ho : o.Legible) (ho' : o'.Legible)
    (h : o.lines = o'.lines) : o = o' := by
  obtain ⟨hheader, hcalls⟩ := List.cons.inj h
  have hname : o.name = o'.name := (String.append_right_inj _).mp hheader
  have hentries := StoreEntry.flatMap_lines_inj ho.calls ho'.calls hcalls
  exact ProgramOutline.ext hname hentries

theorem solid_of_mem_lines {o : ProgramOutline} (ho : o.Legible) :
    ∀ l ∈ o.lines, Solid l := by
  intro l hl
  rcases List.mem_cons.mp hl with rfl | hl
  · refine ⟨?_, ?_⟩
    · simp
    · simp [ho.name]
  · obtain ⟨e, he, hl⟩ := List.mem_flatMap.mp hl
    exact StoreEntry.solid_of_mem_lines (ho.calls e he) l hl

/-- The lines of all programs, an empty one between two of them. -/
def allLines (outlines : List ProgramOutline) : List String :=
  [""].intercalate (outlines.map lines)

theorem mem_allLines {outlines : List ProgramOutline} {l : String} (hl : l ∈ allLines outlines) :
    l = "" ∨ ∃ o ∈ outlines, l ∈ o.lines := by
  induction outlines with
  | nil => exact absurd hl List.not_mem_nil
  | cons o rest ih =>
      cases rest with
      | nil =>
          rw [allLines, List.map_singleton, List.intercalate_singleton] at hl
          exact Or.inr ⟨o, List.mem_singleton_self o, hl⟩
      | cons next rest =>
          rw [allLines, List.map_cons, List.map_cons, List.intercalate_cons_cons] at hl
          rcases List.mem_append.mp hl with hl | hl
          · rcases List.mem_append.mp hl with hl | hl
            · exact Or.inr ⟨o, List.mem_cons_self, hl⟩
            · exact Or.inl (List.mem_singleton.mp hl)
          · rcases ih hl with hl | ⟨o', ho', hl⟩
            · exact Or.inl hl
            · exact Or.inr ⟨o', List.mem_cons_of_mem o ho', hl⟩

theorem feed_not_mem_allLines {outlines : List ProgramOutline}
    (houtlines : ∀ o ∈ outlines, o.Legible) : ∀ l ∈ allLines outlines, '\n' ∉ l.toList := by
  intro l hl
  rcases mem_allLines hl with rfl | ⟨o, ho, hl⟩
  · decide
  · exact (solid_of_mem_lines (houtlines o ho) l hl).2

theorem allLines_cons_ne_nil (o : ProgramOutline) (rest : List ProgramOutline) :
    allLines (o :: rest) ≠ [] := by
  cases rest with
  | nil =>
      rw [allLines, List.map_singleton, List.intercalate_singleton]
      exact List.cons_ne_nil _ _
  | cons next rest =>
      rw [allLines, List.map_cons, List.map_cons, List.intercalate_cons_cons]
      exact List.cons_ne_nil _ _

theorem splitOn_allLines {outlines : List ProgramOutline} (houtlines : ∀ o ∈ outlines, o.Legible)
    (hne : outlines ≠ []) : (allLines outlines).splitOn "" = outlines.map lines := by
  refine List.splitOn_intercalate "" ?_ (mt List.map_eq_nil_iff.mp hne)
  intro ls hls hempty
  obtain ⟨o, ho, rfl⟩ := List.mem_map.mp hls
  exact (solid_of_mem_lines (houtlines o ho) "" hempty).1 rfl

theorem map_lines_inj {os os' : List ProgramOutline} (hos : ∀ o ∈ os, o.Legible)
    (hos' : ∀ o ∈ os', o.Legible) (h : os.map lines = os'.map lines) : os = os' := by
  induction os generalizing os' with
  | nil => exact (List.map_eq_nil_iff.mp h.symm).symm
  | cons o rest ih =>
      cases os' with
      | nil => exact absurd h (List.cons_ne_nil _ _)
      | cons o' rest' =>
          obtain ⟨ho, hos⟩ := List.forall_mem_cons.mp hos
          obtain ⟨ho', hos'⟩ := List.forall_mem_cons.mp hos'
          obtain ⟨hlines, hrest⟩ := List.cons.inj h
          rw [lines_inj ho ho' hlines, ih hos hos' hrest]

/-- The lines of all programs tell which programs they are: the empty lines
stand between them and nowhere else. -/
theorem allLines_inj {os os' : List ProgramOutline} (hos : ∀ o ∈ os, o.Legible)
    (hos' : ∀ o ∈ os', o.Legible) (h : allLines os = allLines os') : os = os' := by
  cases os with
  | nil =>
      cases os' with
      | nil => rfl
      | cons o' rest' => exact absurd h.symm (allLines_cons_ne_nil o' rest')
  | cons o rest =>
      cases os' with
      | nil => exact absurd h (allLines_cons_ne_nil o rest)
      | cons o' rest' =>
          have hlines : (o :: rest).map lines = (o' :: rest').map lines := by
            rw [← splitOn_allLines hos (List.cons_ne_nil o rest), h,
              splitOn_allLines hos' (List.cons_ne_nil o' rest')]
          exact map_lines_inj hos hos' hlines

end ProgramOutline

/-! ## What is generated -/

namespace Parameter

/-- What a parameter is stored as under the default settings: by the accessor of
the family of its type, under its name, as a value of its target type. -/
structure Stores (p : Parameter) (e : StoreEntry) : Prop where
  accessor : ∃ family, p.type.family {} = .ok family ∧ p.accessor {} family = .ok e.call.accessor
  name : e.call.name = p.name
  target : p.targetType = .ok (.str e.call.target)
  required : e.required = p.required

/-- The name is an identifier and the target type is a line of text. -/
structure Legible (p : Parameter) : Prop where
  name : isName p.name.toList = true
  target : ∃ target : String, p.targetType = .ok (.str target) ∧ '\n' ∉ target.toList

theorem isNameChar_of_mem_ofSpelling (spelling : String) :
    ∀ ch ∈ (Identifier.ofSpelling spelling).toList, isNameChar ch = true := by
  intro ch hch
  rw [Identifier.ofSpelling, String.toList_ofList, Identifier.bare] at hch
  split at hch
  · exact absurd hch List.not_mem_nil
  · split at hch
    · obtain ⟨kept, -, rfl⟩ := List.mem_map.mp hch
      exact isNameChar_underscored kept
    · exact absurd hch List.not_mem_nil

theorem exists_spelling_of_identifier {p : Parameter} {identifier : String}
    (h : p.identifier = .ok identifier) :
    ∃ spelling, p.underlying = .str spelling ∧ Identifier.ofSpelling spelling ≠ "" ∧
      identifier = Identifier.ofSpelling spelling := by
  unfold Parameter.identifier at h
  split at h
  · rename_i spelling hunderlying
    dsimp only at h
    split at h
    · cases h
    · rename_i hidentifier
      exact ⟨spelling, hunderlying, hidentifier, (Except.ok.inj h).symm⟩
  · cases h

/-- What follows the common start of an accessor are name characters. -/
theorem exists_rest_of_accessor {p : Parameter} {family : Family} {accessor : String}
    (h : p.accessor {} family = .ok accessor) :
    ∃ rest, accessor = "Store" ++ rest ∧ ∀ ch ∈ rest.toList, isNameChar ch = true := by
  cases family with
  | plain => exact ⟨"", (Except.ok.inj h).symm, by simp⟩
  | container element shape =>
      refine ⟨accessorSuffix "U" element shape, (Except.ok.inj h).symm, ?_⟩
      have hall : (accessorSuffix "U" element shape).toList.all isNameChar = true := by
        cases element <;> cases shape <;> decide
      exact List.all_eq_true.mp hall
  | model typeName =>
      obtain ⟨identifier, hidentifier, h⟩ := bind_eq_ok_iff.mp h
      obtain ⟨spelling, -, -, rfl⟩ := exists_spelling_of_identifier hidentifier
      refine ⟨Identifier.ofSpelling spelling ++ "Ptr", ?_, ?_⟩
      · rw [← String.append_assoc]
        exact (Except.ok.inj h).symm
      · intro ch hch
        rw [String.toList_append, List.mem_append] at hch
        rcases hch with hch | hch
        · exact isNameChar_of_mem_ofSpelling spelling ch hch
        · have hall : "Ptr".toList.all isNameChar = true := by decide
          exact List.all_eq_true.mp hall ch hch

theorem Stores.legible {p : Parameter} {e : StoreEntry} (h : p.Stores e) (hp : p.Legible) :
    e.call.Legible := by
  obtain ⟨family, -, haccessor⟩ := h.accessor
  obtain ⟨rest, hrest, hchars⟩ := exists_rest_of_accessor haccessor
  obtain ⟨target, htarget, hline⟩ := hp.target
  refine ⟨⟨rest, hrest⟩, ?_, ?_, ?_⟩
  · intro ch hch
    rw [hrest, String.toList_append, List.mem_append] at hch
    rcases hch with hch | hch
    · have hall : "Store".toList.all isNameChar = true := by decide
      exact List.all_eq_true.mp hall ch hch
    · exact hchars ch hch
  · intro ch hch
    rw [h.name] at hch
    exact Identifier.Name.isNameChar_of_mem (n := ⟨p.name.toList, hp.name⟩) hch
  · have htargets : target = e.call.target :=
      Value.str.inj (Except.ok.inj (htarget.symm.trans h.target))
    exact htargets ▸ hline

/-- A call is put together from the accessor, the name and the target type. -/
theorem storeCall_eq_ok {p : Parameter} {s : Settings} {family : Family} {call : StoreCall}
    (h : p.storeCall s family = .ok call) :
    p.accessor s family = .ok call.accessor ∧ call.name = p.name ∧
      ∃ target, p.targetType = .ok target ∧ target.written = .ok call.target := by
  unfold storeCall at h
  obtain ⟨_, -, h⟩ := bind_eq_ok_iff.mp h
  obtain ⟨accessor, haccessor, h⟩ := bind_eq_ok_iff.mp h
  obtain ⟨target, htarget, h⟩ := bind_eq_ok_iff.mp h
  obtain ⟨written, hwritten, h⟩ := bind_eq_ok_iff.mp h
  cases h
  exact ⟨haccessor, rfl, target, htarget, hwritten⟩

theorem writes_lines (e : StoreEntry) :
    Writing.Writes (e.call.write {} e.required) 2 2 (.ok ()) e.lines := by
  have houter : indentation 2 = .ok "  " := rfl
  have hinner : indentation 4 = .ok "    " := rfl
  obtain ⟨call, required⟩ := e
  cases required with
  | true => exact Writing.Writes.line_ok houter
  | false => exact Writing.Writes.block houter (Writing.Writes.line_ok hinner)

/-- A parameter with a legible target type that has a text is stored, and the
text are the lines of its call. -/
theorem exists_stores_of_emitText {p : Parameter} {text : String} (hp : p.Legible)
    (h : emitText {} "" [p] = .ok text) :
    ∃ e, p.Stores e ∧ text = closedLines e.lines := by
  obtain ⟨target, htarget, -⟩ := hp.target
  cases hcall : p.type.family {} >>= p.storeCall {} with
  | error err =>
      rw [emitText_singleton (writes_emit_of_error hcall)] at h
      cases h
  | ok call =>
      rw [emitText_singleton (writes_emit_of_ok hcall (writes_lines ⟨call, p.required⟩))] at h
      refine ⟨⟨call, p.required⟩, ?_, (Except.ok.inj h).symm⟩
      obtain ⟨family, hfamily, hcall⟩ := bind_eq_ok_iff.mp hcall
      obtain ⟨haccessor, hname, value, hvalue, hwritten⟩ := storeCall_eq_ok hcall
      cases htarget.symm.trans hvalue
      cases hwritten
      exact ⟨⟨family, hfamily, haccessor⟩, hname, htarget, rfl⟩

end Parameter

namespace Generation

/-- The outline lists the calls of the program's parameters in their order. -/
structure Outlines (program : String × List Parameter) (o : ProgramOutline) : Prop where
  name : o.name = program.1
  entries : List.Forall₂ Parameter.Stores program.2 o.entries

/-- A program whose name is a line of text, of legible parameters. -/
structure Legible (program : String × List Parameter) : Prop where
  name : '\n' ∉ program.1.toList
  params : ∀ p ∈ program.2, p.Legible

theorem exists_entries_of_texts {params : List Parameter} {texts : List String}
    (h : List.Forall₂ (fun p t => Parameter.emitText {} "" [p] = .ok t) params texts)
    (hparams : ∀ p ∈ params, p.Legible) :
    ∃ entries, List.Forall₂ Parameter.Stores params entries ∧
      (∀ e ∈ entries, e.call.Legible) ∧
      String.join texts = closedLines (entries.flatMap StoreEntry.lines) := by
  induction h with
  | nil => exact ⟨[], .nil, List.forall_mem_nil _, rfl⟩
  | @cons p text params texts htext _ ih =>
      obtain ⟨hp, hparams⟩ := List.forall_mem_cons.mp hparams
      obtain ⟨e, hstores, rfl⟩ := Parameter.exists_stores_of_emitText hp htext
      obtain ⟨entries, hentries, hlegible, hjoin⟩ := ih hparams
      refine ⟨e :: entries, .cons hstores hentries, ?_, ?_⟩
      · exact List.forall_mem_cons.mpr ⟨hstores.legible hp, hlegible⟩
      · rw [String.join_cons, hjoin, List.flatMap_cons, Parameter.closedLines_append]

theorem exists_outline_of_emitText {program : String × List Parameter} {text : String}
    (hprogram : Legible program)
    (h : Parameter.emitText {} program.1 program.2 = .ok text) :
    ∃ o, Outlines program o ∧ o.Legible ∧
      "# " ++ program.1 ++ "\n" ++ text = closedLines o.lines := by
  obtain ⟨-, texts, halone, rfl⟩ := Parameter.emitText_eq_ok_iff.mp h
  obtain ⟨entries, hentries, hlegible, hjoin⟩ := exists_entries_of_texts halone hprogram.params
  refine ⟨⟨program.1, entries⟩, ⟨rfl, hentries⟩, ⟨hprogram.name, hlegible⟩, ?_⟩
  rw [ProgramOutline.lines, closedLines_cons, hjoin]

theorem render_eq_intercalate (result : List (String × String)) :
    render result = "\n".intercalate
      (result.map fun entry => "# " ++ entry.1 ++ "\n" ++ entry.2) := rfl

theorem exists_outlines_of_texts {programs : List (String × List Parameter)}
    {result : List (String × String)} (hprograms : ∀ program ∈ programs, Legible program)
    (h : List.Forall₂ (fun program entry => entry.1 = program.1 ∧
      Parameter.emitText {} program.1 program.2 = .ok entry.2) programs result) :
    ∃ outlines, List.Forall₂ Outlines programs outlines ∧ (∀ o ∈ outlines, o.Legible) ∧
      (result.map fun entry => "# " ++ entry.1 ++ "\n" ++ entry.2) =
        (outlines.map ProgramOutline.lines).map closedLines := by
  induction h with
  | nil => exact ⟨[], .nil, List.forall_mem_nil _, rfl⟩
  | @cons program entry programs result hentry _ ih =>
      obtain ⟨hprogram, hprograms⟩ := List.forall_mem_cons.mp hprograms
      obtain ⟨o, houtline, hlegible, htext⟩ := exists_outline_of_emitText hprogram hentry.2
      obtain ⟨outlines, houtlines, hall, htexts⟩ := ih hprograms
      refine ⟨o :: outlines, .cons houtline houtlines, ?_, ?_⟩
      · exact List.forall_mem_cons.mpr ⟨hlegible, hall⟩
      · rw [List.map_cons, htexts, hentry.1, htext]
        rfl

/-- The code of programs that are generated is the text of their outlines. -/
theorem exists_outlines_of_sequential {programs : List (String × List Parameter)}
    {result : List (String × String)} (hprograms : ∀ program ∈ programs, Legible program)
    (h : sequential {} programs = .ok result) :
    ∃ outlines, List.Forall₂ Outlines programs outlines ∧ (∀ o ∈ outlines, o.Legible) ∧
      render result = closedLines (ProgramOutline.allLines outlines) := by
  obtain ⟨outlines, houtlines, hlegible, htexts⟩ :=
    exists_outlines_of_texts hprograms (sequential_eq_ok_iff.mp h)
  refine ⟨outlines, houtlines, hlegible, ?_⟩
  rw [render_eq_intercalate, htexts, intercalate_closedLines]
  rfl

/-- **The code determines the calls.** If two lists of programs that both are
generated have the same code, they are the same up to what each parameter is
stored as: the same names in the same order, and for each program the same row of
accessors, parameter names, target types and guards. The target types may hold
quotes, brackets and commas; only their being lines matters. -/
theorem stores_eq_of_render_eq (schedule schedule' : Schedule) (jobs jobs' : Int)
    {programs programs' : List (String × List Parameter)} {result result' : List (String × String)}
    (hprograms : ∀ program ∈ programs, Legible program)
    (hprograms' : ∀ program ∈ programs', Legible program)
    (h : texts schedule jobs {} programs = .ok result)
    (h' : texts schedule' jobs' {} programs' = .ok result')
    (hcode : render result = render result') :
    ∃ outlines, List.Forall₂ Outlines programs outlines ∧
      List.Forall₂ Outlines programs' outlines := by
  rw [texts_eq_sequential] at h h'
  obtain ⟨outlines, houtlines, hlegible, hlines⟩ := exists_outlines_of_sequential hprograms h
  obtain ⟨outlines', houtlines', hlegible', hlines'⟩ :=
    exists_outlines_of_sequential hprograms' h'
  have hall : ProgramOutline.allLines outlines = ProgramOutline.allLines outlines' :=
    closedLines_inj (ProgramOutline.feed_not_mem_allLines hlegible)
      (ProgramOutline.feed_not_mem_allLines hlegible')
      (hlines.symm.trans (hcode.trans hlines'))
  rw [← ProgramOutline.allLines_inj hlegible hlegible' hall] at houtlines'
  exact ⟨outlines, houtlines, houtlines'⟩

/-- A required number and an optional row, and a program without parameters. -/
def ridge : List (String × List Parameter) :=
  [("fit", [
      { name := "lambda", type := .plain "double" (.str "Float64"), required := true },
      { name := "weights", type := .numeric "arma::rowvec" (some "double") true false .null }]),
   ("clear", [])]

/-- The same by way of target types that are given with the parameters. -/
def overridden : List (String × List Parameter) :=
  [("fit", [
      { name := "lambda", type := .plain "long double" .null, required := true,
        target := .str "Float64" },
      { name := "weights", type := .numeric "arma::Row<float>" (some "float") true false .null,
        target := .str "Array\x7bFloat64, 1\x7d" }]),
   ("clear", [])]

theorem legible_of_mem_ridge : ∀ program ∈ ridge, Legible program := by
  rw [ridge, List.forall_mem_cons, List.forall_mem_singleton]
  refine ⟨⟨by decide, ?_⟩, ⟨by decide, List.forall_mem_nil _⟩⟩
  rw [List.forall_mem_cons, List.forall_mem_singleton]
  exact ⟨⟨rfl, "Float64", rfl, by decide⟩, ⟨rfl, "Array\x7bFloat64, 1\x7d", rfl, by decide⟩⟩

theorem legible_of_mem_overridden : ∀ program ∈ overridden, Legible program := by
  rw [overridden, List.forall_mem_cons, List.forall_mem_singleton]
  refine ⟨⟨by decide, ?_⟩, ⟨by decide, List.forall_mem_nil _⟩⟩
  rw [List.forall_mem_cons, List.forall_mem_singleton]
  exact ⟨⟨rfl, "Float64", rfl, by decide⟩, ⟨rfl, "Array\x7bFloat64, 1\x7d", rfl, by decide⟩⟩

theorem ridge_code_overridden :
    (∃ result result', texts .inOrder 1 {} ridge = .ok result ∧
      texts .inOrder 2 {} overridden = .ok result' ∧ render result = render result') ∧
    ∃ outlines, List.Forall₂ Outlines ridge outlines ∧
      List.Forall₂ Outlines overridden outlines := by
  have hsame : ∃ result, texts .inOrder 1 {} ridge = .ok result ∧
      texts .inOrder 2 {} overridden = .ok result := by
    rw [texts_eq_sequential, texts_eq_sequential]
    exact ⟨_, rfl, rfl⟩
  obtain ⟨result, hridge, hoverridden⟩ := hsame
  refine ⟨⟨result, result, hridge, hoverridden, rfl⟩, ?_⟩
  exact stores_eq_of_render_eq .inOrder .inOrder 1 2 legible_of_mem_ridge
    legible_of_mem_overridden hridge hoverridden rfl

end Generation

end InputBindings
