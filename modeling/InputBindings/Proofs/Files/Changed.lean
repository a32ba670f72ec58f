import InputBindings.Proofs.Files
import Mathlib

/-!
# Writing always, and writing only what has changed

Text can be written to a file always, or only if the file does not hold it yet. The second
way spares a file that has not changed, and otherwise should be the first. Whether a file
holds the text is decided on the text that its bytes are read as, with every line end as a
line feed. So two files are treated in a way of their own: one whose bytes are no text at
all fails the reading, and one whose text only spells its line ends in another way is taken
for unchanged.

All other files are safe. Where a file cannot be read, both ways are one; where it can, the
path leads to a file, and so it can be written, too.

Main statement: `writeChanged_agrees_iff`.
-/

namespace InputBindings.Files

open Traversal

variable {fs after : Files} {path text : String} {content : ByteArray}

/-! ## The text of some bytes -/

theorem unifyEnds_eq_self_iff (cs : List Char) : Text.unifyEnds cs = cs ↔ '\r' ∉ cs := by
  constructor
  · intro h
    rw [← h]
    exact Text.cr_not_mem_unifyEnds cs
  · intro h
    fun_induction Text.unifyEnds cs with
    | case1 => rfl
    | case2 cs ih => simp at h
    | case3 cs _ ih => simp at h
    | case4 c cs _ _ ih => rw [ih fun hcs => h (List.mem_cons_of_mem c hcs)]

/-- The text with every line end as a line feed. -/
def unified (text : String) : String := String.ofList (Text.unifyEnds text.toList)

theorem unified_eq_self_iff (text : String) : unified text = text ↔ '\r' ∉ text.toList := by
  rw [← unifyEnds_eq_self_iff]
  constructor
  · intro h
    simpa [unified] using congrArg String.toList h
  · intro h
    simp [unified, h]

theorem decode_eq_ok_iff :
    decode content = .ok text ↔ ∃ s : String, content = s.toUTF8 ∧ unified s = text := by
  unfold decode String.fromUTF8?
  by_cases hvalid : content.IsValidUTF8
  · rw [dif_pos hvalid]
    constructor
    · intro h
      exact ⟨String.fromUTF8 content hvalid, rfl, Except.ok.inj h⟩
    · rintro ⟨s, rfl, rfl⟩
      rfl
  · rw [dif_neg hvalid]
    constructor
    · intro h
      cases h
    · rintro ⟨s, rfl, -⟩
      exact absurd s.isValidUTF8 hvalid

theorem decode_toUTF8 (s : String) : decode s.toUTF8 = .ok (unified s) :=
  decode_eq_ok_iff.mpr ⟨s, rfl, rfl⟩

/-- Bytes that are no text are refused, with one error whatever they are. -/
theorem decode_of_ne_toUTF8 (h : ∀ s : String, content ≠ s.toUTF8) :
    decode content = .error .notUnicode := by
  unfold decode String.fromUTF8?
  by_cases hvalid : content.IsValidUTF8
  · exact absurd rfl (h (String.fromUTF8 content hvalid))
  · rw [dif_neg hvalid]
    rfl

/-! ## What can be read can be written -/

theorem write_of_read (hread : fs.read path = .ok content) (new : ByteArray) :
    ∃ after, fs.write path new = .ok after := by
  obtain ⟨place, hplace, hentry, hslash⟩ := read_eq_ok_iff.mp hread
  obtain ⟨here, last, hsplit, hwalk⟩ := place_eq_ok_iff.mp hplace
  refine ⟨⟨Keyed.put fs.entries place (.file new)⟩, ?_⟩
  unfold write
  refine bind_eq_ok_iff.mpr ⟨(here, last), hsplit, ?_⟩
  have hopen : ¬ (endsInSlash path ∧ !last.all isDots) := by simp [hslash]
  dsimp only
  rw [if_neg hopen]
  refine bind_eq_ok_iff.mpr ⟨place, hwalk, ?_⟩
  rw [hentry]
  rfl

theorem writeText_eq_ok_iff :
    fs.writeText path text = .ok after ↔ fs.write path text.toUTF8 = .ok after := by
  unfold writeText
  split
  · rename_i written h
    rw [h]
    constructor <;> intro hafter <;> exact congrArg Except.ok (Except.ok.inj hafter)
  · rename_i fault h
    rw [h]
    constructor <;> intro hafter <;> cases hafter

theorem writeText_of_read (hread : fs.read path = .ok content) (text : String) :
    ∃ after, fs.writeText path text = .ok after := by
  obtain ⟨after, hwrite⟩ := write_of_read hread text.toUTF8
  exact ⟨after, writeText_eq_ok_iff.mpr hwrite⟩

/-! ## The ways that a file is written -/

theorem holds_of_read (hread : fs.read path = .ok content) :
    fs.holds path text = (· == text) <$> decode content := by
  unfold holds
  rw [hread]
  rfl

/-- A file that cannot be read is written, or fails to be, as ever. -/
theorem writeChanged_of_unread (h : ∀ old, fs.read path ≠ .ok old) :
    fs.writeChanged path text = fs.writeText path text := by
  have hholds : fs.holds path text = .ok false := by
    unfold holds
    split
    · rfl
    · rename_i old hread
      exact absurd hread (h old)
  unfold writeChanged
  rw [hholds]
  rfl

/-- A file whose bytes are no text is not written. -/
theorem writeChanged_of_not_text (hread : fs.read path = .ok content)
    (h : ∀ s : String, content ≠ s.toUTF8) : fs.writeChanged path text = .error .notUnicode := by
  unfold writeChanged
  rw [holds_of_read hread, decode_of_ne_toUTF8 h]
  rfl

theorem holds_of_read_text {s : String} (hread : fs.read path = .ok s.toUTF8) :
    fs.holds path text = .ok (unified s == text) := by
  rw [holds_of_read hread, decode_toUTF8]
  rfl

/-- A file that reads as the text is spared. -/
theorem writeChanged_of_same {s : String} (hread : fs.read path = .ok s.toUTF8)
    (h : unified s = text) : fs.writeChanged path text = .ok fs := by
  unfold writeChanged
  rw [holds_of_read_text hread, beq_iff_eq.mpr h]
  rfl

/-- A file that reads as another text is written, or fails to be, as ever. -/
theorem writeChanged_of_other {s : String} (hread : fs.read path = .ok s.toUTF8)
    (h : unified s ≠ text) : fs.writeChanged path text = fs.writeText path text := by
  unfold writeChanged
  rw [holds_of_read_text hread, beq_eq_false_iff_ne.mpr h]
  rfl

/-- Nothing but a file that is no text or reads as the text is treated in a way of its own. -/
theorem writeChanged_eq_writeText
    (h : ∀ old, fs.read path = .ok old → ∃ s : String, old = s.toUTF8 ∧ unified s ≠ text) :
    fs.writeChanged path text = fs.writeText path text := by
  by_cases hread : ∃ old, fs.read path = .ok old
  · obtain ⟨old, hread⟩ := hread
    obtain ⟨s, rfl, hother⟩ := h old hread
    exact writeChanged_of_other hread hother
  · exact writeChanged_of_unread fun old hold => hread ⟨old, hold⟩

/-! ## Agreement -/

/-- The path leads to a file with the bytes. -/
def HasBytes (fs : Files) (path : String) (content : ByteArray) : Prop :=
  ∃ place, fs.place path = .ok place ∧ fs.entry? place = some (.file content)

theorem hasBytes_of_read (h : fs.read path = .ok content) : fs.HasBytes path content := by
  obtain ⟨place, hplace, hentry, -⟩ := read_eq_ok_iff.mp h
  exact ⟨place, hplace, hentry⟩

theorem HasBytes.unique {other : ByteArray} (h : fs.HasBytes path content)
    (h' : fs.HasBytes path other) : content = other := by
  obtain ⟨place, hplace, hentry⟩ := h
  obtain ⟨place', hplace', hentry'⟩ := h'
  have hsame : place = place' := Except.ok.inj (hplace.symm.trans hplace')
  subst hsame
  simpa using hentry.symm.trans hentry'

theorem hasBytes_of_writeText (h : fs.writeText path text = .ok after) :
    after.HasBytes path text.toUTF8 := by
  obtain ⟨place, hplace, hentry, hsame⟩ := sameElsewhere_of_write (writeText_eq_ok_iff.mp h)
  exact ⟨place, (hsame.place path place).mpr hplace, hentry⟩

/-- Writing the same bytes changes no entry. -/
theorem entry?_of_rewrite (hread : fs.read path = .ok text.toUTF8)
    (h : fs.writeText path text = .ok after) (other : Place) :
    after.entry? other = fs.entry? other := by
  obtain ⟨place, hplace, hentry, hsame⟩ := sameElsewhere_of_write (writeText_eq_ok_iff.mp h)
  obtain ⟨place', hplace', hentry', -⟩ := read_eq_ok_iff.mp hread
  have hat : place' = place := Except.ok.inj (hplace'.symm.trans hplace)
  subst hat
  by_cases hother : other = place'
  · rw [hother, hentry, hentry']
  · exact hsame.entry other hother

/-- Both ways of writing the text fail with the same error or succeed, and then both leave
the path's file with the text's bytes, and the same at all places. -/
structure Agrees (fs : Files) (path text : String) : Prop where
  error : ∀ e, fs.writeChanged path text = .error e ↔ fs.writeText path text = .error e
  success : ∀ changed, fs.writeChanged path text = .ok changed →
    ∃ always, fs.writeText path text = .ok always ∧ changed.HasBytes path text.toUTF8 ∧
      always.HasBytes path text.toUTF8 ∧ ∀ place, changed.entry? place = always.entry? place

theorem agrees_of_eq (h : fs.writeChanged path text = fs.writeText path text) :
    Agrees fs path text := by
  refine ⟨fun e => by rw [h], fun changed hchanged => ?_⟩
  have halways : fs.writeText path text = .ok changed := h ▸ hchanged
  have hbytes := hasBytes_of_writeText halways
  exact ⟨changed, halways, hbytes, hbytes, fun _ => rfl⟩

/-- A spared file agrees with the rewritten one exactly if it holds the text's bytes. -/
theorem agrees_of_same_iff {s : String} (hread : fs.read path = .ok s.toUTF8)
    (hsame : unified s = text) : Agrees fs path text ↔ s = text := by
  have hspared := writeChanged_of_same hread hsame
  constructor
  · intro h
    obtain ⟨always, -, hbytes, -, -⟩ := h.success fs hspared
    have hutf8 : s.toUTF8 = text.toUTF8 := (hasBytes_of_read hread).unique hbytes
    exact String.toByteArray_inj.mp hutf8
  · intro h
    subst h
    obtain ⟨always, halways⟩ := writeText_of_read hread s
    refine ⟨fun e => by rw [hspared, halways]; simp, fun changed hchanged => ?_⟩
    cases hspared.symm.trans hchanged
    exact ⟨always, halways, hasBytes_of_read hread, hasBytes_of_writeText halways,
      fun place => (entry?_of_rewrite hread halways place).symm⟩

theorem not_agrees_of_error {e : Error} (hfails : fs.writeChanged path text = .error e)
    (halways : fs.writeText path text = .ok after) : ¬ Agrees fs path text := by
  intro h
  have hfails' : fs.writeText path text = .error e := (h.error e).mp hfails
  rw [halways] at hfails'
  cases hfails'

/-- Where the ways agree, a file that can be read is text. -/
theorem Agrees.exists_text (h : Agrees fs path text) (hread : fs.read path = .ok content) :
    ∃ s : String, content = s.toUTF8 := by
  by_contra hnone
  have hfails : fs.writeChanged path text = .error .notUnicode :=
    writeChanged_of_not_text hread fun s hs => hnone ⟨s, hs⟩
  obtain ⟨always, halways⟩ := writeText_of_read hread text
  exact not_agrees_of_error hfails halways h

/-- Exactly the files that are no text, and those that read as the text without being it,
keep the two ways of writing from agreeing. -/
theorem agrees_iff : Agrees fs path text ↔ ∀ old, fs.read path = .ok old →
    ∃ s : String, old = s.toUTF8 ∧ (unified s = text → s = text) := by
  constructor
  · intro h old hread
    obtain ⟨s, rfl⟩ := h.exists_text hread
    exact ⟨s, rfl, fun hsame => (agrees_of_same_iff hread hsame).mp h⟩
  · intro h
    by_cases hread : ∃ s : String, fs.read path = .ok s.toUTF8 ∧ unified s = text
    · obtain ⟨s, hread, hsame⟩ := hread
      obtain ⟨s', hs', hexact⟩ := h _ hread
      obtain rfl : s = s' := String.toByteArray_inj.mp hs'
      exact (agrees_of_same_iff hread hsame).mpr (hexact hsame)
    · refine agrees_of_eq (writeChanged_eq_writeText fun old hold => ?_)
      obtain ⟨s, rfl, -⟩ := h old hold
      exact ⟨s, rfl, fun hsame => hread ⟨s, hold, hsame⟩⟩

/-- Of files that hold the text's bytes already those are found whose line ends are line
feeds. -/
theorem holds_of_read_self (hread : fs.read path = .ok text.toUTF8) :
    fs.holds path text = .ok true ↔ '\r' ∉ text.toList := by
  rw [← unified_eq_self_iff, holds_of_read_text hread, Except.ok.injEq, beq_iff_eq]

/-- **Writing what has changed is writing always, but for the line ends and for what is no
text.** The two ways of writing agree exactly if the file that stands there, if one can be
read, is a text that either is the text or reads as another one. A file that is no text fails
the one way and not the other. A file that reads as the text is spared, so one with other line
ends is. A file that holds the text already is found to do so exactly if the text has no
carriage returns, and in all cases but these the two ways are one. -/
theorem writeChanged_agrees_iff (fs : Files) (path text : String) :
    (Agrees fs path text ↔ ∀ old, fs.read path = .ok old →
      ∃ s : String, old = s.toUTF8 ∧ (unified s = text → s = text)) ∧
    (∀ old, fs.read path = .ok old → (∀ s : String, old ≠ s.toUTF8) →
      fs.writeChanged path text = .error .notUnicode ∧
        ∃ always, fs.writeText path text = .ok always) ∧
    (∀ s : String, fs.read path = .ok s.toUTF8 → unified s = text →
      fs.writeChanged path text = .ok fs) ∧
    (fs.read path = .ok text.toUTF8 → (fs.holds path text = .ok true ↔ '\r' ∉ text.toList)) ∧
    ((∀ old, fs.read path = .ok old → ∃ s : String, old = s.toUTF8 ∧ unified s ≠ text) →
      fs.writeChanged path text = fs.writeText path text) := by
  refine ⟨agrees_iff, fun old hread hbytes => ?_, fun s hread hsame => ?_, fun hread => ?_,
    fun h => ?_⟩
  · exact ⟨writeChanged_of_not_text hread hbytes, writeText_of_read hread text⟩
  · exact writeChanged_of_same hread hsame
  · exact holds_of_read_self hread
  · exact writeChanged_eq_writeText h

/-- A file that is no text, and one with a line end of another spelling. -/
def oddFiles : Files :=
  ⟨[(["f"], .file ⟨#[0xff]⟩), (["g"], .file "a\r\n".toUTF8)]⟩

/-- Both files are replaced by a line when it is written always. When it is written only if
they changed, the first one fails, and the second one keeps its bytes. -/
theorem odd_files_disagree :
    (oddFiles.writeChanged "f" "a\n" = .error .notUnicode ∧
      ∃ always, oddFiles.writeText "f" "a\n" = .ok always) ∧
    (oddFiles.writeChanged "g" "a\n" = .ok oddFiles ∧
      oddFiles.HasBytes "g" "a\r\n".toUTF8 ∧ "a\r\n".toUTF8 ≠ "a\n".toUTF8) ∧
    ¬ Agrees oddFiles "f" "a\n" ∧ ¬ Agrees oddFiles "g" "a\n" := by
  have hf : oddFiles.read "f" = .ok ⟨#[0xff]⟩ := by cbv
  have hg : oddFiles.read "g" = .ok "a\r\n".toUTF8 := by cbv
  have hsame : unified "a\r\n" = "a\n" := by cbv
  have hother : "a\r\n" ≠ "a\n" := by decide
  have hfails : oddFiles.writeChanged "f" "a\n" = .error .notUnicode := by cbv
  obtain ⟨always, halways⟩ := writeText_of_read hf "a\n"
  refine ⟨⟨hfails, always, halways⟩,
    ⟨writeChanged_of_same hg hsame, hasBytes_of_read hg, ?_⟩, ?_, ?_⟩
  · intro hbytes
    exact hother (String.toByteArray_inj.mp hbytes)
  · exact not_agrees_of_error hfails halways
  · rw [agrees_of_same_iff hg hsame]
    exact hother

end InputBindings.Files
