import InputBindings.Files
import InputBindings.Proofs.Keyed
import InputBindings.Proofs.Traversal

/-!
# What writing a file leaves alone

A path leads from directory to directory, so the place that it leads to depends only
on where there are directories. A file is never written where a directory stands, and
afterwards a file stands there. So all paths lead where they led before, and at every
place but that of the file stands what stood there before.

Main statements: `sameElsewhere_of_writeChanged`, `SameElsewhere.read_eq_ok_iff`.
-/

namespace InputBindings

open Traversal

theorem Keyed.get?_put {κ α : Type} [DecidableEq κ] (entries : List (κ × α)) (key other : κ)
    (value : α) :
    get? (put entries key value) other =
      if other = key then some value else get? entries other := by
  induction entries with
  | nil =>
      by_cases h : key = other
      · simp [put, get?, h]
      · simp [put, get?, h, Ne.symm h]
  | cons entry rest ih =>
      obtain ⟨k, v⟩ := entry
      unfold get? at ih ⊢
      by_cases hk : k = key
      · subst hk
        by_cases h : k = other
        · simp [put, h]
        · simp [put, h, Ne.symm h]
      · by_cases h : k = other
        · subst h
          simp [put, hk]
        · simp [put, hk, h, ih]

namespace Files

variable {fs after : Files} {here place other : Place} {path text name : String}
  {content : ByteArray}

/-! ## Paths and directories -/

theorem enter_eq_ok_iff : fs.enter here name = .ok place ↔
    fs.entry? here = some .directory ∧ name.utf8ByteSize ≤ maxNameLength ∧
      within here name = place := by
  unfold enter
  split
  · rename_i hentry
    simp [hentry]
  · rename_i hentry
    simp [hentry]
  · rename_i hentry
    by_cases hlong : maxNameLength < name.utf8ByteSize
    · simp [hentry, hlong, Nat.not_le_of_lt hlong]
    · rw [if_neg hlong]
      simp [hentry, Nat.le_of_not_lt hlong, pure, Except.pure]

/-- The trees have their directories at the same places. -/
def SameDirectories (fs after : Files) : Prop :=
  ∀ here, after.entry? here = some .directory ↔ fs.entry? here = some .directory

theorem walk_eq_ok_iff (h : SameDirectories fs after) (names : List String) :
    after.walk here names = .ok place ↔ fs.walk here names = .ok place := by
  unfold walk
  induction names generalizing here with
  | nil => simp
  | cons name rest ih =>
      rw [List.foldlM_cons, List.foldlM_cons, bind_eq_ok_iff, bind_eq_ok_iff]
      simp only [enter_eq_ok_iff, h here, ih]

theorem splitLast_eq_ok_iff {last : Option String} :
    fs.splitLast path = .ok (here, last) ↔
      path.contains '\x00' = false ∧ path ≠ "" ∧ path.utf8ByteSize ≤ maxPathLength ∧
        fs.walk (origin path) (namesOf path).dropLast = .ok here ∧
          (namesOf path).getLast? = last := by
  have hthrow : ∀ (fault : FileFault) (next : PUnit → Except FileFault (Place × Option String)),
      (throw fault >>= next : Except FileFault (Place × Option String)) = .error fault :=
    fun _ _ => rfl
  unfold splitLast
  by_cases hzero : path.contains '\x00' = true
  · simp [hzero, hthrow]
  by_cases hempty : path = ""
  · simp [hempty, hthrow]
  by_cases hlong : maxPathLength < path.utf8ByteSize
  · simp [hzero, hempty, hlong, hthrow, Nat.not_le_of_lt hlong]
  · cases hwalk : fs.walk (origin path) (namesOf path).dropLast <;>
      simp [hzero, hempty, hlong, hwalk, Nat.le_of_not_lt hlong]

theorem place_eq_ok_iff : fs.place path = .ok place ↔
    ∃ here last, fs.splitLast path = .ok (here, last) ∧ fs.walk here last.toList = .ok place := by
  unfold Files.place
  rw [bind_eq_ok_iff, Prod.exists]

theorem SameDirectories.place_eq_ok_iff (h : SameDirectories fs after) :
    after.place path = .ok place ↔ fs.place path = .ok place := by
  simp only [Files.place_eq_ok_iff, splitLast_eq_ok_iff, walk_eq_ok_iff h]

theorem read_eq_ok_iff : fs.read path = .ok content ↔
    ∃ place, fs.place path = .ok place ∧ fs.entry? place = some (.file content) ∧
      endsInSlash path = false := by
  unfold read
  rw [bind_eq_ok_iff]
  refine exists_congr fun place => and_congr_right fun _ => ?_
  split
  · rename_i hentry
    simp [hentry]
  · rename_i hentry
    simp [hentry]
  · rename_i hentry
    by_cases hslash : endsInSlash path = true
    · simp [hslash]
    · simp [hentry, hslash, pure, Except.pure]

/-! ## After a write -/

theorem entry?_put_of_ne (entry : Entry) (h : other ≠ place) :
    Files.entry? ⟨Keyed.put fs.entries place entry⟩ other = fs.entry? other := by
  unfold entry?
  rw [Keyed.get?_put, if_neg h]

/-- A file is written where its path leads, and not in the place of a directory. -/
theorem write_eq_ok (h : fs.write path content = .ok after) :
    ∃ place, fs.place path = .ok place ∧ fs.entry? place ≠ some .directory ∧
      after = ⟨Keyed.put fs.entries place (.file content)⟩ := by
  unfold write at h
  obtain ⟨⟨here, last⟩, hsplit, h⟩ := bind_eq_ok_iff.mp h
  dsimp only at h
  split at h
  · obtain ⟨_, -, h⟩ := bind_eq_ok_iff.mp h
    cases h
  · obtain ⟨place, hwalk, h⟩ := bind_eq_ok_iff.mp h
    refine ⟨place, place_eq_ok_iff.mpr ⟨here, last, hsplit, hwalk⟩, ?_⟩
    split at h
    · cases h
    · rename_i hentry
      cases h
      exact ⟨hentry, rfl⟩

theorem entry?_put_self (content : ByteArray) (h : fs.entry? place ≠ some .directory) :
    Files.entry? ⟨Keyed.put fs.entries place (.file content)⟩ place = some (.file content) := by
  unfold entry? at h ⊢
  split at h
  · exact absurd rfl h
  · rename_i houtside
    rw [if_neg houtside, Keyed.get?_put, if_pos rfl]

theorem sameDirectories_of_write (h : fs.write path content = .ok after) :
    SameDirectories fs after := by
  obtain ⟨place, -, hentry, rfl⟩ := write_eq_ok h
  intro here
  by_cases hhere : here = place
  · subst hhere
    rw [entry?_put_self content hentry]
    simp [hentry]
  · rw [entry?_put_of_ne _ hhere]

/-- What stands anywhere else stays, and every path leads where it led. -/
structure SameElsewhere (place : Place) (fs after : Files) : Prop where
  entry : ∀ other, other ≠ place → after.entry? other = fs.entry? other
  place : ∀ path other, after.place path = .ok other ↔ fs.place path = .ok other

theorem SameElsewhere.refl (place : Place) (fs : Files) : SameElsewhere place fs fs :=
  ⟨fun _ _ => rfl, fun _ _ => Iff.rfl⟩

/-- A path that does not lead to the place reads as before. -/
theorem SameElsewhere.read_eq_ok_iff (h : SameElsewhere place fs after)
    (hpath : fs.place path ≠ .ok place) :
    after.read path = .ok content ↔ fs.read path = .ok content := by
  rw [Files.read_eq_ok_iff, Files.read_eq_ok_iff]
  simp only [h.place]
  refine exists_congr fun other => and_congr_right fun hother => ?_
  rw [h.entry other (by rintro rfl; exact hpath hother)]

theorem sameElsewhere_of_write (h : fs.write path content = .ok after) :
    ∃ place, fs.place path = .ok place ∧ after.entry? place = some (.file content) ∧
      SameElsewhere place fs after := by
  obtain ⟨place, hplace, hentry, hafter⟩ := write_eq_ok h
  refine ⟨place, hplace, ?_, ?_, fun _ _ => (sameDirectories_of_write h).place_eq_ok_iff⟩
  · rw [hafter]
    exact entry?_put_self content hentry
  · intro other hother
    rw [hafter]
    exact entry?_put_of_ne _ hother

/-! ## Writing only what has changed -/

theorem holds_eq_ok_true (h : fs.holds path text = .ok true) :
    ∃ content, fs.read path = .ok content ∧ decode content = .ok text := by
  unfold holds at h
  split at h
  · cases h
  · rename_i content hread
    obtain ⟨read, hdecode, h⟩ := bind_eq_ok_iff.mp h
    exact ⟨content, hread, by rw [hdecode, beq_iff_eq.mp (Except.ok.inj h)]⟩

/-- What is written is the text, unless a file with it stands there already. -/
theorem writeChanged_eq_ok (h : fs.writeChanged path text = .ok after) :
    (after = fs ∧ ∃ content, fs.read path = .ok content ∧ decode content = .ok text) ∨
      fs.write path text.toUTF8 = .ok after := by
  unfold writeChanged at h
  obtain ⟨same, hholds, h⟩ := bind_eq_ok_iff.mp h
  cases same with
  | true => exact Or.inl ⟨(Except.ok.inj h).symm, holds_eq_ok_true hholds⟩
  | false =>
      refine Or.inr ?_
      unfold writeText at h
      simp only [Bool.false_eq_true, if_false] at h
      split at h
      · rename_i hwrite
        rw [hwrite, Except.ok.inj h]
      · cases h

/-- Writing text changes no file but the one that its path leads to, and that one holds
the text afterwards, up to the spelling of line ends. -/
theorem sameElsewhere_of_writeChanged (h : fs.writeChanged path text = .ok after) :
    ∃ place content, fs.place path = .ok place ∧ after.entry? place = some (.file content) ∧
      (content = text.toUTF8 ∨ decode content = .ok text) ∧ SameElsewhere place fs after := by
  rcases writeChanged_eq_ok h with ⟨rfl, content, hread, hdecode⟩ | hwrite
  · obtain ⟨place, hplace, hentry, -⟩ := read_eq_ok_iff.mp hread
    exact ⟨place, content, hplace, hentry, Or.inr hdecode, .refl place after⟩
  · obtain ⟨place, hplace, hentry, hsame⟩ := sameElsewhere_of_write hwrite
    exact ⟨place, _, hplace, hentry, Or.inl rfl, hsame⟩

end Files

end InputBindings
