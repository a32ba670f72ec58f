import InputBindings.Proofs.Decimals
import InputBindings.Proofs.Traversal
import InputBindings.Request
import Mathlib.Data.List.Perm.Basic
import Mathlib.Data.List.TakeWhile

/-!
# Command lines are read back

A request to generate is written as the command, the manifest, and one group of arguments
for each option that is used: the option in its short or its long form, and behind it
what it is given. In a group only the first argument can be taken for an option, and an
option that takes several values takes them up to the next group. So the groups are read
one by one, whatever stands around them, and since no two of them set the same thing
their order does not matter.

Main statement: `request_of_groups`.
-/

namespace InputBindings.Request

open Arguments

/-! ## Groups of arguments -/

namespace Key

/-- An option as it is written, in its long or its short form. -/
def flag (long : Bool) : Key → String
  | .help => if long then "--help" else "-h"
  | .config => if long then "--config" else "-c"
  | .output => if long then "--output" else "-o"
  | .programs => if long then "--programs" else "-p"
  | .jobs => if long then "--jobs" else "-j"

def switch : Key → Switch Key
  | .help => helpSwitch
  | .config => configSwitch
  | .output => ⟨.output, 'o', "output", .one⟩
  | .programs => ⟨.programs, 'p', "programs", .several⟩
  | .jobs => ⟨.jobs, 'j', "jobs", .one⟩

/-- Both forms are the option and nothing else. -/
theorem wordOf_flag (long : Bool) (key : Key) :
    wordOf generateSwitches (key.flag long) = .ok (.use ⟨key.switch, !long, none⟩) := by
  cases key <;> cases long <;> rfl

theorem flag_ne_endMark (long : Bool) (key : Key) : key.flag long ≠ "--" := by
  cases key <;> cases long <;> decide

end Key

/-- An option of the command that generates, with what it is given. -/
inductive Group where
  | config (path : String)
  | output (path : String)
  | programs (first : String) (others : List String)
  | jobs (n : Int)
  deriving DecidableEq, Repr

namespace Group

def key : Group → Key
  | .config _ => .config
  | .output _ => .output
  | .programs _ _ => .programs
  | .jobs _ => .jobs

/-- What follows the option; counts are written in plain decimals. -/
def values : Group → List String
  | .config path => [path]
  | .output path => [path]
  | .programs first others => first :: others
  | .jobs n => [n.repr]

/-- The arguments of the group. -/
def arguments (long : Bool) (g : Group) : List String := g.key.flag long :: g.values

/-- What the group does to a request. -/
def apply (r : GenerateRequest) : Group → GenerateRequest
  | .config path => { r with config := some (.value path) }
  | .output path => { r with output := some (.value path) }
  | .programs first others => { r with programs := some (first :: others) }
  | .jobs n => { r with jobs := .value n }

/-- No text that the group holds starts with a dash, and a count has no more digits than
can be read. -/
def IsPlain : Group → Prop
  | .config path => path.toList.head? ≠ some '-'
  | .output path => path.toList.head? ≠ some '-'
  | .programs first others => ∀ name ∈ first :: others, name.toList.head? ≠ some '-'
  | .jobs n => n.natAbs.repr.length ≤ Number.maxDigits

instance : (g : Group) → Decidable g.IsPlain
  | .config path => inferInstanceAs (Decidable (path.toList.head? ≠ some '-'))
  | .output path => inferInstanceAs (Decidable (path.toList.head? ≠ some '-'))
  | .programs first others =>
    inferInstanceAs (Decidable (∀ name ∈ first :: others, name.toList.head? ≠ some '-'))
  | .jobs n => inferInstanceAs (Decidable (n.natAbs.repr.length ≤ Number.maxDigits))

/-- The words of the group's arguments. -/
def words (long : Bool) (g : Group) : List (Word Key) :=
  .use ⟨g.key.switch, !long, none⟩ :: g.values.map .operand

end Group

/-- The options of a request to generate, each used at most once. -/
structure Choice where
  config : Option String := none
  output : Option String := none
  /-- The first program, and the ones behind it. -/
  programs : Option (String × List String) := none
  jobs : Option Int := none
  deriving DecidableEq, Repr

namespace Choice

/-- One group for each option that is used. -/
def groups (o : Choice) : List Group :=
  (o.config.map .config).toList ++ (o.output.map .output).toList ++
    (o.programs.map fun names => .programs names.1 names.2).toList ++ (o.jobs.map .jobs).toList

/-- The request that is meant. Options that are left out have their standard values. -/
def request (o : Choice) (manifest : String) : GenerateRequest where
  manifest := manifest
  config := o.config.map .value
  output := o.output.map .value
  programs := o.programs.map fun names => names.1 :: names.2
  jobs := .value (o.jobs.getD 1)

end Choice

/-! ## From arguments to words -/

/-- The argument is an operand, wherever it stands. -/
def IsOperand (text : String) : Prop :=
  text ≠ "--" ∧ wordOf generateSwitches text = .ok (.operand text)

theorem isOperand_of_head? {text : String} (h : text.toList.head? ≠ some '-') :
    IsOperand text := by
  constructor
  · rintro rfl
    exact h rfl
  · have hhead : (text.toList.head? != some '-') = true := bne_iff_ne.mpr h
    unfold wordOf
    simp only [hhead, if_true]
    rfl

/-- Digits hold no sign of equality, so nothing is attached to what they are part of. -/
theorem cutAtEquals_of_isDigit {digits : List Char} (h : ∀ c ∈ digits, c.isDigit = true) :
    cutAtEquals ('-' :: digits) = ('-' :: digits, none) := by
  have hne : ∀ c ∈ '-' :: digits, (c != '=') = true := by
    refine List.forall_mem_cons.mpr ⟨by decide, fun c hc => ?_⟩
    rw [bne_iff_ne]
    rintro rfl
    cases h '=' hc
  unfold cutAtEquals
  rw [List.dropWhile_eq_nil_iff.mpr hne]

/-- No option has a digit for its letter. -/
theorem letter_ne_of_isDigit {c : Char} (hc : c.isDigit = true) {s : Switch Key}
    (hs : s ∈ generateSwitches) : s.letter ≠ c := by
  have hletters : ∀ s ∈ generateSwitches, s.letter.isDigit = false := by decide
  rintro rfl
  rw [hletters s hs] at hc
  cases hc

/-- No option is spelled like a number, in its short form or in its long one. -/
theorem spelled?_of_isDigit {c : Char} {digits : List Char} (hc : c.isDigit = true) :
    spelled? generateSwitches none ('-' :: c :: digits) = none := by
  have hdash : '-' ≠ c := by
    rintro rfl
    cases hc
  unfold spelled?
  rw [Option.map_eq_none_iff, List.find?_eq_none]
  intro s hs
  have hshort : (s.short == '-' :: c :: digits) = false := by
    rw [beq_eq_false_iff_ne]
    intro heq
    exact letter_ne_of_isDigit hc hs (List.cons.inj (List.cons.inj heq).2).1
  have hlong : (s.long == '-' :: c :: digits) = false := by
    rw [beq_eq_false_iff_ne]
    intro heq
    exact hdash (List.cons.inj (List.cons.inj heq).2).1
  rw [hshort, hlong]
  exact Bool.false_ne_true

theorem readings_of_isDigit {c : Char} {digits : List Char} (hc : c.isDigit = true) :
    readings generateSwitches ('-' :: c :: digits) = [] := by
  have hdash : c ≠ '-' := by
    rintro rfl
    cases hc
  have hnone : generateSwitches.filter (·.letter == c) = [] := by
    rw [List.filter_eq_nil_iff]
    intro s hs
    rw [beq_iff_eq]
    exact letter_ne_of_isDigit hc hs
  unfold readings
  split
  · rename_i heq
    exact absurd (List.cons.inj (List.cons.inj heq).2).1 hdash
  · rename_i heq
    obtain ⟨rfl, rfl⟩ := List.cons.inj (List.cons.inj heq).2
    rw [hnone]
    rfl
  · rfl

theorem isNegativeNumber_of_isDigit {digits : List Char} (hne : digits ≠ [])
    (h : ∀ c ∈ digits, c.isDigit = true) : isNegativeNumber ('-' :: digits) = true := by
  have hdecimal : ∀ c ∈ digits, isDecimal c = true := by
    intro c hc
    rw [isDecimal, Number.digitValue?_of_isDigit (h c hc)]
    rfl
  unfold isNegativeNumber
  simp [List.dropWhile_eq_nil_iff.mpr hdecimal, hne]

/-- A negative number is no option, since none starts like it. -/
theorem isOperand_of_isDigit {text : String} {c : Char} {digits : List Char}
    (htext : text.toList = '-' :: c :: digits) (h : ∀ d ∈ c :: digits, d.isDigit = true) :
    IsOperand text := by
  have hc : c.isDigit = true := h c List.mem_cons_self
  constructor
  · rintro rfl
    cases htext
    cases hc
  · have hlength : ¬('-' :: c :: digits).length = 1 := by simp
    have hnumber : (isNegativeNumber ('-' :: c :: digits) || ('-' :: c :: digits).contains ' ') =
        true := by
      rw [isNegativeNumber_of_isDigit (List.cons_ne_nil c digits) h, Bool.true_or]
    unfold wordOf
    simp only [htext, cutAtEquals_of_isDigit h, spelled?_of_isDigit hc, readings_of_isDigit hc,
      if_neg hlength, if_pos hnumber]
    rfl

/-- A count that is written plainly is an operand, also if it is negative. -/
theorem isOperand_repr (n : Int) : IsOperand n.repr := by
  have hdigits : ∀ m : Nat, ∀ c ∈ Nat.toDigits 10 m, c.isDigit = true := fun _ _ hc =>
    Nat.isDigit_of_mem_toDigits (by decide) (by decide) hc
  cases n with
  | ofNat m =>
      apply isOperand_of_head?
      rw [Int.repr, Nat.toList_repr]
      intro hhead
      have hdash : '-' ∈ Nat.toDigits 10 m := List.mem_of_mem_head? hhead
      cases hdigits m '-' hdash
  | negSucc m =>
      have htext : (Int.negSucc m).repr.toList = '-' :: Nat.toDigits 10 (m + 1) := by
        rw [Int.repr, String.toList_append, Nat.toList_repr]
        rfl
      obtain ⟨c, digits, hcons⟩ : ∃ c digits, Nat.toDigits 10 (m + 1) = c :: digits :=
        List.exists_cons_of_ne_nil Nat.toDigits_ne_nil
      have hdigits := hdigits (m + 1)
      rw [hcons] at htext hdigits
      exact isOperand_of_isDigit htext hdigits

theorem words_operands {texts : List String} (rest : List String)
    (h : ∀ text ∈ texts, IsOperand text) : Arguments.words generateSwitches (texts ++ rest) =
      (Arguments.words generateSwitches rest).map (texts.map .operand ++ ·) := by
  induction texts with
  | nil =>
      rw [List.nil_append]
      cases Arguments.words generateSwitches rest <;> rfl
  | cons text texts ih =>
      obtain ⟨⟨hmark, hword⟩, htexts⟩ := List.forall_mem_cons.mp h
      rw [List.cons_append, Arguments.words, if_neg hmark, hword, ih htexts]
      cases Arguments.words generateSwitches rest <;> rfl

namespace Group

theorem isOperand_of_mem_values {g : Group} {text : String} (h : g.IsPlain)
    (htext : text ∈ g.values) : IsOperand text := by
  cases g with
  | config path => exact isOperand_of_head? (List.mem_singleton.mp htext ▸ h)
  | output path => exact isOperand_of_head? (List.mem_singleton.mp htext ▸ h)
  | programs first others => exact isOperand_of_head? (h text htext)
  | jobs n => exact List.mem_singleton.mp htext ▸ isOperand_repr n

/-- The arguments of a group become its words, whatever follows them. -/
theorem words_arguments {g : Group} (h : g.IsPlain) (long : Bool) (rest : List String) :
    Arguments.words generateSwitches (g.arguments long ++ rest) =
      (Arguments.words generateSwitches rest).map (g.words long ++ ·) := by
  rw [arguments, List.cons_append, Arguments.words, if_neg (g.key.flag_ne_endMark long),
    g.key.wordOf_flag long, words_operands rest fun _ => isOperand_of_mem_values h]
  cases Arguments.words generateSwitches rest <;> rfl

end Group

/-- Groups, each in its long or its short form. -/
abbrev Written : Type := List (Bool × Group)

namespace Written

def arguments (w : Written) : List String := w.flatMap fun g => g.2.arguments g.1

def words (w : Written) : List (Word Key) := w.flatMap fun g => g.2.words g.1

theorem words_arguments {w : Written} (h : ∀ g ∈ w, g.2.IsPlain) :
    Arguments.words generateSwitches w.arguments = .ok w.words := by
  induction w with
  | nil => rfl
  | cons g w ih =>
      obtain ⟨hg, hw⟩ := List.forall_mem_cons.mp h
      rw [arguments, List.flatMap_cons, Group.words_arguments hg g.1]
      have hrest := ih hw
      rw [arguments] at hrest
      rw [hrest]
      rfl

end Written

/-! ## From words to the request -/

section Reading

variable {κ σ : Type} {g : Grammar κ σ} {wanted : Option (String → σ → σ)} {leftOver : Bool}
  {state : σ} {rest after : List (Word κ)}

theorem read_nil : Arguments.read g wanted leftOver state [] =
    .ok (state, wanted.isSome, leftOver) := by
  rw [Arguments.read.eq_def]
  rfl

/-- An option is applied to what it takes, and reading goes on behind that. -/
theorem read_use {u : Use κ} {letters : Letters κ} {values : List String}
    (hletters : u.letters g.switches = .ok letters)
    (hvalues : valuesOf letters.last.arity letters.attached rest = .ok (values, after)) :
    Arguments.read g wanted leftOver state (.use u :: rest) = (do
      let state ← letters.before.foldlM (fun state key => g.apply key [] state) state
      let state ← g.apply letters.last.key values state
      Arguments.read g wanted leftOver state after) := by
  rw [Arguments.read.eq_def]
  simp only [hletters, bind, Except.bind]
  split
  · rename_i heq
    cases hvalues.symm.trans heq
  · rename_i heq
    cases hvalues.symm.trans heq
    rfl

/-- The operand that is wanted is taken. -/
theorem read_operand {put : String → σ → σ} {text : String} :
    Arguments.read g (some put) leftOver state (.operand text :: rest) =
      Arguments.read g none leftOver (put text state) (rest.dropWhile Word.isEndMark) := by
  have hoperand : operand? (.operand text :: rest) =
      some (text, rest.dropWhile Word.isEndMark) := rfl
  rw [Arguments.read.eq_def]
  simp only
  split
  · rename_i hput heq
    cases hput
    cases hoperand.symm.trans heq
    rfl
  · rename_i hnone
    exact (hnone _ _ _ rfl hoperand).elim

end Reading

theorem leadingOperands_append (texts : List String) (rest : List (Word Key)) :
    leadingOperands (texts.map .operand ++ rest) = texts ++ leadingOperands rest := by
  induction texts with
  | nil => rfl
  | cons text texts ih => exact congrArg (text :: ·) ih

/-- Groups start with an option. -/
theorem Written.leadingOperands_words (w : Written) : leadingOperands w.words = [] := by
  cases w <;> rfl

theorem Written.dropWhile_isEndMark_words (w : Written) :
    w.words.dropWhile Word.isEndMark = w.words := by
  cases w <;> rfl

namespace Group

variable {g : Group} {r : GenerateRequest} {rest : List (Word Key)}

/-- A group's option takes all that the group holds and nothing of the next group. -/
theorem valuesOf_words (g : Group) (hrest : leadingOperands rest = []) :
    valuesOf g.key.switch.arity none (g.values.map .operand ++ rest) = .ok (g.values, rest) := by
  have hfollowing :
      following g.key.switch.arity (g.values.map .operand ++ rest) = .ok g.values := by
    unfold following
    rw [leadingOperands_append, hrest, List.append_nil]
    cases g <;> rfl
  unfold valuesOf
  simp only [hfollowing]
  have hdrop : (g.values.map Word.operand ++ rest).drop g.values.length = rest := by
    have hlength : g.values.length = (g.values.map (Word.operand (κ := Key))).length :=
      (List.length_map _).symm
    rw [hlength, List.drop_left]
  exact congrArg (fun after => Except.ok (g.values, after)) hdrop

theorem applyGenerate_values (h : g.IsPlain) (r : GenerateRequest) :
    applyGenerate g.key.switch.key g.values r = .ok (g.apply r) := by
  cases g with
  | config path => rfl
  | output path => rfl
  | programs first others => rfl
  | jobs n =>
      have hread : readJobs n.repr = .ok n := by
        unfold readJobs
        rw [Number.integer?_repr h]
        rfl
      show (do return { r with jobs := .ofList (← [n.repr].mapM readJobs) }) = _
      rw [List.mapM_cons, hread]
      rfl

end Group

/-- A group is read off the front of the words, and what it sets is set. -/
theorem Group.read_words {g : Group} {rest : List (Word Key)} (h : g.IsPlain) (long : Bool)
    (r : GenerateRequest) (hrest : leadingOperands rest = []) :
    Arguments.read generateGrammar none false r (g.words long ++ rest) =
      Arguments.read generateGrammar none false (g.apply r) rest := by
  have hletters : (⟨g.key.switch, !long, none⟩ : Use Key).letters generateSwitches =
      .ok ⟨[], g.key.switch, none⟩ := rfl
  have happly : generateGrammar.apply g.key.switch.key g.values r = .ok (g.apply r) :=
    applyGenerate_values h r
  rw [words, List.cons_append, read_use hletters (g.valuesOf_words hrest)]
  exact (Traversal.bind_of_ok rfl).trans (Traversal.bind_of_ok happly)

/-- The groups are read one by one. -/
theorem Written.read_words {w : Written} (h : ∀ g ∈ w, g.2.IsPlain) (r : GenerateRequest) :
    Arguments.read generateGrammar none false r w.words =
      .ok ((w.map (·.2)).foldl Group.apply r, false, false) := by
  induction w generalizing r with
  | nil => exact read_nil
  | cons g w ih =>
      obtain ⟨hg, hw⟩ := List.forall_mem_cons.mp h
      have hnext : leadingOperands (Written.words w) = [] := leadingOperands_words w
      exact (Group.read_words hg g.1 r hnext).trans (ih hw (g.2.apply r))

/-! ## The order of the groups -/

/-- Groups of different options do not get into each other's way. -/
theorem Group.apply_comm {g g' : Group} (h : g.key ≠ g'.key) (r : GenerateRequest) :
    g'.apply (g.apply r) = g.apply (g'.apply r) := by
  cases g <;> cases g' <;> simp_all [key, apply]

namespace Choice

variable {o : Choice} {g g' : Group}

/-- The option is used with what the group holds. -/
def Uses (o : Choice) : Group → Prop
  | .config path => o.config = some path
  | .output path => o.output = some path
  | .programs first others => o.programs = some (first, others)
  | .jobs n => o.jobs = some n

theorem mem_groups_iff : g ∈ o.groups ↔ o.Uses g := by
  cases g <;> simp [groups, Uses]

/-- No option is used twice. -/
theorem eq_of_key_eq (hg : g ∈ o.groups) (hg' : g' ∈ o.groups) (h : g.key = g'.key) : g = g' := by
  rw [mem_groups_iff] at hg hg'
  cases g <;> cases g' <;> simp_all [Group.key, Uses]

theorem foldl_apply_groups (o : Choice) (manifest : String) :
    o.groups.foldl Group.apply { manifest } = o.request manifest := by
  obtain ⟨config, output, programs, jobs⟩ := o
  cases config <;> cases output <;> cases programs <;> cases jobs <;> rfl

/-- Whatever the order in which the groups come, they make up the request. -/
theorem foldl_apply_of_perm {gs : List Group} (h : gs.Perm o.groups) (manifest : String) :
    gs.foldl Group.apply { manifest } = o.request manifest := by
  rw [← o.foldl_apply_groups manifest]
  refine h.foldl_eq' (fun g hg g' hg' r => ?_) _
  by_cases hkey : g.key = g'.key
  · rw [eq_of_key_eq (h.mem_iff.mp hg) (h.mem_iff.mp hg') hkey]
  · exact Group.apply_comm hkey r

end Choice

/-- Behind its name the command reads everything itself. -/
theorem ofArguments_generate {rest : List String} {r : GenerateRequest}
    (h : generateGrammar.run { manifest := "" } rest = .ok r) :
    ofArguments ("generate" :: rest) = .ok (.generate r) := by
  have hcommand : ofCommand "generate" rest = .ok (.generate r) := by
    show Request.generate <$> generateGrammar.run { manifest := "" } rest = _
    rw [h]
    rfl
  have hword : wordOf [helpSwitch] "generate" = .ok (.operand "generate") := rfl
  unfold ofArguments parse
  rw [if_neg (by decide)]
  exact (Traversal.bind_of_ok hword).trans (Traversal.bind_of_ok hcommand)

/-- **Command lines are read back.** Let a request to generate be written as the command,
a manifest that does not start with a dash, and the groups of some options, each of them
used once and in any order, in its short or its long form; a text in a group does not
start with a dash either, and a count, negative or not, has no more digits than can be
read. Then what is read is that manifest with exactly these options, and all others have
their standard values. -/
theorem request_of_groups {manifest : String} {o : Choice} {w : Written}
    (hmanifest : manifest.toList.head? ≠ some '-') (horder : (w.map (·.2)).Perm o.groups)
    (hplain : ∀ g ∈ o.groups, g.IsPlain) :
    ofArguments ("generate" :: manifest :: w.arguments) = .ok (.generate (o.request manifest)) ∧
    arguments (.generate (o.request manifest)) =
      [("command", .str "generate"),
       ("config", (o.config.map .str).getD .null),
       ("manifest", .str manifest),
       ("output", (o.output.map .str).getD .null),
       ("programs",
        (o.programs.map fun names => .list ((names.1 :: names.2).map .str)).getD .null),
       ("jobs", .int (o.jobs.getD 1))] := by
  have hgroups : ∀ g ∈ w, g.2.IsPlain := by
    intro g hg
    exact hplain g.2 (horder.mem_iff.mp (List.mem_map_of_mem hg))
  constructor
  · have hwords : Arguments.words generateSwitches (manifest :: w.arguments) =
        .ok (.operand manifest :: w.words) := by
      have hall : ∀ text ∈ [manifest], IsOperand text :=
        List.forall_mem_singleton.mpr (isOperand_of_head? hmanifest)
      have hoperand := words_operands w.arguments hall
      rw [Written.words_arguments hgroups] at hoperand
      exact hoperand
    have hread : Arguments.read generateGrammar generateGrammar.operand false { manifest := "" }
        (.operand manifest :: w.words) = .ok (o.request manifest, false, false) := by
      refine read_operand.trans ?_
      rw [w.dropWhile_isEndMark_words, Written.read_words hgroups]
      exact congrArg (fun r => Except.ok (r, false, false))
        (Choice.foldl_apply_of_perm horder manifest)
    have hrun : generateGrammar.run { manifest := "" } (manifest :: w.arguments) =
        .ok (o.request manifest) :=
      (Traversal.bind_of_ok hwords).trans (Traversal.bind_of_ok hread)
    exact ofArguments_generate hrun
  · obtain ⟨config, output, programs, jobs⟩ := o
    cases config <;> cases output <;> cases programs <;> rfl

/-- A negative count, a text with blanks and one without characters, in an order of
their own. -/
def shuffled : Written :=
  [(false, .jobs (-5)), (true, .programs "fit" ["", "two words"]), (false, .config "c.yaml")]

def shuffledChoice : Choice where
  config := some "c.yaml"
  programs := some ("fit", ["", "two words"])
  jobs := some (-5)

theorem shuffled_read_back :
    shuffled.arguments = ["-j", "-5", "--programs", "fit", "", "two words", "-c", "c.yaml"] ∧
    (shuffled.map (·.2)).Perm shuffledChoice.groups ∧
    ofArguments ("generate" :: "m.yaml" :: shuffled.arguments) =
      .ok (.generate (shuffledChoice.request "m.yaml")) := by
  have horder : (shuffled.map (·.2)).Perm shuffledChoice.groups := by decide
  have hplain : ∀ g ∈ shuffledChoice.groups, g.IsPlain := by decide
  exact ⟨rfl, horder, (request_of_groups (by decide) horder hplain).1⟩

end InputBindings.Request
