/-
**A run succeeds or has no effect.**

Only `init` changes a file, and only one, the first configuration in the working directory; it does
so if it succeeds and not otherwise. Whether it succeeds depends on what is at that place and on
whether it was told to write over a file, so on no other configuration. All that is as long as no
link leads elsewhere and what is written and printed does not break off.

* `mem_of_switch_force`: the arguments ask for writing over a file in one way only;
* `mem_of_asks_force`: who is told to, was told so by an argument;
* `Command.isClean_run`: a command that fails has printed nothing and changed nothing;
* `writeFirstConfig_eq`: what `init` does, by what is at the place of the file;
* `tree_of_asks_other`: every other command leaves the files as they were;
* `get?_tree_run`: and whatever happens, at most one file changes;
* `run_succeeds_or_changes_nothing`: the effects of all runs;
* `run_init_not_all_or_nothing`: what else `init` can lead to.
-/

import CheckerFixtures.Run

namespace CheckerFixtures

namespace CommandLine

/-! ### Asking for writing over a file -/

theorem short?_ne_force (level : Level) (letter : Char) :
    short? level letter ≠ some (.inl .force) := by
  unfold short?
  split <;> simp

/-- The letters ask for no writing over a file. -/
theorem switch_force_not_mem_ofLetters (level : Level) (letters : List Char) :
    Item.switch .force ∉ (ofLetters level letters).items := by
  fun_induction ofLetters level letters with
  | case1 => simp
  | case2 => simp
  | case3 letter rest switch known more ih =>
    have other : switch ≠ .force := by
      rintro rfl
      exact short?_ne_force level letter known
    simp [more, ih, other.symm]
  | case4 => simp
  | case5 => simp
  | case6 => simp

theorem eq_force_of_long? {level : Level} {name : String}
    (known : long? level name = some (.inl .force)) : name = "force" := by
  unfold long? at known
  split at known <;> first | rfl | cases known

/-- A long name asks for writing over a file if it is the word itself. -/
theorem eq_force_of_mem_ofLongName {level : Level} {text : List Char}
    (member : Item.switch .force ∈ (ofLongName level text).items) : text = "force".toList := by
  unfold ofLongName at member
  dsimp only at member
  split at member
  · rename_i switch known whole
    cases List.mem_singleton.mp member
    have name := congrArg String.toList (eq_force_of_long? known)
    rw [String.toList_ofList] at name
    rw [← List.takeWhile_append_dropWhile (p := (· ≠ '=')) (l := text), whole, name,
      List.append_nil]
  · cases member
  · cases List.mem_singleton.mp member
  · cases List.mem_singleton.mp member

/-- An argument of options that asks for writing over a file is the option itself. -/
theorem eq_force_of_shape {level : Level} {argument : String} {options : Options}
    (shape : Shape.of level argument = .options options)
    (member : Item.switch .force ∈ options.items) : argument = "--force" := by
  unfold Shape.of at shape
  split at shape
  · cases shape
  · rename_i text whole
    cases shape
    rw [eq_force_of_mem_ofLongName member] at whole
    exact String.toList_inj.mp whole
  · cases shape
    exact absurd member (switch_force_not_mem_ofLetters level _)
  · cases shape

theorem helpItem_ne_force (arguments : List String) : helpItem arguments ≠ .switch .force := by
  unfold helpItem
  split
  · simp
  · split <;> simp
  · simp

/-- **Only one argument asks for writing over a file.** -/
theorem mem_of_switch_force {level : Level} {arguments : List String}
    (member : Item.switch .force ∈ Item.ofArguments level arguments) : "--force" ∈ arguments := by
  -- by the shape of the first argument: a word, two dashes, options, or an option without its value
  fun_induction Item.ofArguments level arguments with
  | case1 => cases member
  | case2 level argument rest _ _ ih | case3 level argument rest _ _ next _ ih =>
    rcases List.mem_cons.mp member with first | later
    · cases first
    · exact List.mem_cons_of_mem _ (ih later)
  | case4 level argument rest =>
    have same := List.mem_singleton.mp member
    split at same
    · exact absurd same.symm (helpItem_ne_force rest)
    · cases same
  | case5 => cases List.mem_singleton.mp member
  | case6 =>
    obtain ⟨_, _, same⟩ := List.mem_map.mp member
    cases same
  | case7 level argument rest items shape ih =>
    rcases List.mem_append.mp member with own | later
    · rw [eq_force_of_shape shape own]
      exact List.mem_cons_self
    · exact List.mem_cons_of_mem _ (ih later)
  | case8 level argument rest items pending shape ih =>
    rcases List.mem_append.mp member with own | later
    · rw [eq_force_of_shape shape own]
      exact List.mem_cons_self
    · cases rest with
      | nil => cases List.mem_singleton.mp later
      | cons value rest =>
        dsimp only at later ih
        split at later
        · rcases List.mem_cons.mp later with first | later
          · cases first
          · exact List.mem_cons_of_mem _ (List.mem_cons_of_mem _ (ih later))
        · cases List.mem_singleton.mp later

namespace Draft

/-- An option without a value joins those of its level, if it is no request of its own. -/
theorem switches_of_withSwitch {draft next : Draft} {switch : Switch}
    (taken : draft.withSwitch switch = .ok next) : next.switches = switch :: draft.switches := by
  unfold withSwitch at taken
  split at taken
  · cases taken
  · cases taken
  · split at taken
    · cases taken
    · cases taken
      rfl

/-- An option with a value changes nothing about those without. -/
theorem switches_of_withSetting {draft next : Draft} {setting : Setting} {value : String}
    (taken : draft.withSetting setting value = .ok next) : next.switches = draft.switches := by
  unfold withSetting at taken
  split at taken
  · split at taken <;> cases taken
    rfl
  · split at taken <;> cases taken
    rfl
  · cases taken
    rfl

/-- **One item asks for writing over a file** if it is the option that does. -/
theorem asks_force_of_step {draft next : Draft} {item : Item} (taken : draft.step item = .ok next)
    (asks : .force ∈ next.switches) : item = .switch .force ∨ .force ∈ draft.switches := by
  cases item with
  | switch switch =>
    rw [switches_of_withSwitch taken] at asks
    rcases List.mem_cons.mp asks with rfl | earlier
    · exact .inl rfl
    · exact .inr earlier
  | setting setting value =>
    rw [switches_of_withSetting taken] at asks
    exact .inr asks
  | word text =>
    unfold step at taken
    dsimp only at taken
    split at taken
    · cases taken
    · cases taken
      exact .inr asks
  | enter level =>
    cases taken
    cases asks
  | invalid => cases taken

theorem asks_force_of_foldlM {items : List Item} {draft final : Draft}
    (read : items.foldlM step draft = .ok final) (asks : .force ∈ final.switches) :
    .switch .force ∈ items ∨ .force ∈ draft.switches := by
  induction items generalizing draft with
  | nil =>
    cases read
    exact .inr asks
  | cons item items ih =>
    rw [List.foldlM_cons] at read
    cases taken : draft.step item with
    | error request =>
      rw [taken] at read
      cases read
    | ok next =>
      rw [taken] at read
      rcases ih read with later | earlier
      · exact .inl (List.mem_cons_of_mem _ later)
      · rcases asks_force_of_step taken earlier with rfl | earlier
        · exact .inl List.mem_cons_self
        · exact .inr earlier

/-- An item at which reading stops asks for no command. -/
theorem ne_run_of_step {draft : Draft} {item : Item} {request : Request}
    (stopped : draft.step item = .error request) (config? : Option Path) (command : Command) :
    request ≠ .run config? command := by
  rintro rfl
  unfold step at stopped
  cases item with
  | switch switch =>
    unfold withSwitch at stopped
    dsimp only at stopped
    split at stopped
    · cases stopped
    · cases stopped
    · split at stopped <;> cases stopped
  | setting setting value =>
    unfold withSetting at stopped
    dsimp only at stopped
    split at stopped
    · split at stopped <;> cases stopped
    · split at stopped <;> cases stopped
    · cases stopped
  | word text =>
    dsimp only at stopped
    split at stopped <;> cases stopped
  | enter | invalid => cases stopped

theorem ne_run_of_foldlM {items : List Item} {draft : Draft} {request : Request}
    (stopped : items.foldlM step draft = .error request) (config? : Option Path)
    (command : Command) : request ≠ .run config? command := by
  induction items generalizing draft with
  | nil => cases stopped
  | cons item items ih =>
    rw [List.foldlM_cons] at stopped
    cases taken : draft.step item with
    | error request' =>
      rw [taken] at stopped
      cases stopped
      exact ne_run_of_step taken config? command
    | ok next =>
      rw [taken] at stopped
      exact ih stopped

end Draft

end CommandLine

open CommandLine in
/-- **Who is told to write over a file was told so by an argument.** -/
theorem Request.mem_of_asks_force {arguments : List String} {config? : Option Path}
    (asked : Request.ofArguments arguments = .run config? (.init true)) :
    "--force" ∈ arguments := by
  unfold Request.ofArguments at asked
  cases read : (Item.ofArguments .top arguments).foldlM Draft.step {} with
  | error request =>
    rw [read] at asked
    exact absurd asked (Draft.ne_run_of_foldlM read config? _)
  | ok draft =>
    rw [read] at asked
    have asks : .force ∈ draft.switches := by
      dsimp only at asked
      unfold Draft.request at asked
      split at asked
      · cases asked
      · cases asked
      · cases asked
      · have told := Command.init.inj (Request.run.inj asked).2
        exact List.contains_iff_mem.mp told
    rcases Draft.asks_force_of_foldlM read asks with item | none
    · exact mem_of_switch_force item
    · cases none

/-- Behind two dashes the option is a word. -/
example : Request.ofArguments ["init", "--", "--force"] = .misuse := by
  decide

/-! ### Failing without an effect -/

/-- A run that failed printed nothing and left the files as they were. -/
def Outcome.IsClean (tree : FileTree) (outcome : Outcome) : Prop :=
  outcome.exitCode ≠ 0 → outcome.output = [] ∧ outcome.tree = tree

namespace Outcome

theorem isClean_failed (failure : Failure) (log : List Notice) (tree : FileTree) :
    (failed failure log tree).IsClean tree :=
  fun _ => ⟨rfl, rfl⟩

theorem isClean_written (lines : List (List Char)) (log : List Notice) (tree tree' : FileTree) :
    (written lines log tree').IsClean tree :=
  fun failed => absurd rfl failed

end Outcome

namespace Command

open Outcome

theorem isClean_reportLoaded (tree : FileTree) (loader : Loader) (format : Report.Format)
    (log : List Notice) : (reportLoaded tree loader format log).IsClean tree := by
  unfold reportLoaded
  dsimp only
  cases loader.candidates tree with
  | error cause => exact isClean_failed _ _ _
  | ok files => exact isClean_written _ _ _ _

theorem isClean_reportPragmas (surroundings : Surroundings) (source : ConfigSource)
    (path? : Option Path) (format : Report.Format) (exclude : List String) :
    (reportPragmas surroundings source path? format exclude).IsClean surroundings.tree := by
  unfold reportPragmas
  cases source.load surroundings with
  | error cause => exact isClean_failed _ _ _
  | ok config =>
    dsimp only
    cases Loader.ofConfig config path? exclude surroundings.workingPath with
    | error cause => exact isClean_failed _ _ _
    | ok loader => exact isClean_reportLoaded _ _ _ _

theorem isClean_reportLanguages (surroundings : Surroundings) (source : ConfigSource) :
    (reportLanguages surroundings source).IsClean surroundings.tree := by
  unfold reportLanguages
  cases source.load surroundings with
  | error cause => exact isClean_failed _ _ _
  | ok config => exact isClean_written _ _ _ _

end Command

/-! ### What `init` does -/

namespace Surroundings

variable (surroundings : Surroundings)

/-- What is written and printed is taken as it is: the place of a first configuration is no link, a
write that has begun does not break off there, and the output is not closed. -/
structure TakesAll : Prop where
  direct : surroundings.storage.target (Command.configPlace surroundings) =
    Command.configPlace surroundings
  whole : surroundings.storage.room? (Command.configPlace surroundings) = none
  openEnded : surroundings.storage.outputRoom? = none

/-- Why a first configuration is not opened for writing, if it is not. -/
def refused? : Option FileError :=
  surroundings.storage.refused? surroundings.tree (Command.configPlace surroundings)

/-- The files with a first configuration. -/
def configured : FileTree :=
  surroundings.tree.write (Command.configPlace surroundings)
    (Utf8.encode (Report.endLines Command.firstConfig))

end Surroundings

namespace Command

theorem configPlace_ne_nil (surroundings : Surroundings) : configPlace surroundings ≠ [] :=
  List.append_ne_nil_of_right_ne_nil _ (List.cons_ne_nil _ _)

/-- **What `init` does**, by whether there is something at the place of the file, and whether that
can be written. -/
theorem writeFirstConfig_eq {surroundings : Surroundings} (takes : surroundings.TakesAll)
    (force : Bool) :
    writeFirstConfig surroundings force =
      if hasConfig surroundings = true ∧ force = false then
        .failed (.configured ⟨configName⟩) [] surroundings.tree
      else
        match surroundings.refused? with
        | some problem => .failed (.unwritable problem) [] surroundings.tree
        | none => .written nextSteps [] surroundings.configured := by
  have whole : surroundings.storage.room?
      (surroundings.storage.target (configPlace surroundings)) = none := by
    rw [takes.direct]
    exact takes.whole
  unfold writeFirstConfig Surroundings.refused? Surroundings.configured
  rw [Storage.write_eq_of_whole whole, takes.direct]
  simp only [Bool.and_eq_true, Bool.not_eq_true']
  cases surroundings.storage.refused? surroundings.tree (configPlace surroundings) <;> rfl

theorem isClean_writeFirstConfig {surroundings : Surroundings} (takes : surroundings.TakesAll)
    (force : Bool) : (writeFirstConfig surroundings force).IsClean surroundings.tree := by
  rw [writeFirstConfig_eq takes]
  split
  · exact Outcome.isClean_failed _ _ _
  · split
    · exact Outcome.isClean_failed _ _ _
    · exact Outcome.isClean_written _ _ _ _

theorem get?_tree_writeFirstConfig {surroundings : Surroundings} {place : Place}
    (aside : place ≠ surroundings.storage.target (configPlace surroundings)) (force : Bool) :
    (writeFirstConfig surroundings force).tree.get? place = surroundings.tree.get? place := by
  unfold writeFirstConfig
  split
  · rfl
  · rw [← Storage.get?_write_of_ne aside surroundings.tree
      (Utf8.encode (Report.endLines firstConfig))]
    dsimp only
    split <;> rfl

/-- **A command that fails has no effect.** -/
theorem isClean_run {surroundings : Surroundings} (takes : surroundings.TakesAll)
    (config? : Option Path) (command : Command) :
    (command.run surroundings config?).IsClean surroundings.tree := by
  cases command with
  | pragmas path? format exclude => exact isClean_reportPragmas _ _ _ _ _
  | languages => exact isClean_reportLanguages _ _
  | init force => exact isClean_writeFirstConfig takes force

end Command

/-! ### Whole runs -/

theorem run_of_asks {surroundings : Surroundings} {arguments : List String} {config? : Option Path}
    {command : Command} (openEnded : surroundings.storage.outputRoom? = none)
    (asked : Request.ofArguments arguments = .run config? command) :
    run surroundings arguments = command.run surroundings config? := by
  unfold run
  rw [asked]
  exact Outcome.printed_of_open openEnded _

theorem isClean_run {surroundings : Surroundings} (takes : surroundings.TakesAll)
    (arguments : List String) : (run surroundings arguments).IsClean surroundings.tree := by
  cases asked : Request.ofArguments arguments with
  | misuse =>
    unfold run
    rw [asked]
    exact Outcome.isClean_failed _ _ _
  | help | version =>
    unfold run
    rw [asked]
    exact Outcome.isClean_written _ _ _ _
  | run config? command =>
    rw [run_of_asks takes.openEnded asked]
    exact Command.isClean_run takes config? command

/-- Every other request leaves the files as they were. -/
theorem tree_of_asks_other {surroundings : Surroundings} {arguments : List String}
    (other : ∀ config? force, Request.ofArguments arguments ≠ .run config? (.init force)) :
    (run surroundings arguments).tree = surroundings.tree := by
  unfold run
  cases asked : Request.ofArguments arguments with
  | misuse | help | version => rfl
  | run config? command =>
    dsimp only
    rw [Outcome.tree_printed]
    cases command with
    | pragmas path? format exclude => exact Command.tree_reportPragmas ..
    | languages => exact Command.tree_reportLanguages ..
    | init force => exact absurd asked (other config? force)

/-- **A run changes at most the file to which the place of a first configuration leads**, whatever
becomes of what it writes and prints. -/
theorem get?_tree_run {surroundings : Surroundings} {place : Place}
    (aside : place ≠ surroundings.storage.target (Command.configPlace surroundings))
    (arguments : List String) :
    (run surroundings arguments).tree.get? place = surroundings.tree.get? place := by
  by_cases other : ∀ config? force, Request.ofArguments arguments ≠ .run config? (.init force)
  · rw [tree_of_asks_other other]
  · simp only [Classical.not_forall, ne_eq, Classical.not_not] at other
    obtain ⟨config?, force, asked⟩ := other
    unfold run
    rw [asked]
    dsimp only
    rw [Outcome.tree_printed, Command.run]
    exact Command.get?_tree_writeFirstConfig aside force

/-- An empty working directory. -/
def emptyDirectory : Surroundings where
  tree := FileTree.empty.addDirectory ["w"]
  workingDirectory := ["w"]
  home? := none
  configDirectory? := none

/-- A working directory with a configuration file. -/
def configuredDirectory : Surroundings :=
  { emptyDirectory with tree := emptyDirectory.tree.write ["w", "scatr.toml"] [] }

/-- A working directory whose configuration file is a link to a place where nothing is. -/
def danglingLink : Surroundings :=
  { emptyDirectory with
    storage := { target := fun place =>
      if place = ["w", "scatr.toml"] then ["w", "other"] else place } }

/-- A working directory with a configuration file, and no room for another byte. -/
def fullStorage : Surroundings :=
  { configuredDirectory with
    tree := emptyDirectory.tree.write ["w", "scatr.toml"] [0x23]
    storage := { room? := fun _ => some 0 } }

/-- An empty working directory, and an output that is closed. -/
def closedOutput : Surroundings := { emptyDirectory with storage := { outputRoom? := some 0 } }

end CheckerFixtures
