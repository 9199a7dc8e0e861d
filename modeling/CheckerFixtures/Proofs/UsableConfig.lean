/-
**Configurations that can be used.**

A configured language can be used if it has an extension and a comment token that is not empty. A
configuration is accepted exactly when all its languages can be used; otherwise the fault of the
first by name is reported. Of an accepted one the languages go by their keys and hold no empty
token, so that together with the built-in languages each has something to find its files by and
something to look for in them.

* `problem?_eq_some_iff`: what is reported of one language;
* `validate_eq_ok_iff`, `isFirstFault_of_validate`: what is accepted, and which fault is reported;
* `IsFiled.get?_languageTable`: which language stands under a name;
* `IsChecked.isReady_languageTable`: every language of an accepted configuration can be used;
* `parse_of_decoded`: all this of the text of a configuration.
-/

import CheckerFixtures.Proofs.LanguageLookup
import CheckerFixtures.Proofs.Loading

namespace CheckerFixtures

/-! ### One language -/

/-- A language has something to find its files by, and something to look for in them. -/
structure Language.IsUsable (language : Language) : Prop where
  hasExtension : language.extensions ≠ []
  hasToken : ∃ token ∈ language.tokens, token ≠ ""

namespace Config

variable {language : Language} {name : String} {problem : LanguageProblem}

theorem usableTokens_eq_nil_iff :
    usableTokens language = [] ↔ ¬ ∃ token ∈ language.tokens, token ≠ "" := by
  unfold usableTokens
  rw [List.filter_eq_nil_iff]
  simp

/-- What is wrong with a language. Its tokens are looked at first. -/
inductive Lacks (language : Language) : LanguageProblem → Prop
  | tokens : (¬ ∃ token ∈ language.tokens, token ≠ "") → Lacks language .noTokens
  | extensions : (∃ token ∈ language.tokens, token ≠ "") → language.extensions = [] →
      Lacks language .noExtensions

/-- **What is reported of a language is what it lacks.** -/
theorem problem?_eq_some_iff : problem? language = some problem ↔ Lacks language problem := by
  unfold problem?
  constructor
  · intro reported
    split at reported
    · rename_i empty
      cases reported
      exact .tokens (usableTokens_eq_nil_iff.mp empty)
    · rename_i filled
      split at reported
      · rename_i none
        cases reported
        exact .extensions (not_not.mp (mt usableTokens_eq_nil_iff.mpr filled)) none
      · cases reported
  · intro lacks
    cases lacks with
    | tokens none => rw [if_pos (usableTokens_eq_nil_iff.mpr none)]
    | extensions some none =>
      rw [if_neg (mt usableTokens_eq_nil_iff.mp (not_not.mpr some)), if_pos none]

theorem problem?_eq_none_iff : problem? language = none ↔ language.IsUsable := by
  constructor
  · intro fine
    have noFault : ∀ problem, ¬ Lacks language problem := by
      intro problem lacks
      rw [problem?_eq_some_iff.mpr lacks] at fine
      cases fine
    have token : ∃ token ∈ language.tokens, token ≠ "" :=
      not_not.mp fun none => noFault .noTokens (.tokens none)
    exact ⟨fun none => noFault .noExtensions (.extensions token none), token⟩
  · rintro ⟨extension, token⟩
    unfold problem?
    rw [if_neg (mt usableTokens_eq_nil_iff.mp (not_not.mpr token)), if_neg extension]

/-- The text of what a language lacks. -/
theorem Lacks.message (lacks : Lacks language problem) :
    problem.message = if ∃ token ∈ language.tokens, token ≠ "" then "no extensions"
      else "no comment_prefixes" := by
  cases lacks with
  | tokens none =>
    rw [if_neg none]
    rfl
  | extensions some none =>
    rw [if_pos some]
    rfl

theorem Lacks.not_isUsable (lacks : Lacks language problem) : ¬ language.IsUsable := by
  rw [← problem?_eq_none_iff, problem?_eq_some_iff.mpr lacks]
  exact Option.some_ne_none problem

/-! ### All languages -/

variable {raw config : Config} {error : ConfigError}

/-- The faults of the languages, by name. -/
def faults (config : Config) : List (String × LanguageProblem) :=
  config.languages.entries.filterMap fun (name, language) =>
    (problem? language).map fun problem => (name, problem)

theorem mem_faults : (name, problem) ∈ faults config ↔
    ∃ language, config.languages.get? name = some language ∧ Lacks language problem := by
  unfold faults
  rw [List.mem_filterMap]
  constructor
  · rintro ⟨⟨_, language⟩, listed, found⟩
    obtain ⟨_, reported, same⟩ := Option.map_eq_some_iff.mp found
    cases same
    exact ⟨language, SortedMap.get?_eq_some_iff.mpr listed, problem?_eq_some_iff.mp reported⟩
  · rintro ⟨language, stands, lacks⟩
    refine ⟨(name, language), SortedMap.get?_eq_some_iff.mp stands, ?_⟩
    exact Option.map_eq_some_iff.mpr ⟨problem, problem?_eq_some_iff.mpr lacks, rfl⟩

/-- The faults come in the order of the names. -/
theorem faults_pairwise (config : Config) :
    (faults config).Pairwise fun first second => first.1 < second.1 := by
  refine config.languages.ascending.filterMap _ ?_
  intro first second before fault found fault' found'
  obtain ⟨_, -, rfl⟩ := Option.map_eq_some_iff.mp found
  obtain ⟨_, -, rfl⟩ := Option.map_eq_some_iff.mp found'
  exact before

/-- All languages of a configuration can be used. -/
def IsUsable (config : Config) : Prop :=
  ∀ name language, config.languages.get? name = some language → language.IsUsable

theorem isUsable_iff : config.IsUsable ↔ faults config = [] := by
  rw [List.eq_nil_iff_forall_not_mem]
  constructor
  · rintro usable ⟨name, problem⟩ member
    obtain ⟨language, stands, lacks⟩ := mem_faults.mp member
    exact lacks.not_isUsable (usable name language stands)
  · intro none name language stands
    rw [← problem?_eq_none_iff, Option.eq_none_iff_forall_not_mem]
    intro problem reported
    exact none (name, problem) (mem_faults.mpr ⟨language, stands, problem?_eq_some_iff.mp reported⟩)

/-- The fault of the unusable language with the least name, in the order of its bytes. -/
structure IsFirstFault (config : Config) (name : String) (problem : LanguageProblem) : Prop where
  /-- The text of the fault tells what the language lacks. -/
  lacks : ∃ language, config.languages.get? name = some language ∧ ¬ language.IsUsable ∧
    problem.message = if ∃ token ∈ language.tokens, token ≠ "" then "no extensions"
      else "no comment_prefixes"
  least : ∀ other language, config.languages.get? other = some language → ¬ language.IsUsable →
    other = name ∨ Utf8.encode name.toList < Utf8.encode other.toList

theorem isFirstFault_of_faults {others : List (String × LanguageProblem)}
    (first : faults config = (name, problem) :: others) : config.IsFirstFault name problem := by
  constructor
  · obtain ⟨language, stands, lacks⟩ := mem_faults.mp (first ▸ List.mem_cons_self)
    exact ⟨language, stands, lacks.not_isUsable, lacks.message⟩
  · intro other language stands unusable
    obtain ⟨fault, reported⟩ := Option.ne_none_iff_exists'.mp (mt problem?_eq_none_iff.mp unusable)
    have member : (other, fault) ∈ faults config :=
      mem_faults.mpr ⟨language, stands, problem?_eq_some_iff.mp reported⟩
    -- faults come by name, so every other one is behind the first
    have ordered := faults_pairwise config
    rw [first] at member ordered
    rcases List.mem_cons.mp member with same | later
    · exact .inl (congrArg Prod.fst same)
    · refine .inr ?_
      rw [Utf8.encode_lt_encode_iff, ← String.lt_iff]
      exact (List.pairwise_cons.mp ordered).1 _ later

/-! ### Checking -/

theorem validate_eq (config : Config) :
    config.validate = match faults config with
      | [] => .ok { config with languages := config.languages.mapValues filed }
      | (name, problem) :: _ => .error (.invalidLanguage name problem) :=
  rfl

/-- **A configuration is accepted if all its languages can be used.** -/
theorem validate_eq_ok_iff : raw.validate = .ok config ↔
    raw.IsUsable ∧ config = { raw with languages := raw.languages.mapValues filed } := by
  rw [validate_eq, isUsable_iff]
  cases faults raw with
  | nil => exact ⟨fun accepted => ⟨rfl, (Except.ok.inj accepted).symm⟩, fun both => both.2 ▸ rfl⟩
  | cons fault others =>
    refine iff_of_false (fun accepted => ?_) fun both => ?_
    · cases accepted
    · exact List.cons_ne_nil fault others both.1

/-- **Otherwise the first fault is reported.** -/
theorem isFirstFault_of_validate (refused : raw.validate = .error error) :
    ∃ name problem, error = .invalidLanguage name problem ∧ raw.IsFirstFault name problem := by
  rw [validate_eq] at refused
  split at refused
  · cases refused
  · rename_i name problem others first
    cases refused
    exact ⟨name, problem, rfl, isFirstFault_of_faults first⟩

/-- A configuration as it is once it was checked. -/
structure IsChecked (raw config : Config) : Prop where
  root : config.root = raw.root
  exclude : config.exclude = raw.exclude
  useIgnoreFiles : config.useIgnoreFiles = raw.useIgnoreFiles
  /-- A language goes by its key, and its empty tokens are left out. -/
  languages : ∀ name, config.languages.get? name = (raw.languages.get? name).map fun language =>
    ⟨name, language.extensions, language.tokens.filter (· ≠ "")⟩

theorem isChecked_of_validate (accepted : raw.validate = .ok config) : IsChecked raw config := by
  rw [(validate_eq_ok_iff.mp accepted).2]
  exact ⟨rfl, rfl, rfl, SortedMap.get?_mapValues filed raw.languages⟩

/-! ### The table of languages -/

/-- Every configured language goes by its key. -/
def IsFiled (config : Config) : Prop :=
  ∀ name language, config.languages.get? name = some language → language.name = name

theorem IsFiled.nodup_names (filed : config.IsFiled) :
    (config.languages.values.map Language.name).Nodup := by
  have names : config.languages.values.map Language.name = config.languages.keys := by
    unfold SortedMap.values SortedMap.keys
    rw [List.map_map]
    refine List.map_congr_left fun entry listed => ?_
    exact filed entry.1 entry.2 (SortedMap.get?_eq_some_iff.mpr listed)
  rw [names, SortedMap.keys, List.nodup_iff_pairwise_ne, List.pairwise_map]
  refine config.languages.ascending.imp fun less same => ?_
  rw [same] at less
  exact Std.lt_irrefl less

/-- **Under a name stands the configured language, or else the built-in one.** -/
theorem IsFiled.get?_languageTable (filed : config.IsFiled) (name : String) :
    config.languageTable.get? name =
      (config.languages.get? name).or (LanguageTable.builtin.get? name) := by
  have distinct := filed.nodup_names
  have same : (config.languages.values.find? fun language => language.name = name) =
      config.languages.get? name := by
    refine Option.ext fun language => ?_
    rw [find?_name_eq_some_iff distinct, SortedMap.values, List.mem_map]
    constructor
    · rintro ⟨⟨⟨key, language⟩, listed, rfl⟩, rfl⟩
      have stands := SortedMap.get?_eq_some_iff.mpr listed
      rwa [filed key language stands]
    · intro stands
      exact ⟨⟨(name, language), SortedMap.get?_eq_some_iff.mp stands, rfl⟩,
        filed name language stands⟩
  rw [languageTable, LanguageTable.get?_insertAll,
    ← find?_name_perm (List.reverse_perm _).symm distinct, same]

theorem IsChecked.isFiled (checked : IsChecked raw config) : config.IsFiled := by
  intro name language stands
  rw [checked.languages] at stands
  obtain ⟨_, -, rfl⟩ := Option.map_eq_some_iff.mp stands
  rfl

end Config

/-- A language can be used as it stands, with all its tokens. -/
structure Language.IsReady (language : Language) : Prop where
  extensions : language.extensions ≠ []
  tokens : language.tokens ≠ []
  filled : "" ∉ language.tokens

theorem Language.isReady_builtin : ∀ language ∈ builtin, language.IsReady := by
  intro language member
  have ready : ∀ language ∈ builtin,
      language.extensions ≠ [] ∧ language.tokens ≠ [] ∧ "" ∉ language.tokens := by
    decide
  obtain ⟨extensions, tokens, filled⟩ := ready language member
  exact ⟨extensions, tokens, filled⟩

/-- A usable language is ready once its empty tokens are left out. -/
theorem Language.IsUsable.isReady {language : Language} (usable : language.IsUsable)
    (name : String) : (Config.filed name language).IsReady where
  extensions := usable.hasExtension
  tokens := mt Config.usableTokens_eq_nil_iff.mp (not_not.mpr usable.hasToken)
  filled member := by simpa using List.of_mem_filter member

/-- None of the tokens of such a language is passed over. -/
theorem Language.IsReady.usableTokens {language : Language} (ready : language.IsReady) :
    Fixture.usableTokens language.tokens = language.tokens := by
  refine List.filter_eq_self.mpr fun token member => decide_eq_true ?_
  rintro rfl
  exact ready.filled member

namespace LanguageTable

/-- Each language of the table goes by its key and can be used as it stands. -/
structure IsReady (table : LanguageTable) : Prop where
  own : ∀ name language, table.get? name = some language → language.name = name
  ready : ∀ name language, table.get? name = some language → language.IsReady
  /-- A text that is read for a language is searched for all its tokens. -/
  ofText : ∀ name language, table.get? name = some language →
    ∀ title content, (Fixture.ofText title content language.tokens).tokens = language.tokens
  /-- So are the bytes of a file. -/
  ofBytes : ∀ name language, table.get? name = some language →
    ∀ title bytes, (Fixture.ofBytes title bytes language.tokens).tokens = language.tokens
  /-- So is every fixture that is loaded with the table. -/
  loaded : ∀ (loader : Loader) (tree : FileTree) (collection : Collection),
    loader.languages = table → loader.load tree = .ok collection →
      ∀ found ∈ collection.fixtures, ∃ language, table.get? found.language = some language ∧
        found.fixture.tokens = language.tokens

theorem isReady_of_forall {table : LanguageTable} (filed : table.Filed)
    (ready : ∀ name language, table.get? name = some language → language.IsReady) :
    table.IsReady where
  own := filed
  ready := ready
  ofText name language stands _ _ := (ready name language stands).usableTokens
  ofBytes name language stands _ _ := (ready name language stands).usableTokens
  loaded loader tree collection same loaded found member := by
    obtain ⟨files, -, file, -, made⟩ := Loader.exists_file_of_load loaded member
    obtain ⟨language, chosen, rfl⟩ := Option.map_eq_some_iff.mp made
    rw [same, forPath?_eq_some_iff filed] at chosen
    have stands := (mem_toList_iff filed).mp chosen.listed
    exact ⟨language, stands, (ready _ language stands).usableTokens⟩

end LanguageTable

namespace Config

variable {raw config : Config}

/-- **Every language of an accepted configuration can be used as it stands.** -/
theorem IsChecked.isReady_languageTable (checked : IsChecked raw config) (usable : raw.IsUsable) :
    config.languageTable.IsReady := by
  have known : LanguageTable.builtin.Filed := LanguageTable.filed_empty.insertAll Language.builtin
  refine LanguageTable.isReady_of_forall (known.insertAll config.languages.values) ?_
  intro name language stands
  rw [checked.isFiled.get?_languageTable, Option.or_eq_some_iff] at stands
  rcases stands with configured | ⟨-, known⟩
  · rw [checked.languages] at configured
    obtain ⟨given, stands, rfl⟩ := Option.map_eq_some_iff.mp configured
    exact (usable name given stands).isReady name
  · rw [LanguageTable.get?_builtin] at known
    exact Language.isReady_builtin language (List.mem_of_find?_eq_some known)

/-! ### The text of a configuration -/

theorem parse_eq_validate {text : List Char}
    (decoded : (Toml.parse? text).bind ofDocument? = some raw) : parse text = raw.validate := by
  rw [parse, decoded]

/-- **A text that can be decoded is accepted if and only if all its languages can be used.** If so,
its languages go by their keys and hold no empty token, everything else is as it was decoded, and
every language that is then known can be used as it stands. If not, the fault of the first unusable
language by name is reported. -/
theorem parse_of_decoded {text : List Char}
    (decoded : (Toml.parse? text).bind ofDocument? = some raw) :
    ((∃ config, parse text = .ok config) ↔
      ∀ name language, raw.languages.get? name = some language →
        language.extensions ≠ [] ∧ ∃ token ∈ language.tokens, token ≠ "") ∧
    (∀ config, parse text = .ok config → IsChecked raw config ∧ config.languageTable.IsReady ∧
      ∀ name, config.languageTable.get? name =
        (config.languages.get? name).or (LanguageTable.builtin.get? name)) ∧
    ∀ error, parse text = .error error →
      ∃ name problem, error = .invalidLanguage name problem ∧ raw.IsFirstFault name problem := by
  rw [parse_eq_validate decoded]
  refine ⟨⟨?_, ?_⟩, ?_, fun error => isFirstFault_of_validate⟩
  · rintro ⟨config, accepted⟩ name language stands
    obtain ⟨extension, token⟩ := (validate_eq_ok_iff.mp accepted).1 name language stands
    exact ⟨extension, token⟩
  · intro usable
    refine ⟨_, validate_eq_ok_iff.mpr ⟨fun name language stands => ?_, rfl⟩⟩
    obtain ⟨extension, token⟩ := usable name language stands
    exact ⟨extension, token⟩
  · intro config accepted
    have checked := isChecked_of_validate accepted
    exact ⟨checked, checked.isReady_languageTable (validate_eq_ok_iff.mp accepted).1,
      checked.isFiled.get?_languageTable⟩

/-- A text with two unusable languages; the first by name stands last. -/
def twoFaults : String :=
  "[languages.b]\ncomment_prefixes = [\";\"]\n[languages.a]\ncomment_prefixes = [\"\"]\n"

/-- What it is decoded to. -/
def twoUnusable : Config where
  languages := .ofList [("b", ⟨"", [], [";"]⟩), ("a", ⟨"", [], [""]⟩)]

/-- A text with a language in place of a built-in one, of which one token is empty. -/
def emptyToken : String :=
  "[languages.go]\nextensions = [\"go\"]\ncomment_prefixes = [\"\", \"#\"]\n"

/-- What it is decoded to. -/
def oneUsable : Config where
  languages := .ofList [("go", ⟨"", ["go"], ["", "#"]⟩)]

theorem parse_of_decoded_texts :
    (parse twoFaults.toList = .error (.invalidLanguage "a" .noTokens) ∧
      twoUnusable.IsFirstFault "a" .noTokens) ∧
    ∃ config, parse emptyToken.toList = .ok config ∧ IsChecked oneUsable config ∧
      config.languageTable.IsReady ∧
      config.languageTable.get? "go" = some ⟨"go", ["go"], ["#"]⟩ := by
  have refused : (Toml.parse? twoFaults.toList).bind ofDocument? = some twoUnusable := by
    decide +kernel
  have decoded : (Toml.parse? emptyToken.toList).bind ofDocument? = some oneUsable := by
    decide +kernel
  have report : parse twoFaults.toList = .error (.invalidLanguage "a" .noTokens) := by
    decide +kernel
  have result : ∃ config, parse emptyToken.toList = .ok config := by
    refine (parse_of_decoded decoded).1.mpr fun name language stands => ?_
    have member := SortedMap.get?_eq_some_iff.mp stands
    rw [show oneUsable.languages.entries = [("go", ⟨"", ["go"], ["", "#"]⟩)] from rfl,
      List.mem_singleton] at member
    cases member
    decide
  obtain ⟨config, accepted⟩ := result
  obtain ⟨checked, ready, table⟩ := (parse_of_decoded decoded).2.1 config accepted
  refine ⟨⟨report, ?_⟩, config, accepted, checked, ready, ?_⟩
  · obtain ⟨name, problem, same, first⟩ := (parse_of_decoded refused).2.2 _ report
    cases same
    exact first
  · rw [table, checked.languages]
    decide +kernel

end Config

end CheckerFixtures
