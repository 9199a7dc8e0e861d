/-
**Looking up languages.**

A table starts empty or with the built-in languages, and languages are added one after the other.
Each stands under its own name, so a later one replaces an earlier one of the same name, and the
language of a path is the one with the least name of all those that are for the path.

* `extension?_eq_some_iff`, `claims_iff`: which paths a language is for;
* `get?_insertAll`: the language of a name is the last one that was added under it;
* `forPath?_eq_some_iff`: the language of a path is the first by name that is for it;
* `forPath?_insert_of_not_isFor`: a new language matters for the paths that it or the one in its
  place is for;
* `insertAll_perm`: languages of different names may be added in any order;
* `isOverlay_insertAll`: all this of the tables that can be built, those of configurations included.
-/

import CheckerFixtures.Config
import CheckerFixtures.Proofs.ByteOrder
import CheckerFixtures.Proofs.Spelling
import Mathlib.Data.List.Nodup
import Mathlib.Data.List.Perm.Basic
import Mathlib.Data.List.TakeWhile

namespace CheckerFixtures

/-! ### Extensions -/

namespace Path

/-- What stands behind the last dot of a file name, if that is not the first character. -/
structure IsExtension (extension name : String) : Prop where
  behindStem : ∃ stem, stem ≠ "" ∧ name = stem ++ "." ++ extension
  noDot : '.' ∉ extension.toList

theorem splitName_of_isExtension {extension name : String} (behind : IsExtension extension name) :
    (splitName name).2 = some extension := by
  obtain ⟨⟨stem, filled, rfl⟩, noDot⟩ := behind
  have turned : (stem ++ "." ++ extension).toList.reverse =
      extension.toList.reverse ++ '.' :: stem.toList.reverse := by
    simp
  have inside : ∀ c ∈ extension.toList.reverse, decide (c ≠ '.') = true := by
    intro c member
    rw [decide_eq_true_iff]
    rintro rfl
    exact noDot (List.mem_reverse.mp member)
  have stop : ∀ c, ('.' :: stem.toList.reverse).head? = some c → decide (c ≠ '.') = false := by
    rintro c ⟨⟩
    rfl
  have before : ('.' :: stem.toList.reverse).reverse.dropLast = stem.toList := by
    rw [List.reverse_cons, List.dropLast_concat, List.reverse_reverse]
  unfold splitName
  simp only [turned, Literal.takeWhile_run inside stop, Literal.dropWhile_run inside stop, before]
  rw [if_neg (by rwa [String.toList_eq_nil_iff]), List.reverse_reverse, String.ofList_toList,
    String.ofList_toList]

theorem isExtension_of_splitName {extension name : String}
    (split : (splitName name).2 = some extension) : IsExtension extension name := by
  have whole := List.takeWhile_append_dropWhile (p := fun c => decide (c ≠ '.'))
    (l := name.toList.reverse)
  have stop := List.head?_dropWhile_not (fun c => decide (c ≠ '.')) name.toList.reverse
  have inside : ∀ c ∈ name.toList.reverse.takeWhile fun c => decide (c ≠ '.'), c ≠ '.' := by
    intro c member
    simpa using List.mem_takeWhile_imp member
  unfold splitName at split
  simp only at split
  generalize name.toList.reverse.takeWhile (fun c => decide (c ≠ '.')) = behind at *
  cases left : name.toList.reverse.dropWhile fun c => decide (c ≠ '.') with
  | nil =>
    rw [left] at split
    cases split
  | cons dot stem =>
    rw [left] at split stop whole
    have isDot : dot = '.' := by simpa using stop
    rw [List.reverse_cons, List.dropLast_concat] at split
    split at split
    · cases split
    · rename_i filled
      cases split
      have cut : name.toList = stem.reverse ++ '.' :: behind.reverse := by
        rw [← List.reverse_reverse name.toList, ← whole, isDot]
        simp
      refine ⟨⟨String.ofList stem.reverse, ?_, ?_⟩, ?_⟩
      · intro empty
        rw [← String.toList_inj, String.toList_ofList] at empty
        exact filled empty
      · rw [← String.toList_inj, cut]
        simp
      · rw [String.toList_ofList, List.mem_reverse]
        exact fun member => inside '.' member rfl

/-- **The extension of a path** stands behind the last dot of its file name. -/
theorem extension?_eq_some_iff {path : Path} {extension : String} :
    path.extension? = some extension ↔
      ∃ name, path.fileName? = some name ∧ IsExtension extension name := by
  unfold extension?
  rw [Option.bind_eq_some_iff]
  refine exists_congr fun name => and_congr_right fun _ => ?_
  exact ⟨isExtension_of_splitName, splitName_of_isExtension⟩

end Path

/-! ### The paths of a language -/

namespace Language

/-- A language is for a path if it lists the file name, or the extension in any case. -/
inductive IsFor (language : Language) (path : Path) : Prop
  | byName {name : String} : path.fileName? = some name → name ∈ language.extensions →
      IsFor language path
  | byExtension {name extension listed : String} : path.fileName? = some name →
      Path.IsExtension extension name → listed ∈ language.extensions →
      sameButCase extension listed = true → IsFor language path

/-- **A language claims the paths that it is for.** -/
theorem claims_iff {language : Language} {path : Path} :
    language.claims path = true ↔ language.IsFor path := by
  unfold claims
  rw [List.any_eq_true]
  constructor
  · rintro ⟨listed, member, holds⟩
    rcases (Bool.or_eq_true _ _).mp holds with named | extended
    · exact .byName (of_decide_eq_true named) member
    · obtain ⟨extension, found, same⟩ := (Option.any_eq_true _ _).mp extended
      obtain ⟨name, last, behind⟩ := Path.extension?_eq_some_iff.mp found
      exact .byExtension last behind member same
  · intro isFor
    cases isFor with
    | byName last member => exact ⟨_, member, by rw [last, decide_eq_true rfl, Bool.true_or]⟩
    | byExtension last behind member same =>
      refine ⟨_, member, ?_⟩
      rw [Path.extension?_eq_some_iff.mpr ⟨_, last, behind⟩, Option.any_some, same, Bool.or_true]

/-- The order in which languages are listed: by the bytes of their names. -/
def Before (first second : Language) : Prop :=
  Utf8.encode first.name.toList < Utf8.encode second.name.toList

theorem before_iff {first second : Language} : first.Before second ↔ first.name < second.name := by
  rw [Before, Utf8.encode_lt_encode_iff, String.lt_iff]

end Language

/-! ### Languages by name -/

theorem find?_name_eq_some_iff {languages : List Language}
    (distinct : (languages.map Language.name).Nodup) {name : String} {language : Language} :
    (languages.find? fun other => other.name = name) = some language ↔
      language ∈ languages ∧ language.name = name := by
  constructor
  · intro found
    exact ⟨List.mem_of_find?_eq_some found, by simpa using List.find?_some found⟩
  · rintro ⟨member, rfl⟩
    cases found : languages.find? fun other => other.name = language.name with
    | none =>
      have passed := List.find?_eq_none.mp found language member
      simp at passed
    | some other =>
      have same : other.name = language.name := by simpa using List.find?_some found
      rw [List.inj_on_of_nodup_map distinct (List.mem_of_find?_eq_some found) member same]

/-- Among languages of different names, the one of a name is found in any order. -/
theorem find?_name_perm {languages others : List Language} (perm : languages.Perm others)
    (distinct : (languages.map Language.name).Nodup) (name : String) :
    (languages.find? fun other => other.name = name) =
      others.find? fun other => other.name = name := by
  have distinct' : (others.map Language.name).Nodup := (perm.map _).nodup_iff.mp distinct
  refine Option.ext fun language => ?_
  rw [find?_name_eq_some_iff distinct, find?_name_eq_some_iff distinct', perm.mem_iff]

namespace LanguageTable

/-- Every language stands under its own name. -/
def Filed (table : LanguageTable) : Prop :=
  ∀ name language, table.get? name = some language → language.name = name

theorem filed_empty : empty.Filed := by
  rintro name language ⟨⟩

theorem Filed.insert {table : LanguageTable} (filed : table.Filed) (language : Language) :
    (table.insert language).Filed := by
  intro name found stands
  rw [get?_insert] at stands
  split at stands
  · rename_i same
    rw [← Option.some.inj stands, same]
  · exact filed name found stands

theorem insertAll_concat (table : LanguageTable) (languages : List Language) (last : Language) :
    table.insertAll (languages ++ [last]) = (table.insertAll languages).insert last :=
  List.foldl_concat ..

theorem Filed.insertAll {table : LanguageTable} (filed : table.Filed) (languages : List Language) :
    (table.insertAll languages).Filed := by
  induction languages using List.reverseRecOn with
  | nil => exact filed
  | append_singleton languages last ih =>
    rw [insertAll_concat]
    exact ih.insert last

/-- **The language of a name is the last one that was added under it.** -/
theorem get?_insertAll (table : LanguageTable) (languages : List Language) (name : String) :
    (table.insertAll languages).get? name =
      (languages.reverse.find? fun language => language.name = name).or (table.get? name) := by
  induction languages using List.reverseRecOn with
  | nil => rfl
  | append_singleton languages last ih =>
    rw [insertAll_concat, get?_insert, List.reverse_concat]
    by_cases same : name = last.name
    · rw [if_pos same, List.find?_cons_of_pos (by simp [same]), Option.some_or]
    · rw [if_neg same, List.find?_cons_of_neg (by simpa using Ne.symm same), ih]

/-- **Languages of different names may be added in any order.** -/
theorem insertAll_perm (table : LanguageTable) {languages others : List Language}
    (perm : languages.Perm others) (distinct : (languages.map Language.name).Nodup) :
    table.insertAll languages = table.insertAll others := by
  have distinct' : (languages.reverse.map Language.name).Nodup := by
    rw [List.map_reverse, List.nodup_reverse]
    exact distinct
  have turned : languages.reverse.Perm others.reverse :=
    (List.reverse_perm _).trans (perm.trans (List.reverse_perm _).symm)
  have same : ∀ name, (table.insertAll languages).get? name =
      (table.insertAll others).get? name := by
    intro name
    rw [get?_insertAll, get?_insertAll, find?_name_perm turned distinct']
  have entries := SortedMap.ext_get? same
  calc table.insertAll languages = ⟨(table.insertAll languages).byName⟩ := rfl
    _ = ⟨(table.insertAll others).byName⟩ := by rw [entries]
    _ = table.insertAll others := rfl

/-! ### Languages in order -/

section Filed

variable {table : LanguageTable} (filed : table.Filed)

include filed

theorem mem_toList_iff {language : Language} :
    language ∈ table.toList ↔ table.get? language.name = some language := by
  unfold toList SortedMap.values
  rw [List.mem_map]
  constructor
  · rintro ⟨⟨name, language⟩, member, rfl⟩
    have stands : table.get? name = some language := SortedMap.get?_eq_some_iff.mpr member
    rw [filed name language stands, stands]
  · intro stands
    exact ⟨(language.name, language), SortedMap.get?_eq_some_iff.mp stands, rfl⟩

/-- The languages are listed in the order of their names. -/
theorem toList_pairwise : table.toList.Pairwise Language.Before := by
  unfold toList SortedMap.values
  rw [List.pairwise_map]
  refine table.byName.ascending.imp_of_mem ?_
  intro first second listed listed' less
  rw [Language.before_iff, filed first.1 first.2 (SortedMap.get?_eq_some_iff.mpr listed),
    filed second.1 second.2 (SortedMap.get?_eq_some_iff.mpr listed')]
  exact less

/-- The language for a path with the least name. -/
structure IsFirstFor (table : LanguageTable) (path : Path) (language : Language) : Prop where
  listed : language ∈ table.toList
  isFor : language.IsFor path
  least : ∀ other ∈ table.toList, other.IsFor path → other = language ∨ language.Before other

/-- **The language of a path is the first by name that is for it.** -/
theorem forPath?_eq_some_iff {path : Path} {language : Language} :
    table.forPath? path = some language ↔ table.IsFirstFor path language := by
  have ordered := toList_pairwise filed
  unfold forPath?
  constructor
  · intro found
    obtain ⟨claims, front, behind, cut, others⟩ := List.find?_eq_some_iff_append.mp found
    refine ⟨List.mem_of_find?_eq_some found, Language.claims_iff.mp claims, ?_⟩
    intro other listed isFor
    rw [cut, List.mem_append, List.mem_cons] at listed
    rcases listed with earlier | same | later
    · have passed := others other earlier
      rw [Language.claims_iff.mpr isFor] at passed
      cases passed
    · exact .inl same
    · rw [cut] at ordered
      have last := (List.pairwise_append.mp ordered).2.1
      exact .inr ((List.pairwise_cons.mp last).1 other later)
  · rintro ⟨listed, isFor, least⟩
    have claims := Language.claims_iff.mpr isFor
    obtain ⟨front, behind, cut⟩ := List.append_of_mem listed
    refine List.find?_eq_some_iff_append.mpr ⟨claims, front, behind, cut, ?_⟩
    intro other earlier
    rw [Bool.not_eq_true', Bool.eq_false_iff]
    intro claims'
    rw [cut] at ordered
    have before : other.Before language :=
      (List.pairwise_append.mp ordered).2.2 other earlier language List.mem_cons_self
    rw [Language.before_iff] at before
    rcases least other (cut ▸ List.mem_append_left _ earlier) (Language.claims_iff.mp claims')
      with rfl | behind
    · exact Std.lt_irrefl before
    · rw [Language.before_iff] at behind
      exact Std.lt_irrefl (Std.lt_trans before behind)

omit filed in
theorem isSome_forPath?_iff {path : Path} :
    (table.forPath? path).isSome = true ↔ ∃ language ∈ table.toList, language.IsFor path := by
  unfold forPath?
  rw [List.find?_isSome]
  simp only [Language.claims_iff]

/-- **A new language matters only for the paths that it is for**, or that the one which it replaces
is for. -/
theorem forPath?_insert_of_not_isFor {language : Language} {path : Path}
    (notNew : ¬ language.IsFor path)
    (notReplaced : ∀ replaced, table.get? language.name = some replaced → ¬ replaced.IsFor path) :
    (table.insert language).forPath? path = table.forPath? path := by
  have filed' := filed.insert language
  -- for the path, the two tables list the same languages
  have same : ∀ other, other.IsFor path →
      (other ∈ (table.insert language).toList ↔ other ∈ table.toList) := by
    intro other isFor
    rw [mem_toList_iff filed, mem_toList_iff filed', get?_insert]
    by_cases named : other.name = language.name
    · rw [if_pos named]
      constructor
      · intro stands
        rw [Option.some.inj stands] at notNew
        exact absurd isFor notNew
      · intro stands
        rw [named] at stands
        exact absurd isFor (notReplaced other stands)
    · rw [if_neg named]
  refine Option.ext fun found => ?_
  rw [forPath?_eq_some_iff filed, forPath?_eq_some_iff filed']
  constructor
  · rintro ⟨listed, isFor, least⟩
    refine ⟨(same found isFor).mp listed, isFor, ?_⟩
    intro other listed' isFor'
    exact least other ((same other isFor').mpr listed') isFor'
  · rintro ⟨listed, isFor, least⟩
    refine ⟨(same found isFor).mpr listed, isFor, ?_⟩
    intro other listed' isFor'
    exact least other ((same other isFor').mp listed') isFor'

end Filed

/-! ### The tables that can be built -/

/-- A table of known languages to which others were added. -/
structure IsOverlay (table : LanguageTable) (known added : List Language) : Prop where
  /-- The languages are listed in the order of their names. -/
  ordered : table.toList.Pairwise Language.Before
  /-- The listed languages are those that stand under their names. -/
  mem_toList : ∀ language, language ∈ table.toList ↔ table.get? language.name = some language
  /-- The last language that was added under a name counts, then the known one. -/
  get?_eq : ∀ name, table.get? name =
    (added.reverse.find? fun language => language.name = name).or
      (known.find? fun language => language.name = name)
  /-- The language of a path is the first by name that is for it. -/
  forPath?_eq_some : ∀ path language,
    table.forPath? path = some language ↔ table.IsFirstFor path language
  /-- A path has a language if there is one for it. -/
  isSome_forPath? : ∀ path,
    (table.forPath? path).isSome = true ↔ ∃ language ∈ table.toList, language.IsFor path
  /-- A new language changes the language of a path only if it or the replaced one is for it. -/
  changed : ∀ language path, (table.insert language).forPath? path ≠ table.forPath? path →
    language.IsFor path ∨
      ∃ replaced, table.get? language.name = some replaced ∧ replaced.IsFor path
  /-- Languages of different names may be added in any order. -/
  anyOrder : ∀ languages others : List Language, languages.Perm others →
    (languages.map Language.name).Nodup → table.insertAll languages = table.insertAll others

theorem isOverlay_of_filed {base : LanguageTable} (filed : base.Filed) {known : List Language}
    (same : ∀ name, base.get? name = known.find? fun language => language.name = name)
    (added : List Language) : IsOverlay (base.insertAll added) known added where
  ordered := toList_pairwise (filed.insertAll added)
  mem_toList _ := mem_toList_iff (filed.insertAll added)
  get?_eq name := by rw [get?_insertAll, same]
  forPath?_eq_some _ _ := forPath?_eq_some_iff (filed.insertAll added)
  isSome_forPath? _ := isSome_forPath?_iff
  changed language path differs := by
    by_contra neither
    rw [not_or, not_exists] at neither
    refine differs (forPath?_insert_of_not_isFor (filed.insertAll added) neither.1 ?_)
    intro replaced stands isFor
    exact neither.2 replaced ⟨stands, isFor⟩
  anyOrder _ _ := insertAll_perm (base.insertAll added)

theorem get?_builtin (name : String) :
    builtin.get? name = Language.builtin.find? fun language => language.name = name := by
  have distinct : (Language.builtin.map Language.name).Nodup := by decide
  rw [builtin, get?_insertAll, find?_name_perm (List.reverse_perm _).symm distinct]
  exact Option.or_none

/-- **Looking up languages in the tables that can be built**: from nothing, from the built-in
languages, and for a configuration. -/
theorem isOverlay_insertAll (added : List Language) :
    IsOverlay (empty.insertAll added) [] added ∧
      IsOverlay (builtin.insertAll added) Language.builtin added ∧
      ∀ config : Config,
        IsOverlay config.languageTable Language.builtin config.languages.values := by
  have filed : builtin.Filed := filed_empty.insertAll Language.builtin
  refine ⟨isOverlay_of_filed filed_empty (fun _ => rfl) added,
    isOverlay_of_filed filed get?_builtin added, fun config => ?_⟩
  exact isOverlay_of_filed filed get?_builtin config.languages.values

end LanguageTable

end CheckerFixtures
