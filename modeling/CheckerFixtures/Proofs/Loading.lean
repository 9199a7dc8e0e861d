/-
**Loading a directory.**

The fixtures of a directory are the files of a walk that no exclude pattern describes and whose
language is known. They are seen from the root by the names that lead to them, so sorting them by
path puts each strictly before the next, and what is loaded does not depend on the order of the
walk. Nothing else is asked of a walk than that it lists files of the directory, none twice.

* `excludes_iff`: the patterns are those that were given and those of the configuration;
* `fixtures_gather_pairwise`: different paths are strictly ascending once they are sorted;
* `gather_eq_of_perm`: so files in any order give the same collection;
* `filterMap_found?_walked`: what the listed files become, by their names;
* `loadBy_of_listing`: loading is complete, without duplicates, and the same for every order.
-/

import CheckerFixtures.Proofs.PathOrder
import CheckerFixtures.Proofs.Walking

namespace CheckerFixtures.Loader

/-! ### Patterns -/

/-- What is read from some items one after the other. -/
theorem mem_of_mapM_iff {ε α β : Type} {read : α → Except ε β} {items : List α} {results : List β}
    (done : items.mapM read = .ok results) (result : β) :
    result ∈ results ↔ ∃ item ∈ items, read item = .ok result := by
  induction items generalizing results with
  | nil =>
    cases done
    simp
  | cons item items ih =>
    rw [List.mapM_cons] at done
    cases first : read item with
    | error problem =>
      rw [first] at done
      cases done
    | ok value =>
      cases later : items.mapM read with
      | error problem =>
        rw [first, later] at done
        cases done
      | ok values =>
        rw [first, later] at done
        cases done
        rw [List.mem_cons, ih later, List.exists_mem_cons_iff, first, Except.ok.injEq, eq_comm]

variable {config : Config} {root? : Option Path} {patterns : List String}
  {workingDirectory : Path} {loader : Loader} {files other : List WalkedFile}

/-- **A path is left out for the sake of a given pattern or a configured one**, which describes it
as it was walked or as it is seen from the root. -/
theorem excludes_iff (built : ofConfig config root? patterns workingDirectory = .ok loader)
    (path : Path) :
    loader.excludes path = true ↔
      ∃ text ∈ patterns ++ config.exclude, ∃ pattern, ExcludePattern.parse text = .ok pattern ∧
        (pattern.accepts path.text = true ∨
          pattern.accepts (loader.relative path).text = true) := by
  obtain ⟨exclude, parsed, rfl⟩ := ofConfig_eq_ok_iff.mp built
  have read := mem_of_mapM_iff parsed
  rw [excludes, List.any_eq_true]
  simp only [Bool.or_eq_true, read]
  constructor
  · rintro ⟨pattern, ⟨text, listed, parsed⟩, described⟩
    exact ⟨text, listed, pattern, parsed, described⟩
  · rintro ⟨text, listed, pattern, parsed, described⟩
    exact ⟨pattern, ⟨text, listed, parsed⟩, described⟩

/-! ### Sorting -/

theorem inOrder_iff {first second : FoundFixture} :
    inOrder first second = true ↔ ¬ second.path.before first.path = true := by
  simp [inOrder]

theorem inOrder_total (first second : FoundFixture) :
    (inOrder first second || inOrder second first) = true := by
  rw [Bool.or_eq_true, inOrder_iff, inOrder_iff, ← not_and_or]
  rintro ⟨earlier, later⟩
  exact Path.before_asymm earlier later

theorem inOrder_trans (first second third : FoundFixture) (earlier : inOrder first second = true)
    (later : inOrder second third = true) : inOrder first third = true := by
  rw [inOrder_iff] at earlier later ⊢
  intro back
  by_cases ahead : first.path.before second.path = true
  · exact later (Path.before_trans back ahead)
  · have same := Path.components_eq_of_not_before ahead earlier
    exact later (Path.before_congr same third.path ▸ back)

/-- No two files are seen alike. -/
def SeenApart (loader : Loader) (files : List WalkedFile) : Prop :=
  files.Pairwise fun first second =>
    (loader.relative first.path).components ≠ (loader.relative second.path).components

theorem SeenApart.perm (apart : loader.SeenApart files) (order : other.Perm files) :
    loader.SeenApart other :=
  order.symm.pairwise apart fun differ => differ.symm

/-- **Different paths are strictly ascending once they are sorted.** -/
theorem fixtures_gather_pairwise (apart : loader.SeenApart files) :
    (loader.gather files).fixtures.Pairwise fun first second =>
      first.path.before second.path = true := by
  have differ : (files.filterMap loader.found?).Pairwise fun first second =>
      first.path.components ≠ second.path.components := by
    refine List.Pairwise.filterMap _ ?_ apart
    intro file file' differ first found second found'
    obtain ⟨language, -, rfl⟩ := Option.map_eq_some_iff.mp found
    obtain ⟨language', -, rfl⟩ := Option.map_eq_some_iff.mp found'
    exact differ
  have sorted := List.pairwise_mergeSort inOrder_trans inOrder_total
    (files.filterMap loader.found?)
  have sortedApart := (List.mergeSort_perm (files.filterMap loader.found?) inOrder).symm.pairwise
    differ fun differ => differ.symm
  refine sorted.imp₂ (fun first second inOrder differ => ?_) sortedApart
  by_contra notBefore
  exact differ (Path.components_eq_of_not_before notBefore (inOrder_iff.mp inOrder))

/-- **Files in any order give the same collection**, if no two are seen alike. -/
theorem gather_eq_of_perm (apart : loader.SeenApart files) (order : other.Perm files) :
    loader.gather other = loader.gather files := by
  have fixtures : (loader.gather other).fixtures = (loader.gather files).fixtures := by
    refine List.Perm.eq_of_pairwise ?_ (fixtures_gather_pairwise (apart.perm order))
      (fixtures_gather_pairwise apart) ?_
    · intro first second _ _ earlier later
      exact absurd later (Path.before_asymm earlier)
    · exact (List.mergeSort_perm _ _).trans
        ((order.filterMap _).trans (List.mergeSort_perm _ _).symm)
  have skipped : (loader.gather other).skipped = (loader.gather files).skipped :=
    (order.filter _).length_eq
  unfold gather at fixtures skipped ⊢
  rw [Collection.mk.injEq]
  exact ⟨fixtures, skipped⟩

/-- What is loaded is, up to the order, what the files are that have a known language. -/
theorem fixtures_gather_perm (loader : Loader) (files : List WalkedFile) :
    (loader.gather files).fixtures.Perm (files.filterMap loader.found?) :=
  List.mergeSort_perm _ _

/-- What is loaded are candidates. -/
theorem exists_file_of_load {tree : FileTree} {collection : Collection} {found : FoundFixture}
    (loaded : loader.load tree = .ok collection)
    (member : found ∈ collection.fixtures) :
    ∃ files, loader.candidates tree = .ok files ∧
      ∃ file ∈ files, loader.found? file = some found := by
  rw [load_eq] at loaded
  cases read : loader.candidates tree with
  | error problem =>
    rw [read] at loaded
    cases loaded
  | ok files =>
    rw [read] at loaded
    cases loaded
    have listed := (fixtures_gather_perm loader files).mem_iff.mp member
    exact ⟨files, rfl, List.mem_filterMap.mp listed⟩

/-! ### Loading -/

/-- The files of a listing that no exclude pattern describes. -/
def unexcluded (loader : Loader) (found : List (Place × List UInt8)) : List (Place × List UInt8) :=
  found.filter fun file => !loader.excludes (loader.walkedPath file.1)

/-- The fixture that a file of some language becomes, by the names that lead to it. -/
def fixtureOf (file : Place × List UInt8) (language : Language) : FoundFixture where
  path := seenPath file.1
  language := language.name
  fixture := .ofBytes (file.1.getLast?.getD "") file.2 language.tokens

theorem kept_walked (loader : Loader) (found : List (Place × List UInt8)) :
    loader.kept (loader.walked found) = loader.walked (loader.unexcluded found) :=
  List.filter_map

section

variable {tree : FileTree} {place : Place} {found : List (Place × List UInt8)}

/-- **What the listed files become**, by the names that lead to them. -/
theorem filterMap_found?_walked (listing : tree.IsListing place found) (proper : tree.IsProper)
    (some : loader.root.text ≠ "") :
    (loader.walked found).filterMap loader.found? = found.filterMap fun file =>
      (loader.languages.forPath? (loader.walkedPath file.1)).map (fixtureOf file) := by
  rw [walked, List.filterMap_map]
  refine List.filterMap_congr fun file listed => ?_
  have name : ((loader.walkedPath file.1).fileName?.getD (loader.walkedPath file.1).text) =
      file.1.getLast?.getD "" := by
    rw [listing.fileName?_walkedPath proper listed,
      List.getLast?_eq_some_getLast (listing.below file listed)]
    rfl
  unfold Function.comp found? fixtureOf
  dsimp only
  rw [listing.relative proper some listed, name]

/-- The listed files of no known language are skipped. -/
theorem skipped_gather_walked (loader : Loader) (found : List (Place × List UInt8)) :
    (loader.gather (loader.walked found)).skipped = found.countP fun file =>
      (loader.languages.forPath? (loader.walkedPath file.1)).isNone := by
  unfold gather walked found?
  simp only [Option.isNone_map, List.filter_map, List.length_map, List.countP_eq_length_filter]
  rfl

/-- **Loading a directory is complete, without duplicates, and the same for every order** in which
its files are walked. A walk that lists files of the directory, none twice, is always loaded. Each
file is seen as the names that lead to it from the root. It is left out if a given or a configured
pattern describes it as it was walked or as it is seen; else it becomes one fixture or is skipped,
by its language. The walk under the ignore rules, those of the user among them, is such a walk. -/
theorem loadBy_of_listing {walk : Walk}
    (built : ofConfig config root? patterns workingDirectory = .ok loader)
    (proper : tree.IsProper)
    (isDirectory : tree.locate [] loader.root = .ok (place, .directory))
    (listing : tree.IsListing place (walk place)) :
    ∃ collection, loader.loadBy tree walk = .ok collection ∧
      (∀ other : Walk, (other place).Perm (walk place) →
        loader.loadBy tree other = .ok collection) ∧
      (∀ file ∈ walk place, loader.relative (loader.walkedPath file.1) = seenPath file.1 ∧
        (loader.walkedPath file.1).components =
          loader.root.components ++ (seenPath file.1).components) ∧
      (∀ file ∈ walk place, file ∈ loader.unexcluded (walk place) ↔
        ¬ ∃ text ∈ patterns ++ config.exclude, ∃ pattern,
          ExcludePattern.parse text = .ok pattern ∧
            (pattern.accepts (loader.walkedPath file.1).text = true ∨
              pattern.accepts (seenPath file.1).text = true)) ∧
      collection.fixtures.Perm ((loader.unexcluded (walk place)).filterMap fun file =>
        (config.languageTable.forPath? (loader.walkedPath file.1)).map (fixtureOf file)) ∧
      collection.skipped = ((loader.unexcluded (walk place)).countP fun file =>
        (config.languageTable.forPath? (loader.walkedPath file.1)).isNone) ∧
      (collection.fixtures.Pairwise fun first second =>
        first.path.before second.path = true) ∧
      collection.fixtures.length + collection.skipped =
        (loader.unexcluded (walk place)).length ∧
      ∀ rules : Ignore.UserRules, ∃ visible : Walk, tree.IsListing place (visible place) ∧
        ({ loader with userRules := rules } : Loader).load tree = loader.loadBy tree visible := by
  have some := (FileTree.locate_eq_ok_iff.mp isDirectory).1
  have languages : loader.languages = config.languageTable := by
    obtain ⟨exclude, -, rfl⟩ := ofConfig_eq_ok_iff.mp built
    rfl
  have kept : tree.IsListing place (loader.unexcluded (walk place)) := listing.filter _
  have loads : ∀ other : Walk, loader.loadBy tree other =
      .ok (loader.gather (loader.walked (loader.unexcluded (other place)))) := by
    intro other
    rw [loader.loadBy_directory other isDirectory, collect, kept_walked]
  have apart : loader.SeenApart (loader.walked (loader.unexcluded (walk place))) :=
    kept.pairwise_walked proper some
  have seen : ∀ file ∈ walk place, loader.relative (loader.walkedPath file.1) = seenPath file.1 :=
    fun file listed => listing.relative proper some listed
  refine ⟨_, loads walk, fun other order => ?_, fun file listed => ⟨seen file listed, ?_⟩,
    fun file listed => ?_, ?_, ?_, fixtures_gather_pairwise apart, ?_, fun rules => ?_⟩
  · have order' : (loader.walked (loader.unexcluded (other place))).Perm
        (loader.walked (loader.unexcluded (walk place))) := (order.filter _).map _
    rw [loads other, gather_eq_of_perm apart order']
  · exact listing.components_walkedPath proper listed
  · rw [unexcluded, List.mem_filter, and_iff_right listed, ← seen file listed,
      ← excludes_iff built, Bool.not_eq_true', Bool.not_eq_true]
  · rw [← languages, ← filterMap_found?_walked kept proper some]
    exact fixtures_gather_perm loader _
  · rw [skipped_gather_walked, languages]
  · rw [length_add_skipped, walked, List.length_map]
  · exact ⟨_, isListing_visible { loader with userRules := rules } tree place, rfl⟩

end

/-- A tree with a file to leave out, one of no known language, and two fixtures. -/
def fourFiles : FileTree :=
  (((FileTree.empty.addFile ["w", "a.go"] []).addFile ["w", "a", "x.go"] []).addFile
    ["w", "notes"] []).addFile ["w", "skip.go"] []

/-- A loader that leaves out what begins with a word. -/
def skippingLoader : Loader where
  root := ⟨"/w/."⟩
  exclude := [⟨[.char 's', .char 'k', .char 'i', .char 'p', .anyText]⟩]
  languages := .builtin
  useIgnoreFiles := true

/-- A walk that goes from the last name to the first. -/
def backwards : Walk := fun _ => [(["skip.go"], []), (["notes"], []), (["a.go"], []),
  (["a", "x.go"], [])]

theorem loadBy_of_listing_fourFiles :
    ofConfig { exclude := [] } none ["skip*"] ⟨"/w"⟩ = .ok skippingLoader ∧
      fourFiles.IsListing ["w"] (backwards ["w"]) ∧
      skippingLoader.relative ⟨"/w/./a/x.go"⟩ = ⟨"a/x.go"⟩ ∧
      ∃ collection, skippingLoader.loadBy fourFiles backwards = .ok collection ∧
        skippingLoader.load fourFiles = .ok collection ∧
        collection.fixtures.length + collection.skipped = 3 := by
  have built : ofConfig { exclude := [] } none ["skip*"] ⟨"/w"⟩ = .ok skippingLoader := by
    have pattern : ExcludePattern.parse "skip*" =
        .ok ⟨[.char 's', .char 'k', .char 'i', .char 'p', .anyText]⟩ := by
      decide +kernel
    have root : (⟨"/w"⟩ : Path).join ⟨"."⟩ = ⟨"/w/."⟩ := by decide
    unfold ofConfig
    rw [List.append_nil, List.mapM_cons, pattern]
    show Except.ok { skippingLoader with root := (⟨"/w"⟩ : Path).join ⟨"."⟩ } = _
    rw [root]
    rfl
  have listing : fourFiles.IsListing ["w"] (backwards ["w"]) :=
    ⟨by decide, by decide, by decide⟩
  have order : (skippingLoader.visible fourFiles ["w"]).Perm (backwards ["w"]) := by decide
  have inside : (["a", "x.go"], []) ∈ backwards ["w"] := by decide
  obtain ⟨collection, loaded, anyOrder, seen, -, -, -, -, total, -⟩ :=
    loadBy_of_listing built (by decide) (by decide) listing
  refine ⟨built, listing, ?_, collection, loaded, anyOrder _ order, ?_⟩
  · exact (seen _ inside).1.trans (by decide)
  · exact total.trans (by decide +kernel)

end CheckerFixtures.Loader
