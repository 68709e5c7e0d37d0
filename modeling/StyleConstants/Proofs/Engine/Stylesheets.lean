import StyleConstants.Proofs.Closure.Reachable
import StyleConstants.Proofs.Closure.Visits
import StyleConstants.Proofs.Engine.Submission

/-!
# Only stylesheets are read

A path is resolved by its name: what a path with a file name means has the extension of a dialect.
Imports are resolved from paths that end in their own name, so the same holds of every file that a
search reads, and of every file that gets an entry in the cache. A path without a file name has
nothing that an extension could be put on. It means itself, whatever the file there is called.

* `IsStylesheet`: the places whose name has the extension of a dialect.
* `MemoryTree.extension?_place_iff`: which paths are resolved to files with the right extension.
* `MemoryTree.isStylesheet_of_mem_read`: a search reads stylesheets only.
* `Engine.only_stylesheets_are_read`: so does every run.
* `Engine.notes_are_read`: a file with another extension that is read.
-/

namespace StyleConstants

open StyleConstants.Path

/-- The name has the extension of a dialect. -/
def IsStylesheet (file : Path) : Prop :=
  ∃ dialect : Dialect, file.extension? = some dialect.extension

namespace MemoryTree

variable {tree : MemoryTree} {path entry : Path} {source : Source}

theorem extension?_place (h : path.IsDirect) : (place path).extension? = path.extension? :=
  (extension?_congr (alike_place h)).symm

theorem extension?_place_of_extension? {extension : String} (h : path.extension? = some extension) :
    (place path).extension? = some extension := by
  obtain ⟨-, -, hdirect⟩ := isDirect_of_extension? h
  rw [extension?_place hdirect, h]

/-- A path with a file name is resolved to a file with the extension of its dialect, and one without
only if the file to which it leads happens to have that of the dialect tried first. -/
theorem extension?_place_iff (hsource : Source.resolve tree.fileSystem.isFile path = .ok source) :
    (place source.path).extension? = some source.dialect.extension ↔
      path.fileName?.isSome = true ∨ (place path).extension? = some "sass" := by
  cases hname : path.fileName? with
  | some name =>
    have hextension := Source.extension?_of_resolve hname hsource
    exact iff_of_true (extension?_place_of_extension? hextension) (.inl rfl)
  | none =>
    obtain rfl := Source.eq_of_resolve hname hsource
    exact (or_iff_right Bool.false_ne_true).symm

/-! ## What a search reads -/

section Search

variable (hroot : tree.contents? rootPath = none)

include hroot

/-- With no file at the root, a path that ends in its own name or in none leads to stylesheets
only. -/
theorem isStylesheet_of_resolve (h : path.IsDirect)
    (hsource : Source.resolve tree.fileSystem.isFile path = .ok source) :
    IsStylesheet (place source.path) :=
  ⟨source.dialect, extension?_place_of_extension? (extension?_of_resolve hroot h hsource)⟩

theorem isStylesheet_of_mem_afterReading {found : Closure} (h : path.IsDirect)
    (hsource : Source.resolve tree.fileSystem.isFile path = .ok source)
    (hread : ∀ other ∈ found.read, IsStylesheet (place other)) :
    ∀ other ∈ (found.afterReading source.path).read, IsStylesheet (place other) :=
  List.forall_mem_cons.2 ⟨isStylesheet_of_resolve hroot h hsource, hread⟩

/-- What is pending comes from imports, and these end in their own name, however the importing file
was met. -/
theorem isStylesheet_of_mem_follow {found : Closure} {pending : List Path}
    (hpending : ∀ path ∈ pending, path.IsDirect)
    (hread : ∀ path ∈ found.read, IsStylesheet (place path)) :
    ∀ path ∈ (Closure.follow tree.fileSystem found pending).1.read, IsStylesheet (place path) := by
  fun_induction Closure.follow tree.fileSystem found pending with
  | case1 => exact hread
  | case2 => exact hread
  | case3 found path pending source hsource _ ih =>
    exact ih (List.forall_mem_cons.1 hpending).2 hread
  | case4 found path pending source hsource =>
    exact isStylesheet_of_mem_afterReading hroot (hpending path List.mem_cons_self) hsource hread
  | case5 found path pending source hsource =>
    exact isStylesheet_of_mem_afterReading hroot (hpending path List.mem_cons_self) hsource hread
  | case6 found path pending source hsource _ text _ sheet _ ih =>
    obtain ⟨hdirect, hpending⟩ := List.forall_mem_cons.1 hpending
    refine ih ?_ (isStylesheet_of_mem_afterReading hroot hdirect hsource hread)
    intro other hother
    rcases List.mem_append.1 hother with hother | hother
    · obtain ⟨argument, -, rfl⟩ := List.mem_map.1 hother
      exact isDirect_importTarget _ _
    · exact hpending other hother

theorem isStylesheet_of_mem_read (h : entry.IsDirect) :
    ∀ path ∈ (tree.fileSystem.search entry).1.read, IsStylesheet (place path) :=
  isStylesheet_of_mem_follow hroot (List.forall_mem_singleton.2 h) (fun _ hpath => nomatch hpath)

end Search

end MemoryTree

namespace Engine

open MemoryTree

variable {engine : Engine} {state : State} {path : Path}

theorem reads_allValues {target key : Path} (hlocate : state.locate path = .ok (target, key))
    (hcomplete : state.cache.isComplete key = false) :
    (engine.allValues state path).2.reads =
      state.reads ++ (state.files.search target).1.read.reverse := by
  rw [allValues_of_search hlocate hcomplete, declaredNames_snd]
  split
  · rfl
  · dsimp only
    split <;> rfl

theorem reads_namedValues (names : List String) :
    (engine.namedValues state path names).2.reads = state.reads := by
  cases hlocate : state.locate path with
  | error fault => rw [namedValues_of_unlocated hlocate]
  | ok place =>
    obtain ⟨target, key⟩ := place
    rw [namedValues_eq hlocate]
    dsimp only
    split
    · rfl
    · split
      · split
        · rfl
        · split <;> rfl
      · rfl

/-- A request reads what a search from the file reads that its path leads to, or nothing. -/
theorem reads_serve {wanted : Request} {file : Path}
    (hfile : file ∈ (engine.serve state wanted).2.reads) :
    file ∈ state.reads ∨ ∃ target key, state.locate wanted.path = .ok (target, key) ∧
      file ∈ (state.files.search target).1.read := by
  cases wanted with
  | named path names =>
    rw [serve, reads_namedValues] at hfile
    exact .inl hfile
  | all path =>
    rw [serve] at hfile
    cases hlocate : state.locate path with
    | error fault =>
      rw [allValues_of_unlocated hlocate] at hfile
      exact .inl hfile
    | ok place =>
      obtain ⟨target, key⟩ := place
      cases hcomplete : state.cache.isComplete key with
      | true =>
        rw [allValues_of_isComplete hlocate hcomplete] at hfile
        exact .inl hfile
      | false =>
        rw [reads_allValues hlocate hcomplete] at hfile
        rcases List.mem_append.1 hfile with hfile | hfile
        · exact .inl hfile
        · exact .inr ⟨target, key, hlocate, List.mem_reverse.1 hfile⟩

/-- The files are kept in memory, none of them at the root, and stylesheets are all that was read
and all that the cache knows of. -/
structure State.Stylesheets (state : State) : Prop where
  files : ∃ tree : MemoryTree, state.files = tree.fileSystem ∧ tree.contents? rootPath = none
  read : ∀ path ∈ state.reads, IsStylesheet (place path)
  entry : ∀ key, (state.cache.get? key).isSome = true → IsStylesheet key
  mark : ∀ key, state.cache.isComplete key = true → IsStylesheet key

namespace State.Stylesheets

theorem fresh {tree : MemoryTree} (hroot : tree.contents? rootPath = none) :
    (State.fresh tree.fileSystem).Stylesheets where
  files := ⟨tree, rfl, hroot⟩
  read _ hpath := nomatch hpath
  entry _ hentry := nomatch hentry
  mark _ hmark := nomatch hmark

theorem located (h : state.Stylesheets) (hdirect : path.IsDirect) {target key : Path}
    (hlocate : state.locate path = .ok (target, key)) : target.IsDirect ∧ IsStylesheet key := by
  obtain ⟨tree, hfiles, hroot⟩ := h.files
  unfold State.locate at hlocate
  rw [hfiles] at hlocate
  split at hlocate
  · rename_i source hsource
    cases hlocate
    obtain ⟨-, -, hsourceDirect⟩ :=
      isDirect_of_extension? (MemoryTree.extension?_of_resolve hroot hdirect hsource)
    refine ⟨hsourceDirect, ?_⟩
    rw [canonical_fileSystem]
    exact isStylesheet_of_resolve hroot hdirect hsource
  · cases hlocate

/-- The cache changes at the file that the path leads to, and this is a stylesheet. -/
theorem cache_of_effect {later : State} (h : state.Stylesheets) (hdirect : path.IsDirect)
    (heffect : Effect path state later) (key : Path) : IsStylesheet key ∨
      later.cache.get? key = state.cache.get? key ∧
        later.cache.isComplete key = state.cache.isComplete key := by
  cases hlocate : state.locate path with
  | error fault =>
    rw [heffect.unlocated hlocate]
    exact .inr ⟨rfl, rfl⟩
  | ok place =>
    obtain ⟨target, located⟩ := place
    cases hsame : located.sameAs key with
    | false => exact .inr ((heffect.located hlocate).other hsame)
    | true =>
      obtain ⟨dialect, hdialect⟩ := (h.located hdirect hlocate).2
      refine .inl ⟨dialect, ?_⟩
      rw [extension?, fileName?, ← Path.sameAs_iff.1 hsame]
      exact hdialect

theorem serve (h : state.Stylesheets) {wanted : Request} (hdirect : wanted.path.IsDirect) :
    (engine.serve state wanted).2.Stylesheets := by
  have heffect : Effect wanted.path state (engine.serve state wanted).2 := effect_serve wanted
  have hcache := h.cache_of_effect hdirect heffect
  refine ⟨heffect.files ▸ h.files, ?_, ?_, ?_⟩
  · intro path hpath
    rcases reads_serve hpath with hpath | ⟨target, key, hlocate, hpath⟩
    · exact h.read path hpath
    · obtain ⟨tree, hfiles, hroot⟩ := h.files
      rw [hfiles] at hpath
      exact isStylesheet_of_mem_read hroot (h.located hdirect hlocate).1 path hpath
  · intro key hentry
    rcases hcache key with hkey | ⟨hsame, -⟩
    · exact hkey
    · exact h.entry key (hsame ▸ hentry)
  · intro key hmark
    rcases hcache key with hkey | ⟨-, hsame⟩
    · exact hkey
    · exact h.mark key (hsame ▸ hmark)

theorem serves {later : State} (h : state.Stylesheets) (hdirect : path.IsDirect)
    (hserves : engine.Serves path state later) : later.Stylesheets := by
  induction hserves with
  | refl => exact h
  | tail _ hturn ih =>
    obtain ⟨wanted, rfl, rfl⟩ := hturn
    exact ih.serve hdirect

end State.Stylesheets

/-- Requests are made by paths with a file name, and files are kept in memory, none of them at the
root. What is imported or loaded is named by any argument. -/
def Event.IsNamed : Event → Prop
  | .request wanted => wanted.path.fileName?.isSome = true
  | .changing files =>
    ∃ tree : MemoryTree, files = tree.fileSystem ∧ tree.contents? rootPath = none
  | .importing _ _ | .requiring _ _ | .looking _ => True

theorem stylesheets_after (h : state.Stylesheets) {event : Event} (hevent : event.IsNamed) :
    (engine.after state event).Stylesheets := by
  cases event with
  | request wanted =>
    obtain ⟨name, hname⟩ := Option.isSome_iff_exists.1 hevent
    exact h.serve (isDirect_of_fileName? hname)
  | importing importer wanted =>
    exact h.serves (isDirect_importTarget _ _) (serves_importConstants importer wanted)
  | requiring importer specifier =>
    exact h.serves (isDirect_importTarget _ _) (serves_requireValues importer specifier)
  | looking path => exact h
  | changing files => exact ⟨hevent, h.read, h.entry, h.mark⟩

theorem stylesheets_run (h : state.Stylesheets) {events : List Event}
    (hevents : ∀ event ∈ events, event.IsNamed) : (engine.run state events).Stylesheets := by
  induction events generalizing state with
  | nil => exact h
  | cons event events ih =>
    obtain ⟨hevent, hevents⟩ := List.forall_mem_cons.1 hevents
    exact ih (stylesheets_after h hevent) hevents

/-- **Only stylesheets are read.** A path is resolved to a file that is there. The name of the file
has the extension of the dialect exactly if the path has a file name, or leads to a file with the
extension that is tried first. In every run with such paths and no file at the root, whatever is
imported and however the files change, all files read, all that have an entry in the cache and all
that are marked there have the extension of a dialect. -/
theorem only_stylesheets_are_read (tree : MemoryTree) :
    (∀ path source, Source.resolve tree.fileSystem.isFile path = .ok source →
      (tree.contents? source.path).isSome = true ∧
      ((place source.path).extension? = some source.dialect.extension ↔
        path.fileName?.isSome = true ∨ (place path).extension? = some "sass")) ∧
    ∀ (engine : Engine) (events : List Event), tree.contents? rootPath = none →
      (∀ event ∈ events, event.IsNamed) →
        let state := engine.run (.fresh tree.fileSystem) events
        (∀ path ∈ state.reads, IsStylesheet (place path)) ∧
        ∀ key, (state.cache.get? key).isSome = true ∨ state.cache.isComplete key = true →
          IsStylesheet key := by
  refine ⟨?_, ?_⟩
  · intro path source hsource
    exact ⟨Source.isFile_of_resolve hsource, extension?_place_iff hsource⟩
  · intro engine events hroot hevents state
    have hstate : state.Stylesheets := stylesheets_run (.fresh hroot) hevents
    refine ⟨hstate.read, ?_⟩
    rintro key (hentry | hmark)
    · exact hstate.entry key hentry
    · exact hstate.mark key hmark

/-- A file that is no stylesheet. -/
def notesTree : MemoryTree := MemoryTree.empty.add (.ofText "/notes.txt") "$a: 1".toUTF8.toList

def notesSheet : Stylesheet := ⟨[⟨1, .variable ⟨"a", "1", false, false⟩⟩]⟩

/-- A path without a file name that leads to the file. -/
def notesPath : Path := .ofText "/notes.txt/x/.."

/-- A path that ends in two dots is taken for a stylesheet, whatever the file is to which it leads;
the file is read, and values are kept for it. -/
theorem notes_are_read :
    Source.resolve notesTree.fileSystem.isFile notesPath = .ok ⟨notesPath, .indented⟩ ∧
      place notesPath = .ofText "/notes.txt" ∧ (place notesPath).extension? = some "txt" ∧
      ¬ IsStylesheet (place notesPath) ∧
      ∀ engine : Engine,
        (engine.allValues (.fresh notesTree.fileSystem) notesPath).2.reads = [notesPath] ∧
        ((engine.namedValues (.fresh notesTree.fileSystem) notesPath []).2.cache.get?
          (.ofText "/notes.txt")).isSome = true := by
  have hsource : Source.resolve notesTree.fileSystem.isFile notesPath =
      .ok ⟨notesPath, .indented⟩ := rfl
  have hplace : place notesPath = .ofText "/notes.txt" := by decide +kernel
  have hextension : (place notesPath).extension? = some "txt" := by decide +kernel
  have hlocate : (State.fresh notesTree.fileSystem).locate notesPath =
      .ok (notesPath, .ofText "/notes.txt") := by
    rw [← hplace]
    rfl
  have hholds : Closure.Holds notesTree.fileSystem ⟨notesPath, .indented⟩
      notesSheet :=
    ⟨"$a: 1".toList, by decide +kernel, by decide +kernel⟩
  have himports : notesSheet.imports = [] := rfl
  refine ⟨hsource, hplace, hextension, ?_, fun engine => ⟨?_, ?_⟩⟩
  · rintro ⟨dialect, hdialect⟩
    rw [hextension] at hdialect
    cases dialect <;> exact absurd hdialect (by decide)
  · have hmeets : Closure.Meets notesTree.fileSystem .empty notesPath ⟨notesPath, .indented⟩ :=
      ⟨hsource, rfl⟩
    rw [reads_allValues hlocate rfl]
    dsimp only [State.fresh]
    rw [FileSystem.search, hmeets.follow_of_holds hholds]
    rw [himports, List.map_nil, List.nil_append, List.nil_append, Closure.follow]
    rfl
  · rw [namedValues_of_known hlocate fun _ hname => absurd hname List.not_mem_nil]
    rfl

end Engine

end StyleConstants
