import StyleConstants.Proofs.Closure.Visits
import StyleConstants.Proofs.Files.Linked
import StyleConstants.Proofs.Text.Lossy

/-!
# Files that are reached in several ways

An import is resolved against the path by which the importing file was reached, and a file is passed
over when it is reached again by another path. On a disk with links, one file may be reached in two
directories, and import different files from each. Those that it imports from the second directory
are not searched.

* `FileSystem.Reaches`: the paths that an entry path leads to, each as it was reached.
* `FileSystem.Agrees`: a file reached in several ways has one dialect and imports the same files.
* `LinkedTree.repeated_files_are_found`: what a search finds, and when it finds all.
* `LinkedTree.link_hides_declaration`: a file reached again that imports another file than before.
-/

namespace StyleConstants

/-! ## What an entry path leads to -/

namespace FileSystem

open Closure

variable {files : FileSystem} {entry : Path} {source a b : Source} {sheet : Stylesheet}

/-- The sources that an entry path leads to, directly or through imports, which are resolved against
the path of the importing source. -/
inductive Reaches (files : FileSystem) (entry : Path) : Source → Prop
  | entry {source : Source} : Source.resolve files.isFile entry = .ok source →
    Reaches files entry source
  | imported {source next : Source} {sheet : Stylesheet} {argument : String} :
    Reaches files entry source → Holds files source sheet → argument ∈ sheet.imports →
    Source.resolve files.isFile (source.path.importTarget argument) = .ok next →
    Reaches files entry next

/-- Sources that are one file are read in one dialect, and what they import is one file as well. -/
structure Agrees (files : FileSystem) (entry : Path) : Prop where
  dialect : ∀ {a b : Source}, files.Reaches entry a → files.Reaches entry b →
    files.canonical a.path = files.canonical b.path → a.dialect = b.dialect
  imports : ∀ {a b next next' : Source} {sheet : Stylesheet} {argument : String},
    files.Reaches entry a → files.Reaches entry b →
    files.canonical a.path = files.canonical b.path →
    Holds files a sheet → argument ∈ sheet.imports →
    Source.resolve files.isFile (a.path.importTarget argument) = .ok next →
    Source.resolve files.isFile (b.path.importTarget argument) = .ok next' →
      files.canonical next.path = files.canonical next'.path

theorem Reaches.isFile (h : files.Reaches entry source) : files.isFile source.path = true := by
  cases h with
  | entry hsource => exact Source.isFile_of_resolve hsource
  | imported _ _ _ hnext => exact Source.isFile_of_resolve hnext

end FileSystem

namespace Closure

variable {files : FileSystem} {entry : Path} {source a b : Source} {sheet sheet' : Stylesheet}
  {found : Closure} {pending : List Path}

theorem Holds.unique (h : Holds files source sheet) (h' : Holds files source sheet') :
    sheet = sheet' := by
  obtain ⟨text, htext, hsheet⟩ := h
  obtain ⟨text', htext', hsheet'⟩ := h'
  cases htext.symm.trans htext'
  exact Except.ok.inj (hsheet.symm.trans hsheet')

/-- Sources that are one file hold the same, if they are read in one dialect. -/
theorem Holds.congr (hread : files.read a.path = files.read b.path)
    (hdialect : a.dialect = b.dialect) (h : Holds files a sheet) : Holds files b sheet := by
  obtain ⟨text, htext, hsheet⟩ := h
  rw [FileSystem.readText, hread, ← FileSystem.readText] at htext
  exact ⟨text, htext, hdialect ▸ hsheet⟩

theorem isClosed_reaches (files : FileSystem) (entry : Path) :
    IsClosed files (files.Reaches entry) :=
  fun _ _ hreaches hholds _ hargument _ hnext => .imported hreaches hholds hargument hnext

/-- No file is read that was read before. -/
theorem nodup_read_follow (h : (found.read.map files.canonical).Nodup) :
    ((follow files found pending).1.read.map files.canonical).Nodup := by
  fun_induction follow files found pending with
  | case1 => exact h
  | case2 => exact h
  | case3 _ _ _ _ _ _ ih => exact ih h
  | case4 _ _ _ _ hsource hread =>
    exact Meets.nodup_read ⟨hsource, Bool.eq_false_iff.2 hread⟩ h
  | case5 _ _ _ _ hsource hread =>
    exact Meets.nodup_read ⟨hsource, Bool.eq_false_iff.2 hread⟩ h
  | case6 _ _ _ _ hsource hread _ _ _ _ ih =>
    exact ih (Meets.nodup_read ⟨hsource, Bool.eq_false_iff.2 hread⟩ h)

/-- Where nothing is at fault, nothing else is reached. -/
theorem Faultless.of_reaches {Reached : Source → Prop} (h : Faultless files Reached [entry])
    (hreaches : files.Reaches entry source) : Reached source := by
  induction hreaches with
  | entry hsource =>
    obtain ⟨first, hfirst, hreached⟩ := h.pending_resolves entry List.mem_cons_self
    cases hfirst.symm.trans hsource
    exact hreached
  | imported _ hholds hargument hnext ih =>
    obtain ⟨sheet, hsheet, himports⟩ := h.reached_reads _ ih
    obtain rfl := hsheet.unique hholds
    obtain ⟨next, hresolve, hreached⟩ := himports _ hargument
    cases hresolve.symm.trans hnext
    exact hreached

section Search

variable (h : Invariant files (files.Reaches entry) [entry] found [])

include h

/-- What the search knows of a file that it has read, from the path under which it read it. -/
theorem Invariant.exists_reader {name : Path} (hread : found.hasRead files name = true) :
    ∃ reader sheet, files.Reaches entry reader ∧ files.canonical reader.path = name ∧
      Holds files reader sheet ∧ (∀ name ∈ sheet.variableNames, name ∈ found.names) ∧
      ∀ argument ∈ sheet.imports, found.Led files (reader.path.importTarget argument) := by
  obtain ⟨path, hpath, hname⟩ := exists_of_hasRead hread
  obtain ⟨reader, sheet, rfl, hreaches, hholds, hnames, himports⟩ := h.read_held path hpath
  refine ⟨reader, sheet, hreaches, hname, hholds, hnames, fun argument hargument => ?_⟩
  exact (himports argument hargument).resolve_left List.not_mem_nil

variable (hfaithful : files.IsFaithful) (hagrees : files.Agrees entry)

include hfaithful hagrees

/-- What a source holds that was read, maybe by another path. -/
theorem Invariant.exists_holds (hreaches : files.Reaches entry source)
    (hread : found.hasRead files (files.canonical source.path) = true) :
    ∃ sheet, Holds files source sheet ∧ (∀ name ∈ sheet.variableNames, name ∈ found.names) ∧
      ∀ argument ∈ sheet.imports, ∀ next,
        Source.resolve files.isFile (source.path.importTarget argument) = .ok next →
          found.hasRead files (files.canonical next.path) = true := by
  obtain ⟨reader, sheet, hreader, hsame, hholds, hnames, himports⟩ := h.exists_reader hread
  have hcontent := hfaithful _ _ hreader.isFile hreaches.isFile hsame
  refine ⟨sheet, hholds.congr hcontent (hagrees.dialect hreader hreaches hsame), hnames, ?_⟩
  intro argument hargument next hnext
  obtain ⟨first, hfirst, hfirstRead⟩ := himports argument hargument
  rwa [← hagrees.imports hreader hreaches hsame hholds hargument hfirst hnext]

theorem Invariant.hasRead_of_reaches (hreaches : files.Reaches entry source) :
    found.hasRead files (files.canonical source.path) = true := by
  induction hreaches with
  | entry hsource =>
    rcases h.seeds_led entry List.mem_cons_self with hpending | ⟨first, hfirst, hread⟩
    · cases hpending
    · cases hfirst.symm.trans hsource
      exact hread
  | imported hreaches hholds hargument hnext ih =>
    obtain ⟨sheet, hsheet, -, himports⟩ := h.exists_holds hfaithful hagrees hreaches ih
    obtain rfl := hsheet.unique hholds
    exact himports _ hargument _ hnext

end Search

end Closure

namespace LinkedTree

open Closure

/-- **Files reached again.** A search reads each file once, by the path under which it is met first,
and finds what the files read declare. It follows their imports from these paths. If files that are
reached in several ways are read in one dialect and import the same files each time, then the search
finds what all the sources declare that the entry path leads to. -/
theorem repeated_files_are_found (tree : LinkedTree)
    (hbase : ∀ name ∈ tree.workingDirectory, Path.IsName name) (hplaces : tree.NamesFiles)
    (entry : Path) {names : NameSet} (h : tree.fileSystem.declaredNames entry = .ok names) :
    let files := tree.fileSystem
    let found := (files.search entry).1
    (found.read.map files.canonical).Nodup ∧ found.Led files entry ∧
    (∀ path ∈ found.read, ∃ source sheet, source.path = path ∧ files.Reaches entry source ∧
      Holds files source sheet ∧ (∀ name ∈ sheet.variableNames, name ∈ names) ∧
      ∀ argument ∈ sheet.imports, found.Led files (path.importTarget argument)) ∧
    (∀ name ∈ names, ∃ source sheet, files.Reaches entry source ∧ Holds files source sheet ∧
      name ∈ sheet.variableNames) ∧
    (files.Agrees entry → ∀ source, files.Reaches entry source →
      ∃ sheet, Holds files source sheet ∧ ∀ name ∈ sheet.variableNames, name ∈ names) := by
  intro files found
  obtain ⟨rfl, hsearch⟩ :=
    invariant_search (isClosed_reaches files entry) (fun _ hsource => .entry hsource) h
  refine ⟨nodup_read_follow List.nodup_nil, ?_, ?_, hsearch.names_held, ?_⟩
  · exact (hsearch.seeds_led entry List.mem_cons_self).resolve_left List.not_mem_nil
  · intro path hpath
    obtain ⟨source, sheet, hsource, hreaches, hholds, hnames, himports⟩ :=
      hsearch.read_held path hpath
    refine ⟨source, sheet, hsource, hreaches, hholds, hnames, fun argument hargument => ?_⟩
    exact (himports argument hargument).resolve_left List.not_mem_nil
  · intro hagrees source hreaches
    have hfaithful := isFaithful_fileSystem hbase hplaces
    obtain ⟨sheet, hholds, hnames, -⟩ := hsearch.exists_holds hfaithful hagrees hreaches
      (hsearch.hasRead_of_reaches hfaithful hagrees hreaches)
    exact ⟨sheet, hholds, hnames⟩

/-! ## A link in another directory -/

variable {tree : LinkedTree} {path : Path}

/-- The way without links to the file of a source, and the sheet that it holds, if it does. -/
def sheetAt? (tree : LinkedTree) (source : Source) : Option (Path × Stylesheet) :=
  match tree.findBy source.path with
  | .ok (.file place bytes) => do
    let text ← (Text.Utf8.decode bytes).toOption
    let sheet ← (Stylesheet.parse source.dialect text).toOption
    return (pathOf place, sheet)
  | _ => none

theorem exists_of_sheetAt {source : Source} {sheet : Stylesheet}
    (h : tree.sheetAt? source = some (path, sheet)) :
    ∃ place bytes text, tree.find source.path = .ok (.file place bytes) ∧
      Text.Utf8.decode bytes = .ok text ∧ Stylesheet.parse source.dialect text = .ok sheet ∧
      pathOf place = path := by
  unfold sheetAt? at h
  split at h
  · rename_i place bytes hfind
    rw [← find_eq_findBy] at hfind
    cases htext : Text.Utf8.decode bytes with
    | error fault => rw [htext] at h; cases h
    | ok text =>
      rw [htext] at h
      cases hsheet : Stylesheet.parse source.dialect text with
      | error rejection => simp [hsheet, Except.toOption] at h
      | ok sheet' =>
        simp only [hsheet, Except.toOption, Option.bind_eq_bind, Option.bind_some] at h
        obtain ⟨rfl, rfl⟩ := Prod.mk.inj (Option.some.inj h)
        exact ⟨place, bytes, text, hfind, htext, hsheet, rfl⟩
  · cases h

theorem holds_of_sheetAt {source : Source} {sheet : Stylesheet}
    (h : tree.sheetAt? source = some (path, sheet)) : Holds tree.fileSystem source sheet := by
  obtain ⟨place, bytes, text, hfind, htext, hsheet, -⟩ := exists_of_sheetAt h
  have hread : tree.fileSystem.read source.path = .ok bytes := by
    change tree.read source.path = _
    rw [read, hfind]
  refine ⟨text, ?_, hsheet⟩
  rw [FileSystem.readText_of_read hread, htext]
  rfl

theorem canonical_of_sheetAt (hnames : tree.NamesFiles) {source : Source} {sheet : Stylesheet}
    (h : tree.sheetAt? source = some (path, sheet)) :
    tree.fileSystem.canonical source.path = path := by
  obtain ⟨place, bytes, text, hfind, -, -, rfl⟩ := exists_of_sheetAt h
  exact hnames source.path place bytes hfind

/-- The place to which these names lead. -/
def named (names : List String) : Place := names.map fun name => Text.Utf8.encode name.toList

/-- A file `x` that imports `y`, stored in the directory `a` and linked from `b`. Each of the two
directories has a file `y` of its own. -/
def hidingTree : LinkedTree where
  entries := [(named ["a"], .directory), (named ["b"], .directory),
    (named ["main.scss"], .file "@import 'a/x';\n@import 'b/x';\n".toUTF8.toList),
    (named ["a", "x.scss"], .file "@import 'y';\n".toUTF8.toList),
    (named ["a", "y.scss"], .file "$a: 1;\n".toUTF8.toList),
    (named ["b", "x.scss"], .link (.ofText "../a/x.scss")),
    (named ["b", "y.scss"], .file "$b: 2;\n".toUTF8.toList)]
  workingDirectory := []

/-- A source in the dialect with braces. -/
def braced (text : String) : Source := ⟨.ofText text, .braced⟩

/-- A sheet that declares one variable. -/
def declaring (name value : String) : Stylesheet := ⟨[⟨1, .variable ⟨name, value, false, false⟩⟩]⟩

def mainSheet : Stylesheet :=
  ⟨[⟨1, .atRule ⟨"import", "'a/x'", false⟩⟩, ⟨2, .atRule ⟨"import", "'b/x'", false⟩⟩]⟩

def linkedSheet : Stylesheet := ⟨[⟨1, .atRule ⟨"import", "'y'", false⟩⟩]⟩

theorem isName_workingDirectory : ∀ name ∈ hidingTree.workingDirectory, Path.IsName name :=
  fun _ hname => nomatch hname

theorem namesFiles_hidingTree : hidingTree.NamesFiles :=
  namesFiles_of_isNear (by decide +kernel)

theorem sheets_hidingTree :
    hidingTree.sheetAt? (braced "main.scss") = some (.ofText "/main.scss", mainSheet) ∧
    hidingTree.sheetAt? (braced "a/x.scss") = some (.ofText "/a/x.scss", linkedSheet) ∧
    hidingTree.sheetAt? (braced "b/x.scss") = some (.ofText "/a/x.scss", linkedSheet) ∧
    hidingTree.sheetAt? (braced "a/y.scss") = some (.ofText "/a/y.scss", declaring "a" "1") ∧
    hidingTree.sheetAt? (braced "b/y.scss") = some (.ofText "/b/y.scss", declaring "b" "2") := by
  decide +kernel

theorem holds_main : Holds hidingTree.fileSystem (braced "main.scss") mainSheet :=
  holds_of_sheetAt sheets_hidingTree.1

theorem holds_linked : Holds hidingTree.fileSystem (braced "a/x.scss") linkedSheet ∧
    Holds hidingTree.fileSystem (braced "b/x.scss") linkedSheet := by
  obtain ⟨-, hax, hbx, -⟩ := sheets_hidingTree
  exact ⟨holds_of_sheetAt hax, holds_of_sheetAt hbx⟩

theorem holds_declaring : Holds hidingTree.fileSystem (braced "a/y.scss") (declaring "a" "1") ∧
    Holds hidingTree.fileSystem (braced "b/y.scss") (declaring "b" "2") := by
  obtain ⟨-, -, -, hay, hby⟩ := sheets_hidingTree
  exact ⟨holds_of_sheetAt hay, holds_of_sheetAt hby⟩

/-- Where the imports of the tree lead. -/
theorem resolve_hidingTree :
    let isFile := hidingTree.fileSystem.isFile
    Source.resolve isFile (.ofText "main.scss") = .ok (braced "main.scss") ∧
    Source.resolve isFile ((braced "main.scss").path.importTarget "a/x") =
      .ok (braced "a/x.scss") ∧
    Source.resolve isFile ((braced "main.scss").path.importTarget "b/x") =
      .ok (braced "b/x.scss") ∧
    Source.resolve isFile ((braced "a/x.scss").path.importTarget "y") = .ok (braced "a/y.scss") ∧
    Source.resolve isFile ((braced "b/x.scss").path.importTarget "y") =
      .ok (braced "b/y.scss") := by
  rw [isFile_eq_isFound]
  exact ⟨rfl, rfl, rfl, rfl, rfl⟩

theorem canonical_hidingTree :
    let canonical := hidingTree.fileSystem.canonical
    canonical (.ofText "main.scss") = .ofText "/main.scss" ∧
      canonical (.ofText "a/x.scss") = .ofText "/a/x.scss" ∧
      canonical (.ofText "b/x.scss") = .ofText "/a/x.scss" ∧
      canonical (.ofText "a/y.scss") = .ofText "/a/y.scss" := by
  obtain ⟨hmain, hax, hbx, hay, -⟩ := sheets_hidingTree
  have hnames := namesFiles_hidingTree
  exact ⟨canonical_of_sheetAt hnames hmain, canonical_of_sheetAt hnames hax,
    canonical_of_sheetAt hnames hbx, canonical_of_sheetAt hnames hay⟩

/-- The sources to which `main.scss` leads. -/
def hidingSources : List Source :=
  [braced "main.scss", braced "a/x.scss", braced "b/x.scss", braced "a/y.scss", braced "b/y.scss"]

theorem imports_mainSheet : mainSheet.imports = ["a/x", "b/x"] := rfl

theorem imports_linkedSheet : linkedSheet.imports = ["y"] := rfl

/-- Nothing is at fault in the tree, and no other sources are reached. -/
theorem faultless_hidingTree :
    Faultless hidingTree.fileSystem (· ∈ hidingSources) [.ofText "main.scss"] := by
  obtain ⟨hmain, hax, hbx, hay, hby⟩ := resolve_hidingTree
  refine ⟨List.forall_mem_singleton.2 ⟨_, hmain, List.mem_cons_self⟩, ?_⟩
  simp only [hidingSources, List.forall_mem_cons]
  refine ⟨⟨_, holds_main, ?_⟩, ⟨_, holds_linked.1, ?_⟩, ⟨_, holds_linked.2, ?_⟩,
    ⟨_, holds_declaring.1, nofun⟩, ⟨_, holds_declaring.2, nofun⟩, nofun⟩
  · rw [imports_mainSheet]
    exact List.forall_mem_cons.2 ⟨⟨_, hax, by decide⟩,
      List.forall_mem_singleton.2 ⟨_, hbx, by decide⟩⟩
  · rw [imports_linkedSheet]
    exact List.forall_mem_singleton.2 ⟨_, hay, by decide⟩
  · rw [imports_linkedSheet]
    exact List.forall_mem_singleton.2 ⟨_, hby, by decide⟩

/-- What a search has found after it has read these files. -/
def foundIn (files : List (String × Stylesheet)) : Closure :=
  files.foldl (fun found file =>
    (found.afterReading (.ofText file.1)).declare file.2.variableNames) .empty

/-- What a search from `main.scss` finds. -/
def hidingFound : Closure :=
  foundIn [("main.scss", mainSheet), ("a/x.scss", linkedSheet), ("a/y.scss", declaring "a" "1")]

/-- The search passes over the link to the file that it has read, and so over what the link
imports. -/
theorem visits_hidingTree :
    let reads : List Path := [.ofText "main.scss", .ofText "a/x.scss", .ofText "a/y.scss"]
    Visits hidingTree.fileSystem 3 .empty [.ofText "main.scss"] reads reads hidingFound none := by
  intro reads
  obtain ⟨hmain, hax, hbx, hay, -⟩ := resolve_hidingTree
  obtain ⟨cmain, cax, cbx, cay⟩ := canonical_hidingTree
  have hnested : Visits hidingTree.fileSystem 1
      (foundIn [("main.scss", mainSheet), ("a/x.scss", linkedSheet)])
      (linkedSheet.imports.map (braced "a/x.scss").path.importTarget) [.ofText "a/y.scss"]
      [.ofText "a/y.scss"] hidingFound none := by
    have hmeets : Meets hidingTree.fileSystem
        (foundIn [("main.scss", mainSheet), ("a/x.scss", linkedSheet)])
        ((braced "a/x.scss").path.importTarget "y") (braced "a/y.scss") := by
      refine ⟨hay, ?_⟩
      simp [hasRead, afterReading, declare, foundIn, braced, Closure.empty, cmain, cax, cay]
    rw [imports_linkedSheet]
    exact .followed hmeets holds_declaring.1 .done .done
  have hmiddle : Visits hidingTree.fileSystem 2 (foundIn [("main.scss", mainSheet)])
      (mainSheet.imports.map (braced "main.scss").path.importTarget)
      [.ofText "a/x.scss", .ofText "a/y.scss"] [.ofText "a/x.scss", .ofText "a/y.scss"] hidingFound
      none := by
    have hmeets : Meets hidingTree.fileSystem (foundIn [("main.scss", mainSheet)])
        ((braced "main.scss").path.importTarget "a/x") (braced "a/x.scss") := by
      refine ⟨hax, ?_⟩
      simp [hasRead, afterReading, declare, foundIn, braced, Closure.empty, cmain, cax]
    have hread : hidingFound.hasRead hidingTree.fileSystem
        (hidingTree.fileSystem.canonical (braced "b/x.scss").path) = true := by
      simp [hasRead, afterReading, declare, hidingFound, foundIn, braced, cax, cbx]
    rw [imports_mainSheet]
    exact .followed hmeets holds_linked.1 hnested (.passed hbx hread .done)
  exact .followed ⟨hmain, rfl⟩ holds_main hmiddle .done

/-- A file is declared that the entry path leads to through a link, and the search does not find it,
though nothing is at fault, only five sources are reached, and every file has its way without links
for a name. -/
theorem link_hides_declaration :
    let files := hidingTree.fileSystem
    (∀ name ∈ hidingTree.workingDirectory, Path.IsName name) ∧ hidingTree.NamesFiles ∧
      (∀ source, files.Reaches (.ofText "main.scss") source → source ∈ hidingSources) ∧
      ∃ names, files.declaredNames (.ofText "main.scss") = .ok names ∧
        ∃ source sheet, files.Reaches (.ofText "main.scss") source ∧ Holds files source sheet ∧
          "b" ∈ sheet.variableNames ∧ "b" ∉ names := by
  intro files
  obtain ⟨hmain, -, hbx, -, hby⟩ := resolve_hidingTree
  have hsearch : files.search (.ofText "main.scss") = (hidingFound, none) := by
    have hfollow := visits_hidingTree.follow_eq []
    rw [Option.elim_none, Closure.follow] at hfollow
    exact hfollow
  have hnames : files.declaredNames (.ofText "main.scss") = .ok hidingFound.names := by
    rw [FileSystem.declaredNames, hsearch]
  have hunfound : "b" ∉ hidingFound.names := by
    have hmainNames : mainSheet.variableNames = [] := rfl
    have hlinkedNames : linkedSheet.variableNames = [] := rfl
    have hdeclared : (declaring "a" "1").variableNames = ["a"] := rfl
    simp [hidingFound, foundIn, declare, afterReading, Closure.empty, hmainNames, hlinkedNames,
      hdeclared]
  have hlink : files.Reaches (.ofText "main.scss") (braced "b/x.scss") :=
    .imported (.entry hmain) holds_main (by rw [imports_mainSheet]; decide) hbx
  have htarget : files.Reaches (.ofText "main.scss") (braced "b/y.scss") :=
    .imported hlink holds_linked.2 (by rw [imports_linkedSheet]; decide) hby
  exact ⟨isName_workingDirectory, namesFiles_hidingTree,
    fun _ => faultless_hidingTree.of_reaches, _, hnames, _, _, htarget, holds_declaring.2,
    List.mem_cons_self, hunfound⟩

/-! ## A link in whose directory the same is imported -/

/-- A file `x` that imports `y` from the directory above, stored in the directory `a` and linked
from `b`. -/
def sharingTree : LinkedTree where
  entries := [(named ["a"], .directory), (named ["b"], .directory),
    (named ["main.scss"], .file "@import 'a/x';\n@import 'b/x';\n".toUTF8.toList),
    (named ["a", "x.scss"], .file "@import '../y';\n".toUTF8.toList),
    (named ["b", "x.scss"], .link (.ofText "../a/x.scss")),
    (named ["y.scss"], .file "$a: 1;\n".toUTF8.toList)]
  workingDirectory := []

def sharedSheet : Stylesheet := ⟨[⟨1, .atRule ⟨"import", "'../y'", false⟩⟩]⟩

theorem imports_sharedSheet : sharedSheet.imports = ["../y"] := rfl

theorem namesFiles_sharingTree : sharingTree.NamesFiles :=
  namesFiles_of_isNear (by decide +kernel)

theorem sheets_sharingTree :
    sharingTree.sheetAt? (braced "main.scss") = some (.ofText "/main.scss", mainSheet) ∧
    sharingTree.sheetAt? (braced "a/x.scss") = some (.ofText "/a/x.scss", sharedSheet) ∧
    sharingTree.sheetAt? (braced "b/x.scss") = some (.ofText "/a/x.scss", sharedSheet) ∧
    sharingTree.sheetAt? (braced "y.scss") = some (.ofText "/y.scss", declaring "a" "1") := by
  decide +kernel

theorem holds_sharingTree :
    Holds sharingTree.fileSystem (braced "main.scss") mainSheet ∧
    Holds sharingTree.fileSystem (braced "a/x.scss") sharedSheet ∧
    Holds sharingTree.fileSystem (braced "b/x.scss") sharedSheet ∧
    Holds sharingTree.fileSystem (braced "y.scss") (declaring "a" "1") := by
  obtain ⟨hmain, hax, hbx, hy⟩ := sheets_sharingTree
  exact ⟨holds_of_sheetAt hmain, holds_of_sheetAt hax, holds_of_sheetAt hbx, holds_of_sheetAt hy⟩

theorem resolve_sharingTree :
    let isFile := sharingTree.fileSystem.isFile
    Source.resolve isFile (.ofText "main.scss") = .ok (braced "main.scss") ∧
    Source.resolve isFile ((braced "main.scss").path.importTarget "a/x") =
      .ok (braced "a/x.scss") ∧
    Source.resolve isFile ((braced "main.scss").path.importTarget "b/x") =
      .ok (braced "b/x.scss") ∧
    Source.resolve isFile ((braced "a/x.scss").path.importTarget "../y") = .ok (braced "y.scss") ∧
    Source.resolve isFile ((braced "b/x.scss").path.importTarget "../y") =
      .ok (braced "y.scss") := by
  rw [isFile_eq_isFound]
  exact ⟨rfl, rfl, rfl, rfl, rfl⟩

theorem canonical_sharingTree :
    let canonical := sharingTree.fileSystem.canonical
    canonical (.ofText "main.scss") = .ofText "/main.scss" ∧
      canonical (.ofText "a/x.scss") = .ofText "/a/x.scss" ∧
      canonical (.ofText "b/x.scss") = .ofText "/a/x.scss" ∧
      canonical (.ofText "y.scss") = .ofText "/y.scss" := by
  obtain ⟨hmain, hax, hbx, hy⟩ := sheets_sharingTree
  have hnames := namesFiles_sharingTree
  exact ⟨canonical_of_sheetAt hnames hmain, canonical_of_sheetAt hnames hax,
    canonical_of_sheetAt hnames hbx, canonical_of_sheetAt hnames hy⟩

def sharingSources : List Source :=
  [braced "main.scss", braced "a/x.scss", braced "b/x.scss", braced "y.scss"]

theorem faultless_sharingTree :
    Faultless sharingTree.fileSystem (· ∈ sharingSources) [.ofText "main.scss"] := by
  obtain ⟨hmain, hax, hbx, hay, hby⟩ := resolve_sharingTree
  obtain ⟨holdsMain, holdsAx, holdsBx, holdsY⟩ := holds_sharingTree
  refine ⟨List.forall_mem_singleton.2 ⟨_, hmain, List.mem_cons_self⟩, ?_⟩
  simp only [sharingSources, List.forall_mem_cons]
  refine ⟨⟨_, holdsMain, ?_⟩, ⟨_, holdsAx, ?_⟩, ⟨_, holdsBx, ?_⟩, ⟨_, holdsY, nofun⟩, nofun⟩
  · rw [imports_mainSheet]
    exact List.forall_mem_cons.2 ⟨⟨_, hax, by decide⟩,
      List.forall_mem_singleton.2 ⟨_, hbx, by decide⟩⟩
  · rw [imports_sharedSheet]
    exact List.forall_mem_singleton.2 ⟨_, hay, by decide⟩
  · rw [imports_sharedSheet]
    exact List.forall_mem_singleton.2 ⟨_, hby, by decide⟩

/-- Only the file that is linked is reached in two ways. -/
theorem eq_or_of_canonical_eq {a b : Source} (ha : a ∈ sharingSources) (hb : b ∈ sharingSources)
    (h : sharingTree.fileSystem.canonical a.path = sharingTree.fileSystem.canonical b.path) :
    a = b ∨ a ∈ [braced "a/x.scss", braced "b/x.scss"] ∧
      b ∈ [braced "a/x.scss", braced "b/x.scss"] := by
  obtain ⟨cmain, cax, cbx, cy⟩ := canonical_sharingTree
  simp only [sharingSources, List.mem_cons, List.not_mem_nil, or_false] at ha hb ⊢
  rcases ha with rfl | rfl | rfl | rfl <;> rcases hb with rfl | rfl | rfl | rfl <;>
    simp [braced, cmain, cax, cbx, cy] at h ⊢

theorem agrees_sharingTree : sharingTree.fileSystem.Agrees (.ofText "main.scss") := by
  obtain ⟨-, -, -, hay, hby⟩ := resolve_sharingTree
  obtain ⟨-, holdsAx, holdsBx, -⟩ := holds_sharingTree
  have hlinked : ∀ source ∈ [braced "a/x.scss", braced "b/x.scss"],
      source.dialect = .braced ∧ Holds sharingTree.fileSystem source sharedSheet ∧
        Source.resolve sharingTree.fileSystem.isFile (source.path.importTarget "../y") =
          .ok (braced "y.scss") :=
    List.forall_mem_cons.2 ⟨⟨rfl, holdsAx, hay⟩, List.forall_mem_singleton.2 ⟨rfl, holdsBx, hby⟩⟩
  constructor
  · intro a b ha hb hsame
    rcases eq_or_of_canonical_eq (faultless_sharingTree.of_reaches ha)
      (faultless_sharingTree.of_reaches hb) hsame with rfl | ⟨ha, hb⟩
    · rfl
    · rw [(hlinked a ha).1, (hlinked b hb).1]
  · intro a b next next' sheet argument ha hb hsame hholds hargument hnext hnext'
    rcases eq_or_of_canonical_eq (faultless_sharingTree.of_reaches ha)
      (faultless_sharingTree.of_reaches hb) hsame with rfl | ⟨ha, hb⟩
    · cases hnext.symm.trans hnext'
      rfl
    · obtain ⟨-, hsheet, hfirst⟩ := hlinked a ha
      obtain ⟨-, -, hsecond⟩ := hlinked b hb
      obtain rfl := hholds.unique hsheet
      rw [imports_sharedSheet, List.mem_singleton] at hargument
      subst hargument
      cases hnext.symm.trans hfirst
      cases hnext'.symm.trans hsecond
      rfl

/-- The linked file is reached twice, and what it imports is found. -/
theorem repeated_files_are_found_link :
    let files := sharingTree.fileSystem
    (∀ name ∈ sharingTree.workingDirectory, Path.IsName name) ∧ sharingTree.NamesFiles ∧
      files.Reaches (.ofText "main.scss") (braced "a/x.scss") ∧
      files.Reaches (.ofText "main.scss") (braced "b/x.scss") ∧
      files.canonical (.ofText "a/x.scss") = files.canonical (.ofText "b/x.scss") ∧
      files.Agrees (.ofText "main.scss") ∧
      ∃ names, files.declaredNames (.ofText "main.scss") = .ok names ∧ "a" ∈ names := by
  intro files
  obtain ⟨hmain, hax, hbx, hay, -⟩ := resolve_sharingTree
  obtain ⟨holdsMain, holdsAx, -, holdsY⟩ := holds_sharingTree
  obtain ⟨-, cax, cbx, -⟩ := canonical_sharingTree
  have hbase : ∀ name ∈ sharingTree.workingDirectory, Path.IsName name :=
    fun _ hname => nomatch hname
  have hfirst : files.Reaches (.ofText "main.scss") (braced "a/x.scss") :=
    .imported (.entry hmain) holdsMain (by rw [imports_mainSheet]; decide) hax
  have hsecond : files.Reaches (.ofText "main.scss") (braced "b/x.scss") :=
    .imported (.entry hmain) holdsMain (by rw [imports_mainSheet]; decide) hbx
  have htarget : files.Reaches (.ofText "main.scss") (braced "y.scss") :=
    .imported hfirst holdsAx (by rw [imports_sharedSheet]; decide) hay
  obtain ⟨names, hnames⟩ := FileSystem.exists_declaredNames faultless_sharingTree
  obtain ⟨-, -, -, -, hall⟩ :=
    sharingTree.repeated_files_are_found hbase namesFiles_sharingTree (.ofText "main.scss") hnames
  obtain ⟨sheet, hsheet, hdeclared⟩ := hall agrees_sharingTree _ htarget
  obtain rfl := hsheet.unique holdsY
  exact ⟨hbase, namesFiles_sharingTree, hfirst, hsecond, cax.trans cbx.symm, agrees_sharingTree,
    names, hnames, hdeclared "a" List.mem_cons_self⟩

end LinkedTree

end StyleConstants
