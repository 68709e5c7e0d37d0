import StyleConstants.Files.Memory
import StyleConstants.Proofs.Closure.Search
import StyleConstants.Proofs.Source.Spelling

/-!
# The files that an entry path reaches

In a tree in memory a file is the place where it is stored. Which files an entry path reaches is
defined on places alone: imports are resolved against the place of the importing file. A search
resolves them against the path under which it met that file first, which may be another one; the
two agree because a spelling with a file name tells the search no more than its place does.

* `Means.congr`: spellings of one place mean the same file.
* `mem_names_iff`: when a search ends, the names found are those of the files reached.
* `declaredNames_exact`: a search succeeds if nothing reached is at fault, and finds all names.
-/

namespace StyleConstants.MemoryTree

open StyleConstants.Path

variable {tree : MemoryTree} {entry path : Path}

/-! ## Places -/

theorem contents?_congr (tree : MemoryTree) {a b : Path} (h : a.route = b.route) :
    tree.contents? a = tree.contents? b := by
  rw [contents?, contents?, place, place, normalizeFrom_rootPath_eq_iff.2 h]

theorem isFile_congr (tree : MemoryTree) {a b : Path} (h : a.route = b.route) :
    tree.fileSystem.isFile a = tree.fileSystem.isFile b :=
  congrArg Option.isSome (tree.contents?_congr h)

theorem route_place (path : Path) : (place path).route = path.route :=
  route_normalizeFrom_rootPath path

theorem alike_place (h : path.IsDirect) : path.Alike (place path) :=
  alike_of_isDirect h (isDirect_normalize _) (route_place path).symm

theorem place_eq_of_alike {a b : Path} (h : a.Alike b) : place a = place b :=
  normalizeFrom_rootPath_eq_iff.2 h.2

theorem extension?_congr {a b : Path} (h : a.Alike b) : a.extension? = b.extension? := by
  rw [extension?, extension?, h.1]

theorem isDirect_of_extension? {extension : String} (h : path.extension? = some extension) :
    ∃ name, path.fileName? = some name ∧ path.IsDirect := by
  cases hname : path.fileName? with
  | none =>
    rw [extension?, hname] at h
    cases h
  | some name => exact ⟨name, rfl, isDirect_of_fileName? hname⟩

/-! ## Files and their imports -/

/-- The path is resolved to the file stored here. -/
def Means (tree : MemoryTree) (path file : Path) : Prop :=
  ∃ source, Source.resolve tree.fileSystem.isFile path = .ok source ∧ place source.path = file

/-- The file stored here is a text, and this stylesheet of the dialect of its extension. -/
def Holds (tree : MemoryTree) (file : Path) (sheet : Stylesheet) : Prop :=
  ∃ dialect bytes text, file.extension? = some dialect.extension ∧
    tree.contents? file = some bytes ∧ Text.Utf8.decode bytes = .ok text ∧
    Stylesheet.parse dialect text = .ok sheet

/-- The files that the entry path means, directly or through imports. -/
inductive Reaches (tree : MemoryTree) (entry : Path) : Path → Prop
  | entry {file : Path} : tree.Means entry file → Reaches tree entry file
  | imported {file next : Path} {sheet : Stylesheet} {argument : String} :
    Reaches tree entry file → tree.Holds file sheet → argument ∈ sheet.imports →
    tree.Means (file.importTarget argument) next → Reaches tree entry next

/-- The entry path means a file, and every file it reaches can be read and imports only what can be
resolved. -/
def Sound (tree : MemoryTree) (entry : Path) : Prop :=
  (∃ file, tree.Means entry file) ∧ ∀ file, tree.Reaches entry file → ∃ sheet,
    tree.Holds file sheet ∧ ∀ argument ∈ sheet.imports,
      ∃ next, tree.Means (file.importTarget argument) next

theorem Means.unique {a b : Path} (ha : tree.Means path a) (hb : tree.Means path b) : a = b := by
  obtain ⟨source, hsource, rfl⟩ := ha
  obtain ⟨source', hsource', rfl⟩ := hb
  cases hsource.symm.trans hsource'
  rfl

theorem Holds.unique {file : Path} {a b : Stylesheet} (ha : tree.Holds file a)
    (hb : tree.Holds file b) : a = b := by
  obtain ⟨dialect, bytes, text, hdialect, hbytes, htext, hsheet⟩ := ha
  obtain ⟨dialect', bytes', text', hdialect', hbytes', htext', hsheet'⟩ := hb
  have hsame : dialect = dialect' :=
    Dialect.extension_injective (Option.some.inj (hdialect.symm.trans hdialect'))
  subst hsame
  cases hbytes.symm.trans hbytes'
  cases htext.symm.trans htext'
  cases hsheet.symm.trans hsheet'
  rfl

theorem Means.congr {a b file : Path} (h : a.Alike b) : tree.Means a file ↔ tree.Means b file := by
  have hresolve := Source.resolve_alike (fun hroute => tree.isFile_congr hroute) h
  constructor
  · rintro ⟨source, hsource, rfl⟩
    rcases hresolve with ⟨a', b', ha, hb, halike, -⟩ | ⟨ha, -⟩ | ⟨extension, ha, -⟩
    · cases hsource.symm.trans ha
      exact ⟨b', hb, (place_eq_of_alike halike).symm⟩
    · cases hsource.symm.trans ha
    · cases hsource.symm.trans ha
  · rintro ⟨source, hsource, rfl⟩
    rcases hresolve with ⟨a', b', ha, hb, halike, -⟩ | ⟨-, hb⟩ | ⟨extension, -, hb⟩
    · cases hsource.symm.trans hb
      exact ⟨a', ha, place_eq_of_alike halike⟩
    · cases hsource.symm.trans hb
    · cases hsource.symm.trans hb

/-- What an importing file means by an argument does not depend on how its path is spelled. -/
theorem means_importTarget_place {importer : Path} {name : List UInt8}
    (h : importer.fileName? = some name) {argument : String} {file : Path} :
    tree.Means (importer.importTarget argument) file ↔
      tree.Means ((place importer).importTarget argument) file :=
  Means.congr (alike_importTarget h (alike_place (isDirect_of_fileName? h)) argument)

theorem reaches_congr {a b file : Path} (h : a.Alike b) (hreaches : tree.Reaches a file) :
    tree.Reaches b file := by
  induction hreaches with
  | entry hmeans => exact .entry ((Means.congr h).1 hmeans)
  | imported hreaches hholds hargument hmeans ih => exact .imported ih hholds hargument hmeans

theorem sound_congr {a b : Path} (h : a.Alike b) (hsound : tree.Sound a) : tree.Sound b := by
  obtain ⟨⟨file, hmeans⟩, hreached⟩ := hsound
  exact ⟨⟨file, (Means.congr h).1 hmeans⟩,
    fun file hreaches => hreached file (reaches_congr h.symm hreaches)⟩

/-! ## The sources that a search meets -/

/-- With no file at the root, a path that ends in its own name or in none is resolved to files with
the extension of their dialect only. -/
theorem extension?_of_resolve (hroot : tree.contents? rootPath = none) (h : path.IsDirect)
    {source : Source} (hsource : Source.resolve tree.fileSystem.isFile path = .ok source) :
    source.path.extension? = some source.dialect.extension := by
  cases hname : path.fileName? with
  | some name => exact Source.extension?_of_resolve hname hsource
  | none =>
    have hpath : source.path = path := Source.path_eq_of_resolve hname hsource
    have hroute : path.route = [] := List.head?_eq_none_iff.1 (h.symm.trans hname)
    have hcontents : tree.contents? path = none := by
      rw [← hroot]
      exact tree.contents?_congr hroute
    have hfile := Source.isFile_of_resolve hsource
    rw [hpath] at hfile
    have hsome : (tree.contents? path).isSome = true := hfile
    rw [hcontents] at hsome
    cases hsome

/-- The source leads to a file that the entry path reaches, and has the extension of its
dialect. -/
def Met (tree : MemoryTree) (entry : Path) (source : Source) : Prop :=
  tree.Reaches entry (place source.path) ∧
    source.path.extension? = some source.dialect.extension

theorem readText_eq_ok_iff {text : List Char} : tree.fileSystem.readText path = .ok text ↔
    ∃ bytes, tree.contents? path = some bytes ∧ Text.Utf8.decode bytes = .ok text := by
  cases h : tree.contents? path with
  | none =>
    have hread : tree.fileSystem.readText path = .error (.absent (place path)) := by
      simp [FileSystem.readText, fileSystem, h]
    rw [hread]
    simp
  | some bytes =>
    have hread : tree.fileSystem.read path = .ok bytes := by simp [fileSystem, h]
    rw [FileSystem.readText, hread]
    cases hdecode : Text.Utf8.decode bytes with
    | error fault => simp [hdecode]
    | ok text' => simp [hdecode]

theorem holds_place_iff {source : Source} {sheet : Stylesheet}
    (h : source.path.extension? = some source.dialect.extension) :
    tree.Holds (place source.path) sheet ↔ Closure.Holds tree.fileSystem source sheet := by
  obtain ⟨name, -, hdirect⟩ := isDirect_of_extension? h
  have hextension : (place source.path).extension? = some source.dialect.extension := by
    rw [← h]
    exact (extension?_congr (alike_place hdirect)).symm
  have hcontents : tree.contents? (place source.path) = tree.contents? source.path :=
    tree.contents?_congr (route_place source.path)
  constructor
  · rintro ⟨dialect, bytes, text, hdialect, hbytes, htext, hsheet⟩
    have hsame : dialect = source.dialect :=
      Dialect.extension_injective (Option.some.inj (hdialect.symm.trans hextension))
    subst hsame
    exact ⟨text, readText_eq_ok_iff.2 ⟨bytes, hcontents ▸ hbytes, htext⟩, hsheet⟩
  · rintro ⟨text, hread, hsheet⟩
    obtain ⟨bytes, hbytes, htext⟩ := readText_eq_ok_iff.1 hread
    exact ⟨source.dialect, bytes, text, hextension, hcontents.trans hbytes, htext, hsheet⟩

theorem met_of_entry (hroot : tree.contents? rootPath = none) (h : entry.IsDirect) {source : Source}
    (hsource : Source.resolve tree.fileSystem.isFile entry = .ok source) : tree.Met entry source :=
  ⟨.entry ⟨source, hsource, rfl⟩, extension?_of_resolve hroot h hsource⟩

theorem isClosed_met (hroot : tree.contents? rootPath = none) :
    Closure.IsClosed tree.fileSystem (tree.Met entry) := by
  intro source sheet hmet hholds argument hargument next hnext
  obtain ⟨name, hname, -⟩ := isDirect_of_extension? hmet.2
  have hmeans : tree.Means ((place source.path).importTarget argument) (place next.path) :=
    (means_importTarget_place hname).1 ⟨next, hnext, rfl⟩
  exact ⟨.imported hmet.1 ((holds_place_iff hmet.2).2 hholds) hargument hmeans,
    extension?_of_resolve hroot (isDirect_importTarget _ _) hnext⟩

/-! ## What a search finds -/

section Search

variable {found : Closure}
  (h : Closure.Invariant tree.fileSystem (tree.Met entry) [entry] found [])

include h

/-- What the search knows of a file that it has read, wherever it has met that file. -/
theorem exists_of_hasRead {file : Path} (hread : found.hasRead tree.fileSystem file = true) :
    ∃ sheet, tree.Holds file sheet ∧ (∀ name ∈ sheet.variableNames, name ∈ found.names) ∧
      ∀ argument ∈ sheet.imports, ∃ next, tree.Means (file.importTarget argument) next ∧
        found.hasRead tree.fileSystem next = true := by
  obtain ⟨path, hpath, hplace⟩ := Closure.exists_of_hasRead hread
  obtain ⟨source, sheet, rfl, hmet, hholds, hnames, himports⟩ := h.read_held path hpath
  rw [canonical_fileSystem] at hplace
  subst hplace
  obtain ⟨name, hname, -⟩ := isDirect_of_extension? hmet.2
  refine ⟨sheet, (holds_place_iff hmet.2).2 hholds, hnames, ?_⟩
  intro argument hargument
  rcases himports argument hargument with hpending | ⟨next, hnext, hnextRead⟩
  · cases hpending
  · rw [canonical_fileSystem] at hnextRead
    exact ⟨place next.path, (means_importTarget_place hname).1 ⟨next, hnext, rfl⟩, hnextRead⟩

theorem exists_means_entry :
    ∃ file, tree.Means entry file ∧ found.hasRead tree.fileSystem file = true := by
  rcases h.seeds_led entry List.mem_cons_self with hpending | ⟨source, hsource, hread⟩
  · cases hpending
  · rw [canonical_fileSystem] at hread
    exact ⟨place source.path, ⟨source, hsource, rfl⟩, hread⟩

theorem hasRead_of_reaches {file : Path} (hreaches : tree.Reaches entry file) :
    found.hasRead tree.fileSystem file = true := by
  induction hreaches with
  | entry hmeans =>
    obtain ⟨file, hfile, hread⟩ := exists_means_entry h
    rwa [← hfile.unique hmeans]
  | imported _ hholds hargument hmeans ih =>
    obtain ⟨sheet, hsheet, -, himports⟩ := exists_of_hasRead h ih
    obtain rfl := hsheet.unique hholds
    obtain ⟨next, hnext, hread⟩ := himports _ hargument
    rwa [← hnext.unique hmeans]

theorem sound_of_invariant : tree.Sound entry := by
  constructor
  · obtain ⟨file, hfile, -⟩ := exists_means_entry h
    exact ⟨file, hfile⟩
  · intro file hreaches
    obtain ⟨sheet, hholds, -, himports⟩ := exists_of_hasRead h (hasRead_of_reaches h hreaches)
    refine ⟨sheet, hholds, ?_⟩
    intro argument hargument
    obtain ⟨next, hnext, -⟩ := himports argument hargument
    exact ⟨next, hnext⟩

theorem mem_names_iff {name : String} : name ∈ found.names ↔ ∃ file sheet,
    tree.Reaches entry file ∧ tree.Holds file sheet ∧ name ∈ sheet.variableNames := by
  constructor
  · intro hname
    obtain ⟨source, sheet, hmet, hholds, hvariable⟩ := h.names_held name hname
    exact ⟨_, sheet, hmet.1, (holds_place_iff hmet.2).2 hholds, hvariable⟩
  · rintro ⟨file, sheet, hreaches, hholds, hvariable⟩
    obtain ⟨sheet', hsheet, hnames, -⟩ := exists_of_hasRead h (hasRead_of_reaches h hreaches)
    obtain rfl := hsheet.unique hholds
    exact hnames name hvariable

end Search

theorem faultless_of_sound (hroot : tree.contents? rootPath = none) (hentry : entry.IsDirect)
    (h : tree.Sound entry) : Closure.Faultless tree.fileSystem (tree.Met entry) [entry] := by
  obtain ⟨⟨file, source, hsource, -⟩, hreached⟩ := h
  refine ⟨?_, ?_⟩
  · intro path hpath
    obtain rfl := List.mem_singleton.1 hpath
    exact ⟨source, hsource, met_of_entry hroot hentry hsource⟩
  · intro source hmet
    obtain ⟨sheet, hholds, himports⟩ := hreached _ hmet.1
    have hsheet := (holds_place_iff hmet.2).1 hholds
    obtain ⟨name, hname, -⟩ := isDirect_of_extension? hmet.2
    refine ⟨sheet, hsheet, ?_⟩
    intro argument hargument
    obtain ⟨next, hmeans⟩ := himports argument hargument
    obtain ⟨target, htarget, -⟩ := (means_importTarget_place hname).2 hmeans
    have hnext := isClosed_met hroot source sheet hmet hsheet argument hargument target htarget
    exact ⟨target, htarget, hnext⟩

theorem invariant_search (hroot : tree.contents? rootPath = none) (hentry : entry.IsDirect)
    {names : NameSet} (h : tree.fileSystem.declaredNames entry = .ok names) :
    ∃ found : Closure, found.names = names ∧
      Closure.Invariant tree.fileSystem (tree.Met entry) [entry] found [] :=
  Closure.invariant_declaredNames (isClosed_met hroot)
    (fun _ hsource => met_of_entry hroot hentry hsource) h

theorem exists_declaredNames (hroot : tree.contents? rootPath = none) (hentry : entry.IsDirect)
    (h : tree.Sound entry) : ∃ names, tree.fileSystem.declaredNames entry = .ok names :=
  FileSystem.exists_declaredNames (faultless_of_sound hroot hentry h)

/-- Spellings of one place lead a search to the same names. -/
theorem declaredNames_congr (hroot : tree.contents? rootPath = none) {a b : Path} (ha : a.IsDirect)
    (hb : b.IsDirect) (h : a.route = b.route) {names : NameSet}
    (hnames : tree.fileSystem.declaredNames a = .ok names) :
    tree.fileSystem.declaredNames b = .ok names := by
  have halike := alike_of_isDirect ha hb h
  obtain ⟨found, rfl, hinvariant⟩ := invariant_search hroot ha hnames
  obtain ⟨names', hnames'⟩ := exists_declaredNames hroot hb
    (sound_congr halike (sound_of_invariant hinvariant))
  obtain ⟨found', rfl, hinvariant'⟩ := invariant_search hroot hb hnames'
  have hsame : found'.names = found.names := by
    refine Std.ExtTreeSet.ext_mem fun name => ?_
    rw [mem_names_iff hinvariant, mem_names_iff hinvariant']
    constructor
    · rintro ⟨file, sheet, hreaches, hrest⟩
      exact ⟨file, sheet, reaches_congr halike.symm hreaches, hrest⟩
    · rintro ⟨file, sheet, hreaches, hrest⟩
      exact ⟨file, sheet, reaches_congr halike hreaches, hrest⟩
  rw [hnames', hsame]

/-- A tree without a file at the root, and an entry path with a file name. The search succeeds if
and only if the entry path means a file and everything that it reaches can be read and resolved.
The names found are those declared in the files reached, whatever the path by which a file was
reached and however the entry path or the path of an importing file is spelled. -/
theorem declaredNames_exact (tree : MemoryTree) (entry : Path)
    (hentry : entry.fileName?.isSome = true) (hroot : tree.contents? rootPath = none) :
    ((∃ names, tree.fileSystem.declaredNames entry = .ok names) ↔ tree.Sound entry) ∧
    (∀ names, tree.fileSystem.declaredNames entry = .ok names → ∀ name, name ∈ names ↔
      ∃ file sheet, tree.Reaches entry file ∧ tree.Holds file sheet ∧
        name ∈ sheet.variableNames) ∧
    (∀ spelling : Path, spelling.fileName?.isSome = true → place spelling = place entry →
      ∀ names, tree.fileSystem.declaredNames entry = .ok names →
        tree.fileSystem.declaredNames spelling = .ok names) ∧
    ∀ importer : Path, importer.fileName?.isSome = true → ∀ argument file,
      tree.Means (importer.importTarget argument) file ↔
        tree.Means ((place importer).importTarget argument) file := by
  obtain ⟨entryName, hentryName⟩ := Option.isSome_iff_exists.1 hentry
  have hdirect := isDirect_of_fileName? hentryName
  refine ⟨⟨?_, exists_declaredNames hroot hdirect⟩, ?_, ?_, ?_⟩
  · rintro ⟨names, hnames⟩
    obtain ⟨found, -, hinvariant⟩ := invariant_search hroot hdirect hnames
    exact sound_of_invariant hinvariant
  · intro names hnames name
    obtain ⟨found, rfl, hinvariant⟩ := invariant_search hroot hdirect hnames
    exact mem_names_iff hinvariant
  · intro spelling hspelling hplace names hnames
    obtain ⟨name, hname⟩ := Option.isSome_iff_exists.1 hspelling
    exact declaredNames_congr hroot hdirect (isDirect_of_fileName? hname)
      (normalizeFrom_rootPath_eq_iff.1 hplace.symm) hnames
  · intro importer himporter argument file
    obtain ⟨name, hname⟩ := Option.isSome_iff_exists.1 himporter
    exact means_importTarget_place hname

/-! ## A ring of imports -/

def bracedPath : Path := .ofText "/app/a.scss"

def indentedPath : Path := .ofText "/app/_b.sass"

def bracedText : String := "@import 'b'; $x: 1;"

def indentedText : String := "@import '../app/a'\n$y: 2"

/-- Two files in the two dialects that import each other. -/
def ring : MemoryTree :=
  (empty.add bracedPath bracedText.toUTF8.toList).add indentedPath indentedText.toUTF8.toList

/-- A path to the first that names no extension and leaves a directory again. -/
def ringEntry : Path := .ofText "/app/x/../a"

def bracedSheet : Stylesheet :=
  ⟨[⟨1, .atRule ⟨"import", "'b'", false⟩⟩, ⟨1, .variable ⟨"x", "1", false, false⟩⟩]⟩

def indentedSheet : Stylesheet :=
  ⟨[⟨1, .atRule ⟨"import", "'../app/a'", false⟩⟩, ⟨2, .variable ⟨"y", "2", false, false⟩⟩]⟩

theorem holds_ring : ring.Holds bracedPath bracedSheet ∧ ring.Holds indentedPath indentedSheet :=
  ⟨⟨.braced, bracedText.toUTF8.toList, bracedText.toList, by decide +kernel, by decide +kernel,
      by decide +kernel, by decide +kernel⟩,
    ⟨.indented, indentedText.toUTF8.toList, indentedText.toList, by decide +kernel,
      by decide +kernel, by decide +kernel, by decide +kernel⟩⟩

theorem imports_ring : bracedSheet.imports = ["b"] ∧ indentedSheet.imports = ["../app/a"] := by
  decide +kernel

/-- Where the entry path and the imports of the ring lead. -/
theorem means_ring : ring.Means ringEntry bracedPath ∧
    ring.Means (bracedPath.importTarget "b") indentedPath ∧
    ring.Means (indentedPath.importTarget "../app/a") bracedPath :=
  ⟨⟨⟨.ofText "/app/x/../a.scss", .braced⟩, by decide +kernel, by decide +kernel⟩,
    ⟨⟨indentedPath, .indented⟩, by decide +kernel, by decide +kernel⟩,
    ⟨⟨bracedPath, .braced⟩, by decide +kernel, by decide +kernel⟩⟩

theorem reaches_ring_iff {file : Path} :
    ring.Reaches ringEntry file ↔ file = bracedPath ∨ file = indentedPath := by
  obtain ⟨hentry, hforth, hback⟩ := means_ring
  obtain ⟨hbraced, hindented⟩ := holds_ring
  obtain ⟨himport, himport'⟩ := imports_ring
  constructor
  · intro h
    induction h with
    | entry hmeans => exact .inl (hmeans.unique hentry)
    | imported _ hholds hargument hmeans ih =>
      rcases ih with rfl | rfl
      · obtain rfl := hholds.unique hbraced
        rw [himport, List.mem_singleton] at hargument
        subst hargument
        exact .inr (hmeans.unique hforth)
      · obtain rfl := hholds.unique hindented
        rw [himport', List.mem_singleton] at hargument
        subst hargument
        exact .inl (hmeans.unique hback)
  · have hreaches : ring.Reaches ringEntry bracedPath := .entry hentry
    rintro (rfl | rfl)
    · exact hreaches
    · exact .imported hreaches hbraced (by rw [himport]; exact List.mem_singleton_self _) hforth

theorem sound_ring : ring.Sound ringEntry := by
  obtain ⟨hentry, hforth, hback⟩ := means_ring
  obtain ⟨hbraced, hindented⟩ := holds_ring
  obtain ⟨himport, himport'⟩ := imports_ring
  refine ⟨⟨_, hentry⟩, fun file hreaches => ?_⟩
  rcases reaches_ring_iff.1 hreaches with rfl | rfl
  · refine ⟨bracedSheet, hbraced, ?_⟩
    rw [himport]
    exact List.forall_mem_singleton.2 ⟨_, hforth⟩
  · refine ⟨indentedSheet, hindented, ?_⟩
    rw [himport']
    exact List.forall_mem_singleton.2 ⟨_, hback⟩

/-- The search ends although the files import each other, and finds the variables of both. -/
theorem declaredNames_exact_ring :
    ringEntry.fileName?.isSome = true ∧ ring.contents? rootPath = none ∧
      ∃ names, ring.fileSystem.declaredNames ringEntry = .ok names ∧
        ∀ name, name ∈ names ↔ name = "x" ∨ name = "y" := by
  have hname : ringEntry.fileName?.isSome = true := by decide +kernel
  have hroot : ring.contents? rootPath = none := by decide +kernel
  obtain ⟨hsound, hnames, -, -⟩ := ring.declaredNames_exact ringEntry hname hroot
  obtain ⟨names, hfound⟩ := hsound.2 sound_ring
  refine ⟨hname, hroot, names, hfound, fun name => (hnames names hfound name).trans ?_⟩
  obtain ⟨hbraced, hindented⟩ := holds_ring
  have hx : bracedSheet.variableNames = ["x"] := rfl
  have hy : indentedSheet.variableNames = ["y"] := rfl
  constructor
  · rintro ⟨file, sheet, hreaches, hholds, hvariable⟩
    rcases reaches_ring_iff.1 hreaches with rfl | rfl
    · obtain rfl := hholds.unique hbraced
      exact .inl (List.mem_singleton.1 (hx ▸ hvariable))
    · obtain rfl := hholds.unique hindented
      exact .inr (List.mem_singleton.1 (hy ▸ hvariable))
  · rintro (rfl | rfl)
    · exact ⟨_, _, reaches_ring_iff.2 (.inl rfl), hbraced, hx ▸ List.mem_singleton_self _⟩
    · exact ⟨_, _, reaches_ring_iff.2 (.inr rfl), hindented, hy ▸ List.mem_singleton_self _⟩

end StyleConstants.MemoryTree
