import StyleConstants.Proofs.Engine.Stylesheets
import StyleConstants.Proofs.Source.Probing

/-!
# One file per request

A request resolves its path, and the search that it may start resolves what came out once more.
Since resolution stays with a file once found, the search starts at the file whose import is
submitted, and the values are kept under the name of that same file. The import is a text, however,
and names the file only if that text spells its path and can stand in a literal.

* `Closure.exists_read_eq`: a search reads first what its path means.
* `Probe.request_names_iff`: what the stylesheet names, by the text for the path of its file.
* `Engine.IsFor`: all that a request reads, submits, keeps and answers is about one file.
* `Engine.one_file_per_request`: which file a path means, and that a request is about this one.
* `Engine.file_is_named_otherwise`: a partial that is missed, and files that are not named.
-/

namespace StyleConstants

/-- A search reads first the file that its path means. -/
theorem Closure.exists_read_eq {files : FileSystem} {path : Path} {source : Source}
    (h : Source.resolve files.isFile path = .ok source) :
    ∃ others, (files.search path).1.read.reverse = source.path :: others := by
  have hdepth : unreadOf files files.names .empty < files.names.length + 1 :=
    Nat.lt_succ_of_le List.countP_le_length
  obtain ⟨reads, parses, found, fault, hvisits⟩ :=
    exists_visits (fun _ => FileSystem.canonical_mem) _ .empty [path] hdepth
  rw [hvisits.search_eq, hvisits.read_eq, empty, List.append_nil, List.reverse_reverse]
  cases hvisits with
  | unresolved hfault => cases h.symm.trans hfault
  | passed _ hread => cases hread
  | unreadable hmeets => cases h.symm.trans hmeets.resolved; exact ⟨_, rfl⟩
  | unparsed hmeets => cases h.symm.trans hmeets.resolved; exact ⟨_, rfl⟩
  | stopped hmeets => cases h.symm.trans hmeets.resolved; exact ⟨_, rfl⟩
  | followed hmeets => cases h.symm.trans hmeets.resolved; exact ⟨_, rfl⟩

/-! ## What a stylesheet imports -/

/-- The stylesheet begins with the import of a literal that is the text for the path of this
file. -/
def RenderRequest.Imports (request : RenderRequest) (file : Path) : Prop :=
  ∃ argument rest, request.sheet.toList = "@import ".toList ++ argument ++ ';' :: rest ∧
    Stylesheet.literalOf argument = some file.text.toList

/-- The stylesheet can be read, and what it imports is the path of this file and nothing else. -/
def RenderRequest.Names (request : RenderRequest) (file : Path) : Prop :=
  ∃ sheet text, Stylesheet.parse .braced request.sheet.toList = .ok sheet ∧
    sheet.imports = [text] ∧ Path.ofText text = file

/-- The path is spelled by a text that a literal can hold as it is: one without a line break, which
would end the literal too early, and without an interpolation. -/
def Path.IsLiteral (path : Path) : Prop :=
  ∃ text, ofText text = path ∧ '\n' ∉ text.toList ∧ ¬ ['#', '{'] <:+: text.toList

namespace Probe

theorem toList_sheet_request (probe : Probe) (file : Path) (set : MarkerSet) :
    (probe.request file set).sheet.toList = set.sheetText file :=
  set.toList_sheet file

theorem request_imports (probe : Probe) (file : Path) (set : MarkerSet) :
    (probe.request file set).Imports file := by
  have hquote : Stylesheet.Lexeme.isQuote '"' = true := by decide
  have hopen : "@import \"".toList = "@import ".toList ++ ['"'] := by decide
  have hclose : "\";\n".toList = ['"', ';', '\n'] := by decide
  obtain ⟨rest, hrest⟩ : ∃ rest, set.sheetText file =
      "@import ".toList ++ Stylesheet.literal '"' file.text.toList ++ ';' :: rest := by
    unfold MarkerSet.sheetText Stylesheet.literal
    simp only [hopen, hclose, List.append_assoc, List.cons_append, List.nil_append]
    exact ⟨_, rfl⟩
  exact ⟨_, rest, (toList_sheet_request ..).trans hrest, Stylesheet.literalOf_literal hquote _⟩

variable {probe : Probe} {file : Path} {set : MarkerSet}

theorem parse_request_of_break (probe : Probe) (set : MarkerSet)
    (hbreak : '\n' ∈ file.text.toList) : ∃ rejection,
      Stylesheet.parse .braced (probe.request file set).sheet.toList = .error rejection := by
  rw [toList_sheet_request]
  exact set.parse_sheetText_of_break hbreak

section Literal

variable (htoken : ∀ c ∈ set.token.text.toList, Stylesheet.IsKeywordChar c)
  (hnames : ∀ name ∈ set.names, Stylesheet.isVariableName name.toList = true)

include htoken hnames

theorem imports_request (hline : '\n' ∉ file.text.toList) : ∃ sheet,
    Stylesheet.parse .braced (probe.request file set).sheet.toList = .ok sheet ∧
      sheet.imports = if ['#', '{'] <:+: file.text.toList then [] else [file.text] := by
  have hitem : (Stylesheet.Item.atRule ⟨"import",
      String.ofList (Stylesheet.literal '"' file.text.toList), false⟩).import? =
        if ['#', '{'] <:+: file.text.toList then none else some file.text :=
    Stylesheet.importPath_literal (by decide) file.text
  rw [toList_sheet_request, MarkerSet.parse_sheetText_of_line htoken hnames hline]
  refine ⟨_, rfl, ?_⟩
  rw [Stylesheet.imports, List.filterMap_cons, hitem]
  split_ifs <;> rfl

/-- The stylesheet names what the text for the path of its file spells, or nothing. -/
theorem request_names_iff {other : Path} : (probe.request file set).Names other ↔
    Path.ofText file.text = other ∧ '\n' ∉ file.text.toList ∧
      ¬ ['#', '{'] <:+: file.text.toList := by
  constructor
  · rintro ⟨sheet, text, hparse, himports, rfl⟩
    have hline : '\n' ∉ file.text.toList := by
      intro hbreak
      obtain ⟨rejection, hrejection⟩ := probe.parse_request_of_break set hbreak
      cases hparse.symm.trans hrejection
    obtain ⟨sheet', hparse', himports'⟩ := imports_request htoken hnames hline
    cases hparse.symm.trans hparse'
    rw [himports] at himports'
    split at himports'
    · cases himports'
    · rename_i hplain
      rw [List.singleton_inj.1 himports']
      exact ⟨rfl, hline, hplain⟩
  · rintro ⟨rfl, hline, hplain⟩
    obtain ⟨sheet, hparse, himports⟩ := imports_request htoken hnames hline
    rw [if_neg hplain] at himports
    exact ⟨sheet, _, hparse, himports, rfl⟩

/-- The stylesheet names its file if and only if a literal can hold the path. -/
theorem request_names_self_iff : (probe.request file set).Names file ↔ file.IsLiteral := by
  rw [request_names_iff htoken hnames]
  constructor
  · exact fun h => ⟨_, h⟩
  · rintro ⟨text, rfl, h⟩
    rw [Path.text_ofText]
    exact ⟨rfl, h⟩

end Literal

end Probe

namespace Engine

variable {engine : Engine} {state : State} {path : Path} {source : Source} {wanted : Request}

/-- What a request read, submitted, kept and answered, if it did, is about this file: the search
starts there, the stylesheet imports it by the text for its path, which names it exactly if a
literal can hold the path, and the cache changes under its name alone. -/
structure IsFor (engine : Engine) (before : State) (served : Except Failure Values × State)
    (file : Path) : Prop where
  searched : served.2.reads = before.reads ∨
    ∃ others, served.2.reads = before.reads ++ file :: others
  submitted : served.2.renders = before.renders ∨ ∃ request : RenderRequest,
    served.2.renders = before.renders ++ [request] ∧ request.Imports file ∧
      ((∀ c ∈ engine.token.text.toList, Stylesheet.IsKeywordChar c) →
        (request.Names file ↔ file.IsLiteral))
  kept : ∀ key, (before.files.canonical file).sameAs key = false →
    served.2.cache.get? key = before.cache.get? key ∧
      served.2.cache.isComplete key = before.cache.isComplete key
  answered : ∀ values, served.1 = .ok values →
    served.2.cache.get? (before.files.canonical file) = some values

theorem locate_of_resolve (h : Source.resolve state.files.isFile path = .ok source) :
    state.locate path = .ok (source.path, state.files.canonical source.path) := by
  rw [State.locate, h]

/-- A request submits what asks for some variables of its file, or nothing. -/
theorem exists_renders_serve (h : Source.resolve state.files.isFile wanted.path = .ok source) :
    ∃ names : List String, (∀ name ∈ names, Stylesheet.isVariableName name.toList = true) ∧
      (engine.serve state wanted).2.renders =
        state.renders ++ engine.submission source.path names := by
  have hnone : state.renders = state.renders ++ engine.submission source.path [] :=
    (List.append_nil _).symm
  cases wanted with
  | all path =>
    have hlocate : state.locate path = _ := locate_of_resolve h
    cases hcomplete : state.cache.isComplete (state.files.canonical source.path) with
    | true =>
      refine ⟨[], nofun, Eq.trans ?_ hnone⟩
      rw [serve, allValues_of_isComplete hlocate hcomplete]
      rfl
    | false =>
      cases hnames : state.files.declaredNames source.path with
      | error fault =>
        exact ⟨[], nofun, (renders_allValues_of_unsearched hlocate hcomplete hnames).trans hnone⟩
      | ok names =>
        refine ⟨_, fun name hname => ?_, renders_allValues hlocate hcomplete hnames⟩
        exact FileSystem.isVariableName_of_mem_declaredNames hnames
          (Std.ExtTreeSet.mem_toList.1 (List.mem_filter.1 hname).1)
  | named path names =>
    have hlocate : state.locate path = _ := locate_of_resolve h
    have hrenders := @renders_namedValues engine _ _ _ _ names hlocate
    split at hrenders
    · rename_i hvalid
      exact ⟨_, List.forall_mem_map.2 (invalid_eq_nil_iff.1 hvalid), hrenders⟩
    · exact ⟨[], nofun, (hrenders.trans (List.append_nil _)).trans hnone⟩

/-- A request searches from its file, or not at all. -/
theorem exists_reads_serve (h : Source.resolve state.files.isFile wanted.path = .ok source) :
    (engine.serve state wanted).2.reads = state.reads ∨
      ∃ others, (engine.serve state wanted).2.reads = state.reads ++ source.path :: others := by
  cases wanted with
  | all path =>
    have hlocate : state.locate path = _ := locate_of_resolve h
    rw [serve]
    cases hcomplete : state.cache.isComplete (state.files.canonical source.path) with
    | true =>
      rw [allValues_of_isComplete hlocate hcomplete]
      exact .inl rfl
    | false =>
      obtain ⟨others, hothers⟩ := Closure.exists_read_eq (Source.resolve_of_resolve h)
      rw [reads_allValues hlocate hcomplete, hothers]
      exact .inr ⟨others, rfl⟩
  | named path names => exact .inl (reads_namedValues names)

theorem submitted_serve (h : Source.resolve state.files.isFile wanted.path = .ok source) :
    (engine.serve state wanted).2.renders = state.renders ∨ ∃ request : RenderRequest,
      (engine.serve state wanted).2.renders = state.renders ++ [request] ∧
        request.Imports source.path ∧
        ((∀ c ∈ engine.token.text.toList, Stylesheet.IsKeywordChar c) →
          (request.Names source.path ↔ source.path.IsLiteral)) := by
  obtain ⟨names, hvalid, hrenders⟩ := @exists_renders_serve engine _ _ _ h
  rw [hrenders, submission]
  split
  · rw [List.append_nil]
    exact .inl rfl
  · refine .inr ⟨_, rfl, engine.probe.request_imports _ _, fun htoken => ?_⟩
    exact Probe.request_names_self_iff htoken
      fun name hname => hvalid name (MarkerSet.mem_names_ofNames.1 hname)

theorem isFor_serve (h : Source.resolve state.files.isFile wanted.path = .ok source) :
    IsFor engine state (engine.serve state wanted) source.path where
  searched := exists_reads_serve h
  submitted := submitted_serve h
  kept _ hkey := ((effect_serve wanted).located (locate_of_resolve h)).other hkey
  answered values hvalues := by
    have hcached := cached_of_serve_eq_ok hvalues
    rwa [State.cached, locate_eq_of_files_eq (effect_serve wanted).files, locate_of_resolve h]
      at hcached

theorem serve_of_unresolved {fault : Failure}
    (h : Source.resolve state.files.isFile wanted.path = .error fault) :
    engine.serve state wanted = (.error fault, state) := by
  have hlocate : state.locate wanted.path = .error fault := by rw [State.locate, h]
  cases wanted with
  | all path => exact allValues_of_unlocated hlocate
  | named path names => exact namedValues_of_unlocated hlocate

/-- **A request is about one file.** Whichever paths lead to files: a path with another extension
than those of the dialects is refused; of the files that any other path may mean, the first that is
there is taken, and the path is refused exactly if none is; and what a path is resolved to is
resolved to itself. So a request that is refused its path does nothing; any other searches from the
file to which its path is resolved, keeps and answers what it learns under the name of this file,
and submits the import of the text for its path. This names the file exactly if a text spells the
path that can stand in a literal. -/
theorem one_file_per_request (isFile : Path → Bool) (path : Path) (engine : Engine) (state : State)
    (wanted : Request) :
    ((∀ extension, path.extension? = some extension → extension ≠ "sass" → extension ≠ "scss" →
        Source.resolve isFile path = .error (.unknownExtension path extension)) ∧
      ((∃ extension, path.extension? = some extension ∧ extension ≠ "sass" ∧ extension ≠ "scss") ∨
        ∃ sources, Source.Tries path sources ∧
          (∀ source, Source.resolve isFile path = .ok source ↔
            Source.IsFirst isFile sources source) ∧
          (Source.resolve isFile path = .error (.noSource path) ↔
            ∀ source ∈ sources, isFile source.path = false)) ∧
      ∀ source, Source.resolve isFile path = .ok source →
        Source.resolve isFile source.path = .ok source) ∧
    (∀ fault, Source.resolve state.files.isFile wanted.path = .error fault →
      engine.serve state wanted = (.error fault, state)) ∧
    ∀ source, Source.resolve state.files.isFile wanted.path = .ok source →
      state.cached wanted.path = state.cache.get? (state.files.canonical source.path) ∧
      IsFor engine state (engine.serve state wanted) source.path := by
  have hother : ∀ {extension : String}, extension ≠ "sass" → extension ≠ "scss" →
      ∀ dialect : Dialect, dialect.extension ≠ extension := by
    intro extension hsass hscss dialect
    cases dialect with
    | indented => exact hsass.symm
    | braced => exact hscss.symm
  refine ⟨⟨?_, ?_, fun source => Source.resolve_of_resolve⟩, fun fault => serve_of_unresolved,
    fun source h => ⟨?_, isFor_serve h⟩⟩
  · intro extension hextension hsass hscss
    exact Source.resolve_of_other hextension (hother hsass hscss)
  · rcases Source.exists_tries_or path with ⟨sources, htries⟩ | ⟨extension, hextension, hdialect⟩
    · exact .inr ⟨sources, htries, fun source => Source.resolve_eq_ok_iff_isFirst htries,
        Source.resolve_eq_noSource_iff htries⟩
    · exact .inl ⟨extension, hextension, (hdialect .indented).symm, (hdialect .braced).symm⟩
  · rw [State.cached, locate_of_resolve h]

/-- A partial whose stem is the underscore alone. -/
def dottedTree : MemoryTree := MemoryTree.empty.add (.ofText "/_.sass") "$a: 1".toUTF8.toList

/-- A path that ends in a slash. Its name starts with its only dot and so has no extension, but the
name of its partial has one, which is replaced. -/
def dottedPath : Path := .ofText "/.scss/"

/-- An engine whose compiler knows one variable. -/
def askingEngine : Engine :=
  ⟨⟨.identity, .identity⟩, ⟨.prepared [] (.ok "#vars_0f\x7b--a_0f:1\x7d"), .declarations, []⟩,
    ⟨"0f"⟩⟩

theorem one_file_per_request_dotted :
    let files := dottedTree.fileSystem
    let source : Source := ⟨.ofText "/_.sass", .indented⟩
    (∃ sources, Source.Tries dottedPath sources ∧ Source.IsFirst files.isFile sources source) ∧
      Source.resolve files.isFile dottedPath = .ok source ∧
      Source.resolve files.isFile source.path = .ok source ∧
      ∀ engine : Engine, IsFor engine (.fresh files)
        (engine.serve (.fresh files) (.all dottedPath)) source.path := by
  intro files source
  have hsource : Source.resolve files.isFile dottedPath = .ok source := by decide +kernel
  have hbare : dottedPath.extension? = none := by decide +kernel
  have hwhole (engine : Engine) :=
    one_file_per_request files.isFile dottedPath engine (.fresh files) (.all dottedPath)
  refine ⟨?_, hsource, ?_, fun engine => ((hwhole engine).2.2 source hsource).2⟩
  · obtain ⟨-, htries, -⟩ := (hwhole askingEngine).1
    obtain ⟨extension, hextension, -⟩ | ⟨sources, hsources, hfirst, -⟩ := htries
    · cases hbare.symm.trans hextension
    · exact ⟨sources, hsources, (hfirst source).1 hsource⟩
  · exact (hwhole askingEngine).1.2.2 source hsource

/-! ## Files that are named otherwise -/

/-- A file system with one file. -/
def holding (path : Path) : FileSystem :=
  (MemoryTree.empty.add path "$a: 1".toUTF8.toList).fileSystem

/-- A name that no text spells, since no character starts with its first byte. -/
def strayName : List UInt8 := 0xFF :: Text.Utf8.encode ".scss".toList

def strayPath : Path := ⟨Path.slash :: strayName⟩

def strayPartial : Path := ⟨Path.slash :: Source.underscore :: strayName⟩

def brokenPath : Path := .ofText "/a\nb.scss"

/-- The state after asking for the variable in a file. -/
def askedState (path : Path) : State :=
  (askingEngine.serve (.fresh (holding path)) (.named path ["a"])).2

/-- The partial of a path is there and is not found, as its name is tried with a replacement; the
stylesheet names a file with the replacement, which is not there; and with a line break in the path
there is no import that can be read. -/
theorem file_is_named_otherwise :
    strayPartial = strayPath.withFileName (Source.underscore :: strayName) ∧
      (holding strayPartial).isFile strayPartial = true ∧
      Source.resolve (holding strayPartial).isFile strayPath = .error (.noSource strayPath) ∧
    Source.resolve (holding strayPath).isFile strayPath = .ok ⟨strayPath, .braced⟩ ∧
      (holding strayPath).isFile (.ofText "/\uFFFD.scss") = false ∧
      (∃ request, (askedState strayPath).renders = [request] ∧
        request.Names (.ofText "/\uFFFD.scss")) ∧
    Source.resolve (holding brokenPath).isFile brokenPath = .ok ⟨brokenPath, .braced⟩ ∧
      ∃ request rejection, (askedState brokenPath).renders = [request] ∧
        Stylesheet.parse .braced request.sheet.toList = .error rejection := by
  have htoken : ∀ c ∈ askingEngine.token.text.toList, Stylesheet.IsKeywordChar c :=
    Text.forall_mem_of_all (by decide)
  have hnames : ∀ name ∈ (MarkerSet.ofNames askingEngine.token ["a"]).names,
      Stylesheet.isVariableName name.toList = true := by
    intro name hname
    rw [List.mem_singleton.1 (MarkerSet.mem_names_ofNames.1 hname)]
    decide
  have htext : Path.ofText strayPath.text = .ofText "/\uFFFD.scss" := by decide +kernel
  have hline : '\n' ∉ strayPath.text.toList := by decide +kernel
  have hplain : ¬ ['#', '{'] <:+: strayPath.text.toList := by decide +kernel
  have hbreak : '\n' ∈ brokenPath.text.toList := by decide +kernel
  obtain ⟨rejection, hrejection⟩ :=
    askingEngine.probe.parse_request_of_break (.ofNames askingEngine.token ["a"]) hbreak
  exact ⟨by decide +kernel, by decide +kernel, by decide +kernel, by decide +kernel,
    by decide +kernel,
    ⟨_, rfl, (Probe.request_names_iff htoken hnames).2 ⟨htext, hline, hplain⟩⟩, by decide +kernel,
    _, rejection, rfl, hrejection⟩

end Engine

end StyleConstants
