import StyleConstants.Closure

/-!
# The search through imports

A search is right about any set of files that is closed under imports: what it has read lies in the
set, what it has read but not followed is still pending, and when nothing is pending the files read
are closed under imports themselves. It fails only at a file that cannot be read or an import that
means no file.

* `Invariant`: what holds between two steps of a search.
* `invariant_follow`: what holds when a search has come to its end.
* `follow_snd_eq_none`: a search comes to its end if nothing that it can meet is at fault.
-/

namespace StyleConstants.Closure

variable {files : FileSystem} {Reached : Source → Prop} {seeds pending : List Path}
  {found : Closure}

/-- The file can be read and is this stylesheet of its dialect. -/
def Holds (files : FileSystem) (source : Source) (sheet : Stylesheet) : Prop :=
  ∃ text, files.readText source.path = .ok text ∧
    Stylesheet.parse source.dialect text = .ok sheet

/-- The path means a file that was read, maybe under another path. -/
def Led (files : FileSystem) (found : Closure) (path : Path) : Prop :=
  ∃ source, Source.resolve files.isFile path = .ok source ∧
    found.hasRead files (files.canonical source.path) = true

/-- A search that started with the paths `seeds` has found this much and must still follow the
paths `pending`. -/
structure Invariant (files : FileSystem) (Reached : Source → Prop) (seeds : List Path)
    (found : Closure) (pending : List Path) : Prop where
  seeds_led : ∀ path ∈ seeds, path ∈ pending ∨ found.Led files path
  pending_reached : ∀ path ∈ pending, ∀ source, Source.resolve files.isFile path = .ok source →
    Reached source
  read_held : ∀ path ∈ found.read, ∃ source sheet, source.path = path ∧ Reached source ∧
    Holds files source sheet ∧ (∀ name ∈ sheet.variableNames, name ∈ found.names) ∧
    ∀ argument ∈ sheet.imports,
      path.importTarget argument ∈ pending ∨ found.Led files (path.importTarget argument)
  names_held : ∀ name ∈ found.names, ∃ source sheet, Reached source ∧ Holds files source sheet ∧
    name ∈ sheet.variableNames

/-- Whatever the files of the set import lies in the set. -/
def IsClosed (files : FileSystem) (Reached : Source → Prop) : Prop :=
  ∀ source sheet, Reached source → Holds files source sheet → ∀ argument ∈ sheet.imports,
    ∀ next, Source.resolve files.isFile (source.path.importTarget argument) = .ok next →
      Reached next

theorem Led.of_hasRead_imp {found' : Closure} {path : Path} (h : found.Led files path)
    (hread : ∀ name, found.hasRead files name = true → found'.hasRead files name = true) :
    found'.Led files path := by
  obtain ⟨source, hsource, hsourceRead⟩ := h
  exact ⟨source, hsource, hread _ hsourceRead⟩

theorem hasRead_of_mem_read {path : Path} (h : path ∈ found.read) :
    found.hasRead files (files.canonical path) = true :=
  List.any_eq_true.2 ⟨path, h, beq_self_eq_true _⟩

theorem exists_of_hasRead {name : Path} (h : found.hasRead files name = true) :
    ∃ path ∈ found.read, files.canonical path = name := by
  obtain ⟨path, hmem, hname⟩ := List.any_eq_true.1 h
  exact ⟨path, hmem, beq_iff_eq.1 hname⟩

namespace Invariant

theorem start (hseeds : ∀ path ∈ seeds, ∀ source,
    Source.resolve files.isFile path = .ok source → Reached source) :
    Invariant files Reached seeds .empty seeds where
  seeds_led _ hpath := .inl hpath
  pending_reached := hseeds
  read_held _ hpath := nomatch hpath
  names_held _ hname := absurd hname Std.ExtTreeSet.not_mem_empty

/-- A path that means a file already read may be dropped. -/
theorem pass {path : Path} {source : Source}
    (h : Invariant files Reached seeds found (path :: pending))
    (hsource : Source.resolve files.isFile path = .ok source)
    (hread : found.hasRead files (files.canonical source.path) = true) :
    Invariant files Reached seeds found pending := by
  have hled : ∀ {other : Path}, other ∈ path :: pending ∨ found.Led files other →
      other ∈ pending ∨ found.Led files other := by
    intro other hother
    rcases hother with hmem | hother
    · rcases List.mem_cons.1 hmem with rfl | hmem
      · exact .inr ⟨source, hsource, hread⟩
      · exact .inl hmem
    · exact .inr hother
  refine ⟨fun other hother => hled (h.seeds_led other hother),
    fun other hother => h.pending_reached other (List.mem_cons_of_mem path hother), ?_,
    h.names_held⟩
  intro other hother
  obtain ⟨reader, sheet, hreader, hreached, hholds, hnames, himports⟩ := h.read_held other hother
  exact ⟨reader, sheet, hreader, hreached, hholds, hnames,
    fun argument hargument => hled (himports argument hargument)⟩

/-- Reading a file puts its names among those found and its imports among the pending paths. -/
theorem step (hclosed : IsClosed files Reached) {path : Path} {source : Source}
    {sheet : Stylesheet} (h : Invariant files Reached seeds found (path :: pending))
    (hsource : Source.resolve files.isFile path = .ok source)
    (hholds : Holds files source sheet) :
    Invariant files Reached seeds
      ((found.afterReading source.path).declare sheet.variableNames)
      (sheet.imports.map source.path.importTarget ++ pending) := by
  have hreached : Reached source := h.pending_reached path List.mem_cons_self source hsource
  let found' := (found.afterReading source.path).declare sheet.variableNames
  have hgrows : ∀ name, found.hasRead files name = true → found'.hasRead files name = true := by
    intro name hname
    change (found.afterReading source.path).hasRead files name = true
    rw [hasRead_afterReading, hname, Bool.or_true]
  have hsourceRead : found'.hasRead files (files.canonical source.path) = true :=
    hasRead_of_mem_read List.mem_cons_self
  have hnames : ∀ name, name ∈ found'.names ↔ name ∈ sheet.variableNames ∨ name ∈ found.names := by
    intro name
    change name ∈ found.names.insertMany sheet.variableNames ↔ _
    rw [Std.ExtTreeSet.mem_insertMany_list, List.contains_iff_mem, or_comm]
  have hled : ∀ {other : Path}, other ∈ path :: pending ∨ found.Led files other →
      other ∈ sheet.imports.map source.path.importTarget ++ pending ∨ found'.Led files other := by
    intro other hother
    rcases hother with hmem | hother
    · rcases List.mem_cons.1 hmem with rfl | hmem
      · exact .inr ⟨source, hsource, hsourceRead⟩
      · exact .inl (List.mem_append_right _ hmem)
    · exact .inr (hother.of_hasRead_imp hgrows)
  refine ⟨fun other hother => hled (h.seeds_led other hother), ?_, ?_, ?_⟩
  · intro other hother
    rcases List.mem_append.1 hother with hother | hother
    · obtain ⟨argument, hargument, rfl⟩ := List.mem_map.1 hother
      exact hclosed source sheet hreached hholds argument hargument
    · exact h.pending_reached other (List.mem_cons_of_mem path hother)
  · intro other hother
    rcases List.mem_cons.1 hother with rfl | hother
    · refine ⟨source, sheet, rfl, hreached, hholds, fun name hname => (hnames name).2 (.inl hname),
        fun argument hargument => .inl ?_⟩
      exact List.mem_append_left _ (List.mem_map.2 ⟨argument, hargument, rfl⟩)
    · obtain ⟨reader, other, hreader, hreached, hholds, hothers, himports⟩ := h.read_held _ hother
      exact ⟨reader, other, hreader, hreached, hholds,
        fun name hname => (hnames name).2 (.inr (hothers name hname)),
        fun argument hargument => hled (himports argument hargument)⟩
  · intro name hname
    rcases (hnames name).1 hname with hname | hname
    · exact ⟨source, sheet, hreached, hholds, hname⟩
    · exact h.names_held name hname

end Invariant

/-- When a search has come to its end, its invariant holds with nothing pending. -/
theorem invariant_follow (hclosed : IsClosed files Reached)
    (h : Invariant files Reached seeds found pending)
    (hend : (follow files found pending).2 = none) :
    Invariant files Reached seeds (follow files found pending).1 [] := by
  fun_induction follow files found pending with
  | case1 => exact h
  | case2 => cases hend
  | case3 found path pending source hsource hread ih => exact ih (h.pass hsource hread) hend
  | case4 => cases hend
  | case5 => cases hend
  | case6 found path pending source hsource hread text htext sheet hsheet ih =>
    exact ih (h.step hclosed hsource ⟨text, htext, hsheet⟩) hend

/-- The invariant that a successful search from one path ends with. -/
theorem invariant_search (hclosed : IsClosed files Reached) {path : Path}
    (hseeds : ∀ source, Source.resolve files.isFile path = .ok source → Reached source)
    {names : NameSet} (h : files.declaredNames path = .ok names) :
    (files.search path).1.names = names ∧
      Invariant files Reached [path] (files.search path).1 [] := by
  have hstart : Invariant files Reached [path] .empty [path] := by
    refine .start fun other hother source hsource => ?_
    obtain rfl := List.mem_singleton.1 hother
    exact hseeds source hsource
  rw [FileSystem.declaredNames] at h
  split at h
  · rename_i found hfound
    have hend : (follow files .empty [path]).2 = none := congrArg Prod.snd hfound
    refine ⟨?_, invariant_follow hclosed hstart hend⟩
    rw [hfound]
    exact Except.ok.inj h
  · cases h

theorem invariant_declaredNames (hclosed : IsClosed files Reached) {path : Path}
    (hseeds : ∀ source, Source.resolve files.isFile path = .ok source → Reached source)
    {names : NameSet} (h : files.declaredNames path = .ok names) :
    ∃ found : Closure, found.names = names ∧ Invariant files Reached [path] found [] :=
  ⟨_, invariant_search hclosed hseeds h⟩

/-- Nothing that a search from these paths can meet is at fault. -/
structure Faultless (files : FileSystem) (Reached : Source → Prop) (pending : List Path) :
    Prop where
  pending_resolves : ∀ path ∈ pending, ∃ source, Source.resolve files.isFile path = .ok source ∧
    Reached source
  reached_reads : ∀ source, Reached source → ∃ sheet, Holds files source sheet ∧
    ∀ argument ∈ sheet.imports, ∃ next,
      Source.resolve files.isFile (source.path.importTarget argument) = .ok next ∧ Reached next

theorem follow_snd_eq_none (h : Faultless files Reached pending) :
    (follow files found pending).2 = none := by
  fun_induction follow files found pending with
  | case1 => rfl
  | case2 found path pending fault hsource =>
    obtain ⟨source, hresolve, -⟩ := h.pending_resolves path List.mem_cons_self
    rw [hsource] at hresolve
    cases hresolve
  | case3 found path pending source hsource hread ih =>
    refine ih ⟨?_, h.reached_reads⟩
    exact fun other hother => h.pending_resolves other (List.mem_cons_of_mem path hother)
  | case4 found path pending source hsource hread fault htext =>
    obtain ⟨source', hresolve, hreached⟩ := h.pending_resolves path List.mem_cons_self
    cases hsource.symm.trans hresolve
    obtain ⟨sheet, ⟨text, hread, -⟩, -⟩ := h.reached_reads source hreached
    rw [htext] at hread
    cases hread
  | case5 found path pending source hsource hread text htext rejection hsheet =>
    obtain ⟨source', hresolve, hreached⟩ := h.pending_resolves path List.mem_cons_self
    cases hsource.symm.trans hresolve
    obtain ⟨sheet, ⟨text', hread, hparse⟩, -⟩ := h.reached_reads source hreached
    cases htext.symm.trans hread
    rw [hsheet] at hparse
    cases hparse
  | case6 found path pending source hsource hread text htext sheet hsheet ih =>
    obtain ⟨source', hresolve, hreached⟩ := h.pending_resolves path List.mem_cons_self
    cases hsource.symm.trans hresolve
    obtain ⟨sheet', ⟨text', hread, hparse⟩, himports⟩ := h.reached_reads source hreached
    cases htext.symm.trans hread
    cases hsheet.symm.trans hparse
    refine ih ⟨fun other hother => ?_, h.reached_reads⟩
    rcases List.mem_append.1 hother with hother | hother
    · obtain ⟨argument, hargument, rfl⟩ := List.mem_map.1 hother
      exact himports argument hargument
    · exact h.pending_resolves other (List.mem_cons_of_mem path hother)

end StyleConstants.Closure

namespace StyleConstants.FileSystem

/-- A search succeeds if nothing that it can meet is at fault. -/
theorem exists_declaredNames {files : FileSystem} {Reached : Source → Prop} {path : Path}
    (h : Closure.Faultless files Reached [path]) :
    ∃ names, files.declaredNames path = .ok names := by
  have hend : (Closure.follow files .empty [path]).2 = none := Closure.follow_snd_eq_none h
  refine ⟨(files.search path).1.names, ?_⟩
  rw [declaredNames]
  split
  · rename_i found hfound
    rw [hfound]
  · rename_i found fault hfound
    rw [search] at hfound
    rw [hfound] at hend
    cases hend

/-- A search from a file without imports finds what this file declares. -/
theorem declaredNames_of_single {files : FileSystem} {path : Path} {source : Source}
    {sheet : Stylesheet} (hsource : Source.resolve files.isFile path = .ok source)
    (hsheet : Closure.Holds files source sheet) (himports : sheet.imports = []) :
    files.declaredNames path =
      .ok ((Closure.empty.afterReading source.path).declare sheet.variableNames).names := by
  obtain ⟨text, htext, hparse⟩ := hsheet
  have hfollow : Closure.follow files .empty [path] =
      ((Closure.empty.afterReading source.path).declare sheet.variableNames, none) := by
    rw [Closure.follow]
    split
    · rename_i fault hfault
      cases hsource.symm.trans hfault
    · rename_i source' hsource'
      cases hsource.symm.trans hsource'
      rw [dif_neg (by simp [Closure.hasRead, Closure.empty]), htext]
      dsimp only
      rw [hparse]
      dsimp only
      rw [himports, List.map_nil, List.nil_append, Closure.follow]
  rw [declaredNames, search, hfollow]

end StyleConstants.FileSystem
