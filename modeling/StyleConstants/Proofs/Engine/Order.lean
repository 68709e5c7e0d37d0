import StyleConstants.Proofs.Closure.Reachable
import StyleConstants.Proofs.Engine.Settled

/-!
# The order of requests does not matter

Requests about one file, under any of its spellings, are granted or refused whatever was asked
before, and what the cache holds in the end depends on which requests were made and not on their
order. This takes a compiler that gives the values of the declared variables and of no others, and
names that are not confused when they are converted.

* `settled_run`: what a list of requests settles.
* `Settled.eq_of_mem_iff`: the cache depends on which requests these were.
* `order_is_irrelevant`: a list of requests about a file in memory, and any permutation of it.
-/

namespace StyleConstants.Engine

variable {engine : Engine} {files : FileSystem} {state : State} {key : Path}
  {found? : Option NameSet} {declared scope : Set String} {value : String → String}
  {wanted : Request} {past requests other : List Request}

/-! ## Runs -/

section Run

variable (hevaluates : engine.Evaluates files key declared value)
  (hinjective : Set.InjOn engine.cases.toOutput.apply scope) (hdeclared : declared ⊆ scope)
  (hadmits : ∀ wanted ∈ requests, engine.Admits files key found? scope wanted)

include hevaluates hinjective hdeclared hadmits

theorem Settled.run (h : engine.Settled files key found? declared value past state) :
    engine.Settled files key found? declared value (past ++ requests)
      (engine.run state (requests.map .request)) := by
  induction requests generalizing past state with
  | nil => rwa [List.append_nil]
  | cons wanted requests ih =>
    have hnext := (h.serve (hadmits wanted List.mem_cons_self) hevaluates hinjective hdeclared).2
    have hrest := ih (fun other hother => hadmits other (List.mem_cons_of_mem wanted hother)) hnext
    rwa [List.append_assoc, List.singleton_append] at hrest

theorem settled_run : engine.Settled files key found? declared value requests
    (engine.run (.fresh files) (requests.map .request)) :=
  settled_fresh.run hevaluates hinjective hdeclared hadmits

/-- Whether a request is answered does not depend on those before it. -/
theorem exists_ok_iff {earlier later : List Request} (h : requests = earlier ++ wanted :: later) :
    (∃ values, (engine.serve (engine.run (.fresh files) (earlier.map .request)) wanted).1 =
      .ok values) ↔ ∃ names, engine.Grants found? declared wanted names := by
  subst h
  have hearlier := settled_run hevaluates hinjective hdeclared fun other hother =>
    hadmits other (List.mem_append_left _ hother)
  have hwanted := hadmits wanted (List.mem_append_right _ List.mem_cons_self)
  exact (hearlier.serve hwanted hevaluates hinjective hdeclared).1

end Run

theorem Lists.unique {a b : Values} {names : Set String} (ha : engine.Lists value a names)
    (hb : engine.Lists value b names) : a = b := by
  refine Std.ExtTreeMap.ext_getElem? fun output => Option.ext fun found => ?_
  rw [ha, hb]

theorem granted_congr (h : ∀ wanted, wanted ∈ requests ↔ wanted ∈ other) :
    engine.granted found? declared requests = engine.granted found? declared other := by
  ext name
  exact exists_congr fun wanted => and_congr_left fun _ => h wanted

theorem get?_eq_of_known_eq {a b : Cache} (hentry : (a.get? key).isSome = (b.get? key).isSome)
    (hknown : a.known key = b.known key) : a.get? key = b.get? key := by
  rw [Cache.known, Cache.known] at hknown
  cases ha : a.get? key with
  | none =>
    rw [ha] at hentry
    exact (Option.isNone_iff_eq_none.1 (Option.isSome_eq_false_iff.1 hentry.symm)).symm
  | some values =>
    rw [ha] at hentry hknown
    obtain ⟨values', hb⟩ := Option.isSome_iff_exists.1 hentry.symm
    rw [hb] at hknown ⊢
    exact congrArg some hknown

/-- What the cache holds depends on which requests were made, and on nothing else. -/
theorem Settled.eq_of_mem_iff {a b : State}
    (ha : engine.Settled files key found? declared value requests a)
    (hb : engine.Settled files key found? declared value other b)
    (h : ∀ wanted, wanted ∈ requests ↔ wanted ∈ other) :
    a.cache.get? key = b.cache.get? key ∧ a.cache.isComplete key = b.cache.isComplete key := by
  constructor
  · apply get?_eq_of_known_eq
    · rw [Bool.eq_iff_iff, ha.entry, hb.entry]
      exact exists_congr fun wanted => and_congr_left fun _ => h wanted
    · have hlists := hb.lists
      rw [← granted_congr h] at hlists
      exact ha.lists.unique hlists
  · rw [Bool.eq_iff_iff, ha.complete, hb.complete]
    exact exists_congr fun path => and_congr_left fun _ => h (.all path)

/-! ## Files in memory -/

/-- The names that have to be told apart: those declared, those that a search from one of the
requests finds, and the declared forms of those requested. -/
def concerned (engine : Engine) (files : FileSystem) (declared : Set String)
    (requests : List Request) : Set String :=
  declared ∪
    {name | ∃ wanted ∈ requests, ∃ target located found,
      (State.fresh files).locate wanted.path = .ok (target, located) ∧
        files.declaredNames target = .ok found ∧ name ∈ found} ∪
    {name | ∃ wanted ∈ requests, ∃ asked ∈ wanted.names,
      engine.cases.toDeclared.apply asked = name}

theorem declared_subset_concerned : declared ⊆ engine.concerned files declared requests :=
  fun _ hname => .inl (.inl hname)

theorem wants_subset_concerned (hwanted : wanted ∈ requests) {target located : Path}
    (hleads : Leads files key found? wanted.path target located) {names : Set String}
    (hwants : engine.wants found? wanted = some names) :
    names ⊆ engine.concerned files declared requests := by
  intro name hname
  cases wanted with
  | all path =>
    have hfound := hleads.found
    cases hsearch : files.declaredNames target with
    | error fault =>
      rw [hsearch] at hfound
      rw [← hfound] at hwants
      cases hwants
    | ok found =>
      rw [hsearch] at hfound
      rw [← hfound] at hwants
      cases hwants
      exact .inl (.inr ⟨.all path, hwanted, target, located, found, hleads.locate, hsearch, hname⟩)
  | named path requested =>
    cases hwants
    exact .inr ⟨.named path requested, hwanted, hname⟩

end StyleConstants.Engine

namespace StyleConstants.MemoryTree

open Engine

variable {tree : MemoryTree} {path target located : Path}

theorem isDirect_of_locate (hname : path.fileName?.isSome = true)
    (h : (State.fresh tree.fileSystem).locate path = .ok (target, located)) : target.IsDirect := by
  obtain ⟨name, hname⟩ := Option.isSome_iff_exists.1 hname
  unfold State.locate at h
  split at h
  · rename_i source hsource
    cases h
    obtain ⟨_, -, hdirect⟩ := isDirect_of_extension? (Source.extension?_of_resolve hname hsource)
    exact hdirect
  · cases h

/-- Wherever the spellings of one file lead, a search from there finds the same. -/
theorem toOption_declaredNames_congr (hroot : tree.contents? Path.rootPath = none) {a b : Path}
    (ha : a.IsDirect) (hb : b.IsDirect) (h : a.route = b.route) :
    (tree.fileSystem.declaredNames a).toOption = (tree.fileSystem.declaredNames b).toOption := by
  cases hnames : tree.fileSystem.declaredNames a with
  | ok names => rw [declaredNames_congr hroot ha hb h hnames]
  | error fault =>
    cases hnames' : tree.fileSystem.declaredNames b with
    | error fault' => rfl
    | ok names =>
      cases hnames.symm.trans (declaredNames_congr hroot hb ha h.symm hnames')

variable {key : Path} {requests : List Request}

/-- Requests about one file lead to spellings of its place. -/
theorem route_eq_of_concerns {wanted : Request} (hname : wanted.path.fileName?.isSome = true)
    (hconcerns : (Event.request wanted).Concerns (.fresh tree.fileSystem) key) :
    ∃ target located, (State.fresh tree.fileSystem).locate wanted.path = .ok (target, located) ∧
      located.sameAs key = true ∧ target.IsDirect ∧ target.route = key.route := by
  obtain ⟨path, hpath, target, located, hlocate, hsame⟩ := hconcerns
  cases hpath
  refine ⟨target, located, hlocate, hsame, isDirect_of_locate hname hlocate, ?_⟩
  have hplace : place target = located :=
    (tree.canonical_fileSystem target).symm.trans (canonical_of_locate hlocate)
  rw [← route_place, hplace, Path.route, Path.sameAs_iff.1 hsame, ← Path.route]

theorem exists_leads (hroot : tree.contents? Path.rootPath = none)
    (hpaths : ∀ wanted ∈ requests, wanted.path.fileName?.isSome = true ∧
      (Event.request wanted).Concerns (.fresh tree.fileSystem) key) :
    ∃ found?, ∀ wanted ∈ requests, ∃ target located,
      Leads tree.fileSystem key found? wanted.path target located := by
  cases requests with
  | nil => exact ⟨none, fun _ hwanted => nomatch hwanted⟩
  | cons first requests =>
    obtain ⟨hname, hconcerns⟩ := hpaths first List.mem_cons_self
    obtain ⟨start, -, -, -, hstart, hroute⟩ := route_eq_of_concerns hname hconcerns
    refine ⟨(tree.fileSystem.declaredNames start).toOption, fun wanted hwanted => ?_⟩
    obtain ⟨hname', hconcerns'⟩ := hpaths wanted hwanted
    obtain ⟨target, located, hlocate, hsame, hdirect, hroute'⟩ :=
      route_eq_of_concerns hname' hconcerns'
    exact ⟨target, located, hlocate, hsame,
      toOption_declaredNames_congr hroot hdirect hstart (hroute'.trans hroute.symm)⟩

/-- **The order of requests does not matter.** Files in memory, none of them at the root, and a
compiler and a reader that give the values of the declared variables of a file and of no others.
Requests about the file, made in any order, succeed or fail as in any other order, and in the end
the file has the same entry and the same mark, as long as no two of the names concerned are handed
out as one and every name requested is handed out as it was requested. -/
theorem order_is_irrelevant (tree : MemoryTree) (hroot : tree.contents? Path.rootPath = none)
    (engine : Engine) (key : Path) (declared : Set String) (value : String → String)
    (hevaluates : engine.Evaluates tree.fileSystem key declared value) (requests : List Request)
    (hpaths : ∀ wanted ∈ requests, wanted.path.fileName?.isSome = true ∧
      (Event.request wanted).Concerns (.fresh tree.fileSystem) key)
    (hinjective : Set.InjOn engine.cases.toOutput.apply
      (engine.concerned tree.fileSystem declared requests))
    (hround : ∀ wanted ∈ requests, ∀ name ∈ wanted.names,
      engine.cases.toOutput.apply (engine.cases.toDeclared.apply name) = name)
    (other : List Request) (hperm : requests.Perm other) :
    let state (past : List Request) := engine.run (.fresh tree.fileSystem) (past.map .request)
    (∀ wanted earlier later earlier' later', requests = earlier ++ wanted :: later →
      other = earlier' ++ wanted :: later' →
        ((∃ values, (engine.serve (state earlier) wanted).1 = .ok values) ↔
          ∃ values, (engine.serve (state earlier') wanted).1 = .ok values)) ∧
      (state requests).cache.get? key = (state other).cache.get? key ∧
      (state requests).cache.isComplete key = (state other).cache.isComplete key := by
  intro state
  obtain ⟨found?, hleads⟩ := exists_leads hroot hpaths
  have hdeclared : declared ⊆ engine.concerned tree.fileSystem declared requests :=
    declared_subset_concerned
  have hadmits : ∀ wanted ∈ requests, engine.Admits tree.fileSystem key found?
      (engine.concerned tree.fileSystem declared requests) wanted := by
    intro wanted hwanted
    obtain ⟨target, located, hlead⟩ := hleads wanted hwanted
    exact ⟨⟨target, located, hlead⟩,
      fun names hwants => wants_subset_concerned hwanted hlead hwants, hround wanted hwanted⟩
  have hadmits' : ∀ wanted ∈ other, engine.Admits tree.fileSystem key found?
      (engine.concerned tree.fileSystem declared requests) wanted :=
    fun wanted hwanted => hadmits wanted (hperm.mem_iff.2 hwanted)
  refine ⟨?_, ?_⟩
  · intro wanted earlier later earlier' later' hsplit hsplit'
    rw [exists_ok_iff hevaluates hinjective hdeclared hadmits hsplit,
      exists_ok_iff hevaluates hinjective hdeclared hadmits' hsplit']
  · exact (settled_run hevaluates hinjective hdeclared hadmits).eq_of_mem_iff
      (settled_run hevaluates hinjective hdeclared hadmits') fun wanted => hperm.mem_iff

/-- A file with one variable. -/
def singleTree : MemoryTree := empty.add (.ofText "/a.scss") "$x: 1px".toUTF8.toList

/-- The reader that knows one variable. -/
def singleReader : OutputReader := fun set _ =>
  if set.names.all (· == "x") then .ok (.ofList [("x", "1px")])
  else .error (.readback (.missing "" ""))

/-- Names are handed out with a mark at the end. -/
def singleEngine : Engine where
  cases := ⟨.custom fun name => String.ofList name.toList.dropLast, .custom (· ++ "!")⟩
  probe := ⟨fun _ _ => .ok "", singleReader, []⟩
  token := ⟨"0f"⟩

theorem evaluates_singleEngine (files : FileSystem) (key : Path) :
    singleEngine.Evaluates files key {"x"} fun _ => "1px" := by
  intro earlier target names _ hne _
  have hevaluate : singleEngine.evaluate earlier target names =
      singleReader (.ofNames singleEngine.token names) "" := rfl
  have hall : ((MarkerSet.ofNames singleEngine.token names).names.all (· == "x")) = true ↔
      ∀ name ∈ names, name = "x" := by
    simp only [List.all_eq_true, MarkerSet.mem_names_ofNames, beq_iff_eq]
  have hread : ∀ name : String, (Std.ExtTreeMap.ofList [("x", "1px")] : Values)[name]? =
      if "x" = name then some "1px" else none := by
    intro name
    simp only [Std.ExtTreeMap.ofList_singleton, Std.ExtTreeMap.getElem?_insert,
      Std.ExtTreeMap.getElem?_empty, Std.LawfulEqOrd.compare_eq_iff_eq]
  constructor
  · intro hdeclared
    have hx : "x" ∈ names := by
      obtain ⟨name, hname⟩ := List.exists_mem_of_ne_nil names hne
      exact hdeclared name hname ▸ hname
    refine ⟨.ofList [("x", "1px")], ?_, fun name found => ?_⟩
    · rw [hevaluate, singleReader, if_pos (hall.2 hdeclared)]
    · rw [hread, Option.ite_none_right_eq_some, Option.some_inj]
      refine and_congr_left fun _ => ⟨?_, fun hname => (hdeclared name hname).symm⟩
      rintro rfl
      exact hx
  · rintro ⟨name, hname, hother⟩
    rw [hevaluate, singleReader, if_neg fun h => hother (hall.1 h name hname)]
    exact ⟨_, rfl⟩

/-- A request for the variable, one for all under another spelling, and one that is refused. -/
def singleRequests : List Request :=
  [.named (.ofText "/a") ["x!"], .all (.ofText "/b/../a.scss"),
    .named (.ofText "/a.scss") ["y!", "x!"]]

theorem singleRequests_concern : ∀ wanted ∈ singleRequests,
    wanted.path.fileName?.isSome = true ∧
      (Event.request wanted).Concerns (.fresh singleTree.fileSystem) (.ofText "/a.scss") := by
  intro wanted hwanted
  rcases List.mem_cons.1 hwanted with rfl | hwanted
  · exact ⟨by decide, _, rfl, .ofText "/a.scss", .ofText "/a.scss", rfl, by decide⟩
  · rcases List.mem_cons.1 hwanted with rfl | hwanted
    · exact ⟨by decide, _, rfl, .ofText "/b/../a.scss", .ofText "/a.scss", rfl, by decide⟩
    · obtain rfl := List.mem_singleton.1 hwanted
      exact ⟨by decide, _, rfl, .ofText "/a.scss", .ofText "/a.scss", rfl, by decide⟩

theorem injective_singleEngine : Function.Injective singleEngine.cases.toOutput.apply := by
  intro a b h
  have hlist : (a ++ "!").toList = (b ++ "!").toList := congrArg String.toList h
  rw [String.toList_append, String.toList_append, List.append_cancel_right_eq] at hlist
  exact String.toList_inj.1 hlist

theorem order_is_irrelevant_single :
    let key : Path := .ofText "/a.scss"
    let state (past : List Request) :=
      singleEngine.run (.fresh singleTree.fileSystem) (past.map .request)
    singleTree.contents? Path.rootPath = none ∧
      singleEngine.Evaluates singleTree.fileSystem key {"x"} (fun _ => "1px") ∧
      (∀ wanted ∈ singleRequests, wanted.path.fileName?.isSome = true ∧
        (Event.request wanted).Concerns (.fresh singleTree.fileSystem) key) ∧
      Set.InjOn singleEngine.cases.toOutput.apply
        (singleEngine.concerned singleTree.fileSystem {"x"} singleRequests) ∧
      (∀ wanted ∈ singleRequests, ∀ name ∈ wanted.names,
        singleEngine.cases.toOutput.apply (singleEngine.cases.toDeclared.apply name) = name) ∧
      singleRequests.Perm singleRequests.reverse ∧
      (∀ wanted earlier later earlier' later', singleRequests = earlier ++ wanted :: later →
        singleRequests.reverse = earlier' ++ wanted :: later' →
          ((∃ values, (singleEngine.serve (state earlier) wanted).1 = .ok values) ↔
            ∃ values, (singleEngine.serve (state earlier') wanted).1 = .ok values)) ∧
      (state singleRequests).cache.get? key = (state singleRequests.reverse).cache.get? key ∧
      (state singleRequests).cache.isComplete key =
        (state singleRequests.reverse).cache.isComplete key := by
  intro key state
  have hroot : singleTree.contents? Path.rootPath = none := by decide
  have hevaluates := evaluates_singleEngine singleTree.fileSystem key
  have hinjective : Set.InjOn singleEngine.cases.toOutput.apply
      (singleEngine.concerned singleTree.fileSystem {"x"} singleRequests) :=
    injective_singleEngine.injOn
  have hround : ∀ wanted ∈ singleRequests, ∀ name ∈ wanted.names,
      singleEngine.cases.toOutput.apply (singleEngine.cases.toDeclared.apply name) = name := by
    decide
  have hperm : singleRequests.Perm singleRequests.reverse := (List.reverse_perm _).symm
  exact ⟨hroot, hevaluates, singleRequests_concern, hinjective, hround, hperm,
    singleTree.order_is_irrelevant hroot singleEngine key {"x"} (fun _ => "1px") hevaluates
      singleRequests singleRequests_concern hinjective hround _ hperm⟩

end StyleConstants.MemoryTree
