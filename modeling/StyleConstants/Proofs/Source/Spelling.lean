import StyleConstants.Proofs.Path.Route
import StyleConstants.Proofs.Text.Lossy
import StyleConstants.Source

/-!
# Resolution and the spelling of paths

Spellings that end in the same name and lead to the same place cannot be told apart by resolution:
the candidates lead to the same places in the same order.

* `Path.Alike`: two spellings of one path.
* `resolve_alike`: alike paths are resolved alike, or refused for the same reason.
* `extension?_of_resolve`: what a path is resolved to has the extension of its dialect.
-/

namespace StyleConstants

namespace Path

/-! ## File names cut at their last dot -/

theorem decide_ne_dot {bytes : List UInt8} (h : dot ∉ bytes) :
    ∀ c ∈ bytes, decide (c ≠ dot) = true := by
  intro c hc
  rw [decide_eq_true_eq]
  rintro rfl
  exact h hc

theorem splitName_append {stem extension : List UInt8} (hstem : stem ≠ [])
    (hextension : dot ∉ extension) :
    splitName (stem ++ dot :: extension) = (stem, some extension) := by
  have hplain := decide_ne_dot fun h => hextension (List.mem_reverse.1 h)
  have hreverse : (stem ++ dot :: extension).reverse =
      extension.reverse ++ dot :: stem.reverse := by
    simp
  have hafter : ((stem ++ dot :: extension).reverse.takeWhile fun c => decide (c ≠ dot)) =
      extension.reverse := by
    rw [hreverse, List.takeWhile_append_of_pos hplain]
    simp
  have hbefore : ((stem ++ dot :: extension).reverse.dropWhile fun c => decide (c ≠ dot)) =
      dot :: stem.reverse := by
    rw [hreverse, List.dropWhile_append_of_pos hplain]
    simp
  unfold splitName
  rw [hafter, hbefore, List.reverse_cons, List.reverse_reverse, List.reverse_reverse]
  dsimp only
  rw [List.dropLast_concat]
  cases stem with
  | nil => exact absurd rfl hstem
  | cons c stem => rfl

/-- A name whose last dot is missing or stands at the start is not cut. -/
theorem splitName_eq_or (name : List UInt8) :
    splitName name = (name, none) ∨ ∃ stem extension, name = stem ++ dot :: extension ∧
      stem ≠ [] ∧ dot ∉ extension ∧ splitName name = (stem, some extension) := by
  by_cases hdot : dot ∈ name
  · obtain ⟨after, before, hreverse, hafter⟩ :=
      List.eq_append_cons_of_mem (List.mem_reverse.2 hdot)
    have hname : name = before.reverse ++ dot :: after.reverse := by
      have h := congrArg List.reverse hreverse
      simpa using h
    have hextension : dot ∉ after.reverse := fun h => hafter (List.mem_reverse.1 h)
    by_cases hstem : before.reverse = []
    · left
      unfold splitName
      dsimp only
      rw [hreverse, List.dropWhile_append_of_pos (decide_ne_dot hafter),
        List.reverse_eq_nil_iff.1 hstem]
      rfl
    · exact .inr ⟨_, _, hname, hstem, hextension, hname ▸ splitName_append hstem hextension⟩
  · left
    have hplain := decide_ne_dot fun h => hdot (List.mem_reverse.1 h)
    have hbefore : (name.reverse.dropWhile fun c => decide (c ≠ dot)) = [] := by
      have h := @List.dropWhile_append_of_pos _ _ _ [] hplain
      rwa [List.append_nil] at h
    unfold splitName
    dsimp only
    rw [hbefore]
    rfl

theorem fst_splitName_ne_nil {name : List UInt8} (h : name ≠ []) : (splitName name).1 ≠ [] := by
  rcases splitName_eq_or name with hsplit | ⟨stem, extension, -, hstem, -, hsplit⟩
  · rwa [hsplit]
  · rwa [hsplit]

theorem mem_of_mem_fst_splitName {name : List UInt8} {c : UInt8} (h : c ∈ (splitName name).1) :
    c ∈ name := by
  rcases splitName_eq_or name with hsplit | ⟨stem, extension, hname, -, -, hsplit⟩
  · rwa [hsplit] at h
  · rw [hsplit] at h
    rw [hname]
    exact List.mem_append_left _ h

/-! ## Spellings of one path -/

/-- Two paths end in the same name, or in none, and lead to the same place. -/
def Alike (a b : Path) : Prop := a.fileName? = b.fileName? ∧ a.route = b.route

theorem Alike.symm {a b : Path} (h : a.Alike b) : b.Alike a := ⟨h.1.symm, h.2.symm⟩

theorem alike_of_isDirect {a b : Path} (ha : a.IsDirect) (hb : b.IsDirect)
    (h : a.route = b.route) : a.Alike b :=
  ⟨by rw [ha, hb, h], h⟩

theorem alike_importTarget {a b : Path} {name : List UInt8} (ha : a.fileName? = some name)
    (h : a.Alike b) (argument : String) :
    (a.importTarget argument).Alike (b.importTarget argument) := by
  refine alike_of_isDirect (isDirect_importTarget a _) (isDirect_importTarget b _) ?_
  rw [route_importTarget ha, route_importTarget (h.1.symm.trans ha), h.2]

theorem isName_renamedTo {name : List UInt8} (h : IsName name) (dialect : Dialect) :
    IsName (renamedTo dialect.extension name) := by
  have hlength : (Text.Utf8.encode dialect.extension.toList).length = 4 := by cases dialect <;> rfl
  refine isName_of_length ?_ ?_
  · rw [renamedTo, List.mem_append, not_or]
    refine ⟨fun hmem => h.1 (mem_of_mem_fst_splitName hmem), ?_⟩
    cases dialect <;> decide
  · rw [renamedTo, List.length_append, List.length_cons, hlength]
    omega

theorem withExtension_of_fileName?_eq_none {path : Path} (h : path.fileName? = none)
    (extension : String) : path.withExtension extension = path := by
  unfold withExtension
  rw [h]

theorem fileName?_withExtension {path : Path} {name : List UInt8} (h : path.fileName? = some name)
    (dialect : Dialect) : (path.withExtension dialect.extension).fileName? =
      some (renamedTo dialect.extension name) :=
  fileName?_of_components
    (components_withExtension h (isName_renamedTo (isName_of_fileName? h) dialect))

theorem route_withExtension {path : Path} {name : List UInt8} (h : path.fileName? = some name)
    (dialect : Dialect) : (path.withExtension dialect.extension).route =
      renamedTo dialect.extension name :: path.route.tail := by
  rw [route, components_withExtension h (isName_renamedTo (isName_of_fileName? h) dialect),
    walk_append, route_of_fileName? h]
  rfl

theorem alike_withExtension {a b : Path} (h : a.Alike b) (dialect : Dialect) :
    (a.withExtension dialect.extension).Alike (b.withExtension dialect.extension) := by
  cases ha : a.fileName? with
  | none =>
    rwa [withExtension_of_fileName?_eq_none ha,
      withExtension_of_fileName?_eq_none (h.1.symm.trans ha)]
  | some name =>
    have hb := h.1.symm.trans ha
    exact ⟨by rw [fileName?_withExtension ha, fileName?_withExtension hb],
      by rw [route_withExtension ha, route_withExtension hb, h.2]⟩

theorem extension?_withExtension {path : Path} {name : List UInt8} (h : path.fileName? = some name)
    (dialect : Dialect) :
    (path.withExtension dialect.extension).extension? = some dialect.extension := by
  have hdot : dot ∉ Text.Utf8.encode dialect.extension.toList := by cases dialect <;> decide
  rw [extension?, fileName?_withExtension h, renamedTo]
  dsimp only
  rw [splitName_append (fst_splitName_ne_nil (isName_of_fileName? h).ne_nil) hdot, Option.map_some,
    Text.Utf8.decodeLossy_encode, String.ofList_toList]

end Path

namespace Source

open StyleConstants.Path

/-! ## Partials -/

theorem partialName_eq (name : List UInt8) :
    partialName name = 0x5F :: Text.Utf8.encode (Text.Utf8.decodeLossy name) := rfl

/-- A slash or a dot is neither added nor lost where a name is taken as a text. -/
theorem notMem_encode_decodeLossy {name : List UInt8} {c : Char} (hc : 0 < c.toNat ∧ c.toNat < 0x80)
    (h : UInt8.ofNat c.toNat ∉ name) :
    UInt8.ofNat c.toNat ∉ Text.Utf8.encode (Text.Utf8.decodeLossy name) :=
  fun hmem => h (Text.Utf8.mem_of_mem_decodeLossy hc (Text.Utf8.mem_of_mem_encode hc.2 hmem))

theorem isName_partialName {name : List UInt8} (h : IsName name) :
    IsName (partialName name) := by
  rw [partialName_eq]
  refine isName_of_ne ?_ ?_ ?_
  · rw [List.mem_cons, not_or]
    exact ⟨by decide, @notMem_encode_decodeLossy name '/' (by decide) h.1⟩
  · simp [dot]
  · simp [dot]

/-- The extension of a partial is that of the name, taken as a text. -/
theorem snd_splitName_partialName {name extension : List UInt8}
    (h : (splitName name).2 = some extension) :
    (splitName (partialName name)).2 =
      some (Text.Utf8.encode (Text.Utf8.decodeLossy extension)) := by
  rcases splitName_eq_or name with hsplit | ⟨stem, extension', rfl, -, hdot, hsplit⟩
  · rw [hsplit] at h
    cases h
  · rw [hsplit] at h
    cases h
    have hbytes : partialName (stem ++ dot :: extension) =
        (0x5F :: Text.Utf8.encode (Text.Utf8.decodeLossy stem)) ++
          dot :: Text.Utf8.encode (Text.Utf8.decodeLossy extension) := by
      rw [partialName_eq, Text.Utf8.decodeLossy_append_cons (by decide), Text.Utf8.encode,
        List.flatMap_append]
      rfl
    rw [hbytes, splitName_append (List.cons_ne_nil _ _)
      (@notMem_encode_decodeLossy extension '.' (by decide) hdot)]

/-! ## Candidates -/

/-- All that resolution sees of a candidate in a tree without links. -/
def goal (source : Source) : Option (List UInt8) × List (List UInt8) × Dialect :=
  (source.path.fileName?, source.path.route, source.dialect)

theorem goal_eq_iff {a b : Source} :
    a.goal = b.goal ↔ a.path.Alike b.path ∧ a.dialect = b.dialect := by
  rw [goal, goal, Prod.mk.injEq, Prod.mk.injEq, Alike, and_assoc]

theorem goal_mk {a b : Path} (h : a.Alike b) (dialect : Dialect) :
    goal ⟨a, dialect⟩ = goal ⟨b, dialect⟩ :=
  goal_eq_iff.2 ⟨h, rfl⟩

theorem goal_probes {a b : Path} (h : a.Alike b) :
    (probes a).map goal = (probes b).map goal := by
  rw [probes, probes, List.map_map, List.map_map]
  exact List.map_congr_left fun dialect _ => goal_mk (alike_withExtension h dialect) dialect

theorem underscored?_alike {a b : Path} (h : a.Alike b) :
    (underscored? a = none ∧ underscored? b = none) ∨
      ∃ a' b', underscored? a = some a' ∧ underscored? b = some b' ∧ a'.Alike b' := by
  unfold underscored?
  cases ha : a.fileName? with
  | none => rw [← h.1, ha]; exact .inl ⟨rfl, rfl⟩
  | some name =>
    have hb := h.1.symm.trans ha
    have hname := isName_partialName (isName_of_fileName? ha)
    rw [hb]
    dsimp only
    split
    · exact .inl ⟨rfl, rfl⟩
    · refine .inr ⟨_, _, rfl, rfl, ?_, ?_⟩
      · rw [fileName?_withFileName ha hname, fileName?_withFileName hb hname]
      · rw [route_withFileName ha hname, route_withFileName hb hname, h.2]

/-- Alike paths have candidates that lead to the same places in the same order, or an extension
that is refused. -/
theorem candidates_alike {a b : Path} (h : a.Alike b) :
    (∃ extension, candidates a = .error (.unknownExtension a extension) ∧
      candidates b = .error (.unknownExtension b extension)) ∨
      ∃ sources sources', candidates a = .ok sources ∧ candidates b = .ok sources' ∧
        sources.map goal = sources'.map goal := by
  have hextension : b.extension? = a.extension? := by rw [extension?, extension?, h.1]
  unfold candidates
  rw [hextension]
  cases a.extension? with
  | none =>
    refine .inr ⟨_, _, rfl, rfl, ?_⟩
    rw [List.map_append, List.map_append, goal_probes h]
    rcases underscored?_alike h with ⟨ha, hb⟩ | ⟨a', b', ha, hb, h'⟩
    · rw [ha, hb]
    · rw [ha, hb]
      simp [goal_probes h']
  | some extension =>
    dsimp only
    cases Dialect.ofExtension? extension with
    | none => exact .inl ⟨extension, rfl, rfl⟩
    | some dialect =>
      refine .inr ⟨_, _, rfl, rfl, ?_⟩
      rw [List.map_cons, List.map_cons, goal_mk h dialect]
      rcases underscored?_alike h with ⟨ha, hb⟩ | ⟨a', b', ha, hb, h'⟩
      · rw [ha, hb]
      · rw [ha, hb]
        simp [goal_mk h' dialect]

/-- In lists whose elements look the same, the first element of a kind looks the same. -/
theorem map_find?_eq {α β : Type} {look : α → β} {p : α → Bool}
    (hp : ∀ x y, look x = look y → p x = p y) {xs ys : List α} (h : xs.map look = ys.map look) :
    (xs.find? p).map look = (ys.find? p).map look := by
  induction xs generalizing ys with
  | nil =>
    rw [List.map_nil, eq_comm, List.map_eq_nil_iff] at h
    rw [h]
  | cons x xs ih =>
    cases ys with
    | nil => cases h
    | cons y ys =>
      rw [List.map_cons, List.map_cons, List.cons.injEq] at h
      rw [List.find?_cons, List.find?_cons, hp x y h.1]
      cases p y with
      | true => exact congrArg some h.1
      | false => exact ih h.2

/-! ## Resolution -/

/-- Where files are told by the route of a path, alike paths are resolved to the same file, or
refused for the same reason. -/
theorem resolve_alike {isFile : Path → Bool}
    (hfile : ∀ {a b : Path}, a.route = b.route → isFile a = isFile b) {a b : Path}
    (h : a.Alike b) :
    (∃ source source', resolve isFile a = .ok source ∧ resolve isFile b = .ok source' ∧
      source.path.Alike source'.path ∧ source.dialect = source'.dialect) ∨
    (resolve isFile a = .error (.noSource a) ∧ resolve isFile b = .error (.noSource b)) ∨
    ∃ extension, resolve isFile a = .error (.unknownExtension a extension) ∧
      resolve isFile b = .error (.unknownExtension b extension) := by
  rcases candidates_alike h with ⟨extension, ha, hb⟩ | ⟨sources, sources', ha, hb, hgoals⟩
  · refine .inr (.inr ⟨extension, ?_, ?_⟩)
    · rw [resolve, ha]
    · rw [resolve, hb]
  · have hfind := @map_find?_eq _ _ goal (fun source => isFile source.path)
      (fun x y hxy => hfile (goal_eq_iff.1 hxy).1.2) _ _ hgoals
    rw [resolve, resolve, ha, hb]
    dsimp only
    cases hsource : sources.find? fun source => isFile source.path with
    | none =>
      rw [hsource, Option.map_none, eq_comm, Option.map_eq_none_iff] at hfind
      rw [hfind]
      exact .inr (.inl ⟨rfl, rfl⟩)
    | some source =>
      rw [hsource, Option.map_some, eq_comm, Option.map_eq_some_iff] at hfind
      obtain ⟨source', hsource', hgoal⟩ := hfind
      rw [hsource']
      obtain ⟨halike, hdialect⟩ := goal_eq_iff.1 hgoal.symm
      exact .inl ⟨source, source', rfl, rfl, halike, hdialect⟩

theorem extension?_of_mem_probes {path : Path} {name : List UInt8} (h : path.fileName? = some name)
    {source : Source} (hmem : source ∈ probes path) :
    source.path.extension? = some source.dialect.extension := by
  obtain ⟨dialect, -, rfl⟩ := List.mem_map.1 hmem
  exact extension?_withExtension h dialect

theorem extension?_underscored {path other : Path} {extension : String}
    (hextension : path.extension? = some extension) (h : underscored? path = some other) :
    other.extension? = some extension := by
  unfold underscored? at h
  cases hname : path.fileName? with
  | none => rw [hname] at h; cases h
  | some name =>
    rw [hname] at h
    dsimp only at h
    split at h
    · cases h
    · cases h
      rw [extension?, hname] at hextension
      obtain ⟨bytes, hsplit, rfl⟩ := Option.map_eq_some_iff.1 hextension
      rw [extension?, fileName?_withFileName hname (isName_partialName (isName_of_fileName? hname))]
      dsimp only
      rw [snd_splitName_partialName hsplit, Option.map_some, Text.Utf8.decodeLossy_encode]

/-- Every candidate of a path with a file name has the extension of its dialect. -/
theorem extension?_of_mem_candidates {path : Path} {name : List UInt8}
    (h : path.fileName? = some name) {sources : List Source}
    (hsources : candidates path = .ok sources) {source : Source} (hmem : source ∈ sources) :
    source.path.extension? = some source.dialect.extension := by
  unfold candidates at hsources
  split at hsources
  · rename_i extension hextension
    split at hsources
    · rename_i dialect hdialect
      cases hsources
      obtain rfl := Dialect.ofExtension?_eq_some_iff.1 hdialect
      rcases List.mem_cons.1 hmem with rfl | hmem
      · exact hextension
      · obtain ⟨other, hother, rfl⟩ := List.mem_map.1 hmem
        exact extension?_underscored hextension (Option.mem_toList.1 hother)
    · cases hsources
  · cases hsources
    rcases List.mem_append.1 hmem with hmem | hmem
    · exact extension?_of_mem_probes h hmem
    · obtain ⟨other, hother, hmem⟩ := List.mem_flatMap.1 hmem
      rw [Option.mem_toList] at hother
      unfold underscored? at hother
      rw [h] at hother
      dsimp only at hother
      split at hother
      · cases hother
      · cases hother
        exact extension?_of_mem_probes
          (fileName?_withFileName h (isName_partialName (isName_of_fileName? h))) hmem

/-- What a path with a file name is resolved to has the extension of its dialect. -/
theorem extension?_of_resolve {isFile : Path → Bool} {path : Path} {name : List UInt8}
    (h : path.fileName? = some name) {source : Source}
    (hsource : resolve isFile path = .ok source) :
    source.path.extension? = some source.dialect.extension := by
  obtain ⟨sources, hsources, hfind⟩ := resolve_eq_ok_iff.1 hsource
  exact extension?_of_mem_candidates h hsources (List.mem_of_find?_eq_some hfind)

/-- A path without a file name can only mean itself, in the dialect that is tried first. -/
theorem eq_of_resolve {isFile : Path → Bool} {path : Path} (h : path.fileName? = none)
    {source : Source} (hsource : resolve isFile path = .ok source) :
    source = ⟨path, .indented⟩ := by
  have hextension : path.extension? = none := by rw [extension?, h]
  have hunderscored : underscored? path = none := by rw [underscored?, h]
  have hcandidates : candidates path = .ok [⟨path, .indented⟩, ⟨path, .braced⟩] := by
    unfold candidates probes
    rw [hextension, hunderscored]
    simp only [withExtension_of_fileName?_eq_none h]
    rfl
  obtain ⟨sources, hsources, hfind⟩ := resolve_eq_ok_iff.1 hsource
  cases hcandidates.symm.trans hsources
  rw [List.find?_cons] at hfind
  split at hfind
  · exact (Option.some.inj hfind).symm
  · rename_i hfile
    rw [List.find?_singleton] at hfind
    dsimp only at hfile hfind
    rw [hfile] at hfind
    cases hfind

theorem path_eq_of_resolve {isFile : Path → Bool} {path : Path} (h : path.fileName? = none)
    {source : Source} (hsource : resolve isFile path = .ok source) : source.path = path :=
  congrArg Source.path (eq_of_resolve h hsource)

end Source

end StyleConstants
