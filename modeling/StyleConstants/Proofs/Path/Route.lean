import StyleConstants.Proofs.Path.Components

/-!
# Where a path leads

Without links a path leads from the root through names and back, and all that matters in the end is
the list of names between the root and the place. Spellings with the same route are the same path
for every tree of files; the normal form is one of them.

* `route_append`, `route_parent`, `route_withFileName`, `route_withExtension`: the route of a
  composed path is told by those of its parts.
* `route_normalize`, `fileName?_normalize`: the normal form leads to the same place and ends in its
  name.
* `normalizeFrom_rootPath_eq_iff`: absolute normal forms are equal exactly for equal routes.
-/

namespace StyleConstants.Path

/-- The names passed after one more component, the last one first. -/
def descend (names : List (List UInt8)) : Component → List (List UInt8)
  | .root => []
  | .here => names
  | .up => names.tail
  | .name name => name :: names

/-- The names passed after some components, starting where `names` lead. -/
def walk (names : List (List UInt8)) (components : List Component) : List (List UInt8) :=
  components.foldl descend names

/-- The names between the root and the place to which a path leads, the last one first. -/
def route (path : Path) : List (List UInt8) := walk [] path.components

theorem walk_append (names : List (List UInt8)) (a b : List Component) :
    walk names (a ++ b) = walk (walk names a) b :=
  List.foldl_append

/-! ## Composed paths -/

theorem walk_components_of_isAbsolute {path : Path} (h : path.isAbsolute = true)
    (names : List (List UInt8)) : walk names path.components = path.route := by
  obtain ⟨pieces, hcomponents⟩ := components_of_isAbsolute h
  rw [route, hcomponents]
  rfl

/-- A relative path starts with a piece that is not empty. -/
theorem first_ne_nil {path : Path} (hrelative : path.isAbsolute = false) (hne : path.bytes ≠ [])
    {first : List UInt8} {rest : List (List UInt8)} (hpieces : path.pieces = first :: rest) :
    first ≠ [] := by
  rintro rfl
  have hjoin := Text.join_split slash path.bytes
  rw [show Text.split slash path.bytes = [] :: rest from hpieces] at hjoin
  cases rest with
  | nil => exact hne (eq_nil_of_pieces hpieces)
  | cons next others =>
    rw [isAbsolute, ← hjoin] at hrelative
    cases hrelative

theorem root_notMem_components {path : Path} (h : path.isAbsolute = false) :
    .root ∉ path.components := by
  obtain ⟨first, rest, hpieces⟩ := path.exists_pieces_eq
  by_cases hempty : path.bytes = []
  · obtain rfl : path = ⟨[]⟩ := by rw [← hempty]
    exact List.not_mem_nil
  · have hfirst := first_ne_nil h hempty hpieces
    rw [components_eq hempty hpieces, List.mem_append, not_or]
    constructor
    · rw [headComponents, Component.ofFirst?, if_neg (by simpa using hfirst), Option.mem_toList]
      split
      · intro hnone
        cases hnone
      · exact fun hpiece => (ofPiece?_ne hpiece).1 rfl
    · intro hroot
      obtain ⟨piece, -, hpiece⟩ := List.mem_filterMap.1 hroot
      exact (ofPiece?_ne hpiece).1 rfl

/-- Read as pieces after a slash, a relative path may have lost the dot at its start, and nothing
else. Whatever passes over that dot cannot tell. -/
theorem foldl_filterMap_pieces {α : Type} {f : α → Component → α}
    (hhere : ∀ start, f start .here = start) {path : Path} (h : path.isAbsolute = false)
    (start : α) :
    (path.pieces.filterMap Component.ofPiece?).foldl f start = path.components.foldl f start := by
  obtain ⟨first, rest, hpieces⟩ := path.exists_pieces_eq
  by_cases hempty : path.bytes = []
  · obtain rfl : path = ⟨[]⟩ := by rw [← hempty]
    rfl
  · have hfirst := first_ne_nil h hempty hpieces
    rw [components_eq hempty hpieces, hpieces, List.foldl_append, List.filterMap_cons]
    have hhead : (headComponents first).foldl f start =
        (Component.ofPiece? first).toList.foldl f start := by
      rw [headComponents, Component.ofFirst?, if_neg (by simpa using hfirst)]
      split
      · rename_i hdot
        rw [hdot]
        exact hhere start
      · rfl
    rw [hhead]
    cases Component.ofPiece? first <;> rfl

theorem walk_filterMap_pieces {path : Path} (h : path.isAbsolute = false)
    (names : List (List UInt8)) :
    walk names (path.pieces.filterMap Component.ofPiece?) = walk names path.components :=
  foldl_filterMap_pieces (fun _ => rfl) h names

theorem route_append (base other : Path) :
    (base / other).route = walk base.route other.components := by
  by_cases hother : other.isAbsolute = true
  · rw [append_eq_of_isAbsolute hother, walk_components_of_isAbsolute hother]
  · rw [Bool.not_eq_true] at hother
    by_cases hbase : base.bytes = []
    · obtain rfl : base = ⟨[]⟩ := by rw [← hbase]
      rw [empty_append]
      rfl
    · rw [route, components_append hother hbase, walk_append, walk_filterMap_pieces hother]
      rfl

theorem route_of_fileName? {path : Path} {name : List UInt8} (h : path.fileName? = some name) :
    path.route = name :: walk [] path.components.dropLast := by
  rw [route, components_of_fileName? h, walk_append, List.dropLast_concat]
  rfl

theorem route_parent {path : Path} {name : List UInt8} (h : path.fileName? = some name) :
    (path.parent?.getD ⟨[]⟩).route = path.route.tail := by
  obtain ⟨parent, hparent, hcomponents⟩ := components_parent h
  rw [hparent, Option.getD_some, route, hcomponents, route_of_fileName? h, List.tail_cons]

theorem fileName?_of_components {path : Path} {init : List Component} {name : List UInt8}
    (h : path.components = init ++ [.name name]) : path.fileName? = some name := by
  rw [fileName?_eq_some_iff, h, List.getLast?_concat]

theorem route_withFileName {path : Path} {name other : List UInt8}
    (h : path.fileName? = some name) (hother : IsName other) :
    (path.withFileName other).route = other :: path.route.tail := by
  rw [route, components_withFileName h hother, walk_append, route_of_fileName? h]
  rfl

theorem fileName?_withFileName {path : Path} {name other : List UInt8}
    (h : path.fileName? = some name) (hother : IsName other) :
    (path.withFileName other).fileName? = some other :=
  fileName?_of_components (components_withFileName h hother)

/-! ## Normal forms -/

theorem written_components (path : Path) : Written path.components := by
  obtain ⟨first, rest, hpieces⟩ := path.exists_pieces_eq
  have hslash : ∀ piece ∈ first :: rest, slash ∉ piece :=
    fun piece h => slash_notMem_of_mem_pieces (hpieces ▸ h)
  by_cases hempty : path.bytes = []
  · obtain rfl : path = ⟨[]⟩ := by rw [← hempty]
    exact ⟨nofun, nofun⟩
  · rw [components_eq hempty hpieces]
    constructor
    · intro name hmem
      rcases List.mem_append.1 hmem with hmem | hmem
      · rw [headComponents, Component.ofFirst?] at hmem
        split at hmem
        · simp at hmem
        · split at hmem
          · simp at hmem
          · rw [Option.mem_toList] at hmem
            exact isName_of_ofPiece? (hslash first List.mem_cons_self) hmem
      · obtain ⟨piece, hmem, hpiece⟩ := List.mem_filterMap.1 hmem
        exact isName_of_ofPiece? (hslash piece (List.mem_cons_of_mem _ hmem)) hpiece
    · intro component hmem
      have hmem : component ∈ rest.filterMap Component.ofPiece? := by
        rw [headComponents] at hmem
        cases hfirst : Component.ofFirst? first true with
        | none =>
          rw [hfirst] at hmem
          exact List.mem_of_mem_tail hmem
        | some head =>
          rw [hfirst] at hmem
          exact hmem
      obtain ⟨piece, -, hpiece⟩ := List.mem_filterMap.1 hmem
      exact ofPiece?_ne hpiece

/-- One component more: the names on top follow the walk, and what stands below them holds no
name. The root, once it is at the bottom, stays the whole of it. -/
theorem climb_eq {names : List (List UInt8)} {base : List Component} {next : Component}
    (hbase : ∀ name, .name name ∉ base) (hnext : next ≠ .root) :
    ∃ base', (∀ name, Component.name name ∉ base') ∧ (base = [.root] → base' = [.root]) ∧
      climb (names.map .name ++ base) next = (descend names next).map .name ++ base' := by
  cases next with
  | root => exact absurd rfl hnext
  | here => exact ⟨base, hbase, id, rfl⟩
  | name name => exact ⟨base, hbase, id, rfl⟩
  | up =>
    cases names with
    | cons name names => exact ⟨base, hbase, id, rfl⟩
    | nil =>
      cases base with
      | nil => exact ⟨[.up], by simp, nofun, rfl⟩
      | cons first rest =>
        cases first with
        | root => exact ⟨.root :: rest, hbase, id, rfl⟩
        | here => exact ⟨.up :: .here :: rest, by simpa using hbase, nofun, rfl⟩
        | up => exact ⟨.up :: .up :: rest, by simpa using hbase, nofun, rfl⟩
        | name name => exact absurd List.mem_cons_self (hbase name)

theorem foldl_climb_eq {names : List (List UInt8)} {base components : List Component}
    (hbase : ∀ name, .name name ∉ base) (hroot : .root ∉ components) :
    ∃ base', (∀ name, Component.name name ∉ base') ∧ (base = [.root] → base' = [.root]) ∧
      components.foldl climb (names.map .name ++ base) =
        (walk names components).map .name ++ base' := by
  induction components generalizing names base with
  | nil => exact ⟨base, hbase, id, rfl⟩
  | cons next rest ih =>
    rw [List.mem_cons, not_or] at hroot
    obtain ⟨middle, hmiddle, hmiddleRoot, hclimb⟩ :=
      @climb_eq names base next hbase (Ne.symm hroot.1)
    obtain ⟨base', hbase', hbaseRoot, hrest⟩ := ih hmiddle hroot.2
    exact ⟨base', hbase', fun h => hbaseRoot (hmiddleRoot h), by
      rw [List.foldl_cons, hclimb, hrest]; rfl⟩

/-- The normal form of a path: first components that are no names, then the names of its route. -/
theorem exists_normalComponents_eq (path : Path) :
    ∃ base : List Component, (∀ name, Component.name name ∉ base) ∧
      (path.isAbsolute = true → base = [.root]) ∧
      normalComponents path.components = base ++ path.route.reverse.map .name := by
  suffices ∃ base : List Component, (∀ name, Component.name name ∉ base) ∧
      (path.isAbsolute = true → base = [.root]) ∧
      path.components.foldl climb [] = path.route.map .name ++ base by
    obtain ⟨base, hbase, hroot, heq⟩ := this
    refine ⟨base.reverse, fun name h => hbase name (List.mem_reverse.1 h), fun h => ?_, ?_⟩
    · rw [hroot h]
      rfl
    · rw [normalComponents, heq, List.reverse_append, List.map_reverse]
  have htail := (written_components path).2
  by_cases habsolute : path.isAbsolute = true
  · obtain ⟨pieces, hcomponents⟩ := components_of_isAbsolute habsolute
    rw [hcomponents] at htail
    obtain ⟨base, hbase, hroot, heq⟩ := @foldl_climb_eq [] [.root]
      (pieces.filterMap Component.ofPiece?) (by simp) fun h => (htail _ h).1 rfl
    exact ⟨base, hbase, fun _ => hroot rfl, by rw [route, hcomponents]; exact heq⟩
  · rw [Bool.not_eq_true] at habsolute
    obtain ⟨base, hbase, -, heq⟩ :=
      @foldl_climb_eq [] [] path.components (by simp) (root_notMem_components habsolute)
    exact ⟨base, hbase, by rw [habsolute]; nofun, heq⟩

/-- Climbing only leaves out components, so what was fit to be written still is. -/
theorem mem_of_mem_climb {passed : List Component} {next component : Component}
    (h : component ∈ climb passed next) : component = next ∨ component ∈ passed := by
  unfold climb at h
  split at h
  · exact .inr h
  · split at h
    · exact .inr (List.mem_cons_of_mem _ h)
    · exact .inr h
    · exact List.mem_cons.1 h
  · exact List.mem_cons.1 h

theorem mem_of_mem_foldl_climb {passed components : List Component} {component : Component}
    (h : component ∈ components.foldl climb passed) :
    component ∈ components ∨ component ∈ passed := by
  induction components generalizing passed with
  | nil => exact .inr h
  | cons next rest ih =>
    rcases ih h with h | h
    · exact .inl (List.mem_cons_of_mem next h)
    · rcases mem_of_mem_climb h with rfl | h
      · exact .inl List.mem_cons_self
      · exact .inr h

theorem mem_of_mem_normalComponents {components : List Component} {component : Component}
    (h : component ∈ normalComponents components) : component ∈ components := by
  rcases mem_of_mem_foldl_climb (List.mem_reverse.1 h) with h | h
  · exact h
  · cases h

theorem here_notMem_climb {passed : List Component} {next : Component}
    (h : .here ∉ passed) : .here ∉ climb passed next := by
  unfold climb
  split
  · exact h
  · split
    · exact fun hmem => h (List.mem_cons_of_mem _ hmem)
    · exact h
    · simpa using h
  · rename_i hhere _
    rw [List.mem_cons, not_or]
    exact ⟨fun heq => hhere heq.symm, h⟩

theorem here_notMem_normalComponents (components : List Component) :
    .here ∉ normalComponents components := by
  suffices ∀ passed : List Component, .here ∉ passed → .here ∉ components.foldl climb passed by
    rw [normalComponents, List.mem_reverse]
    exact this [] List.not_mem_nil
  induction components with
  | nil => exact fun _ h => h
  | cons next rest ih => exact fun passed h => ih _ (here_notMem_climb h)

theorem written_normalComponents (path : Path) : Written (normalComponents path.components) := by
  obtain ⟨base, -, hroot, heq⟩ := path.exists_normalComponents_eq
  refine ⟨fun name h => (written_components path).1 name (mem_of_mem_normalComponents h),
    fun component h => ⟨?_, ?_⟩⟩
  · rintro rfl
    by_cases habsolute : path.isAbsolute = true
    · rw [heq, hroot habsolute] at h
      simp at h
    · rw [Bool.not_eq_true] at habsolute
      exact root_notMem_components habsolute (mem_of_mem_normalComponents (List.mem_of_mem_tail h))
  · rintro rfl
    exact here_notMem_normalComponents _ (List.mem_of_mem_tail h)

theorem components_normalize (path : Path) :
    path.normalize.components = normalComponents path.components :=
  components_ofComponents path.written_normalComponents

theorem walk_map_name (names others : List (List UInt8)) :
    walk names (others.map .name) = others.reverse ++ names := by
  induction others generalizing names with
  | nil => rfl
  | cons name others ih =>
    rw [List.map_cons, List.reverse_cons, List.append_assoc, List.singleton_append]
    exact ih (name :: names)

theorem walk_nil_of_nameless {base : List Component} (h : ∀ name, .name name ∉ base) :
    walk [] base = [] := by
  induction base with
  | nil => rfl
  | cons first rest ih =>
    have hrest := ih fun name hmem => h name (List.mem_cons_of_mem _ hmem)
    cases first with
    | root => exact hrest
    | here => exact hrest
    | up => exact hrest
    | name name => exact absurd List.mem_cons_self (h name)

/-- The normal form leads to the same place. -/
@[simp] theorem route_normalize (path : Path) : path.normalize.route = path.route := by
  obtain ⟨base, hbase, -, heq⟩ := path.exists_normalComponents_eq
  rw [route, components_normalize, heq, walk_append, walk_nil_of_nameless hbase, walk_map_name,
    List.reverse_reverse, List.append_nil]

/-- The normal form of a path ends in the name of the place to which the path leads. -/
theorem fileName?_normalize (path : Path) : path.normalize.fileName? = path.route.head? := by
  obtain ⟨base, hbase, -, heq⟩ := path.exists_normalComponents_eq
  cases hroute : path.route with
  | nil =>
    rw [List.head?_nil, Option.eq_none_iff_forall_ne_some]
    intro name hname
    rw [fileName?_eq_some_iff, components_normalize, heq, hroute] at hname
    simp only [List.reverse_nil, List.map_nil, List.append_nil] at hname
    exact hbase name (List.mem_of_getLast? hname)
  | cons name names =>
    rw [List.head?_cons, fileName?_eq_some_iff, components_normalize, heq, hroute,
      List.reverse_cons, List.map_append, ← List.append_assoc]
    exact List.getLast?_concat

/-- A path ends in the name of the place to which it leads. All paths with a file name do, and all
normal forms; a path such as `a/b/..` does not. -/
def IsDirect (path : Path) : Prop := path.fileName? = path.route.head?

theorem isDirect_of_fileName? {path : Path} {name : List UInt8} (h : path.fileName? = some name) :
    path.IsDirect := by
  rw [IsDirect, h, route_of_fileName? h, List.head?_cons]

theorem isDirect_normalize (path : Path) : path.normalize.IsDirect := by
  rw [IsDirect, route_normalize, fileName?_normalize]

/-! ## Seen from the root -/

@[simp] theorem route_normalizeFrom_rootPath (path : Path) :
    (normalizeFrom rootPath path).route = path.route := by
  rw [normalizeFrom, route_normalize, route_append]
  rfl

theorem isAbsolute_rootPath_append (path : Path) : (rootPath / path).isAbsolute = true := by
  by_cases h : path.isAbsolute = true
  · rwa [append_eq_of_isAbsolute h]
  · change (append rootPath path).isAbsolute = true
    rw [append, if_neg h, if_pos (.inr (by decide)), isAbsolute]
    rfl

theorem normalizeFrom_rootPath_eq (path : Path) : normalizeFrom rootPath path =
    ofComponents (.root :: path.route.reverse.map .name) := by
  obtain ⟨base, -, hroot, heq⟩ := (rootPath / path).exists_normalComponents_eq
  rw [normalizeFrom, normalize, heq, hroot (isAbsolute_rootPath_append path), route_append]
  rfl

/-- Two paths have the same absolute normal form exactly if they have the same route. -/
theorem normalizeFrom_rootPath_eq_iff {a b : Path} :
    normalizeFrom rootPath a = normalizeFrom rootPath b ↔ a.route = b.route := by
  constructor
  · intro h
    have hroute := congrArg route h
    simpa using hroute
  · intro h
    rw [normalizeFrom_rootPath_eq, normalizeFrom_rootPath_eq, h]

/-- Where an import leads depends on the place of the importing file, not on its spelling. -/
theorem route_importTarget {importer : Path} {name : List UInt8}
    (h : importer.fileName? = some name) (argument : String) :
    (importer.importTarget argument).route =
      walk importer.route.tail (ofText argument).components := by
  rw [importTarget, normalizeFrom, route_normalize, route_append, route_parent h]

theorem isDirect_importTarget (importer : Path) (argument : String) :
    (importer.importTarget argument).IsDirect :=
  isDirect_normalize _

end StyleConstants.Path
