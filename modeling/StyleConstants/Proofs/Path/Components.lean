import StyleConstants.Path.Normal

/-!
# Components of composed paths

Paths are composed as bytes, and compared and followed by components. Here the components of every
composed path are told by those of its parts, so that no later proof looks at bytes.

* `components_append`: the components of a path followed by a relative one.
* `components_ofComponents`: components are read back from the bytes written for them.
* `components_parent`, `components_withFileName`, `components_withExtension`: what becomes of the
  file name at the end of a path.
-/

namespace StyleConstants

namespace Text

theorem split_append_separator {α : Type} [DecidableEq α] (separator : α) (before after : List α) :
    split separator (before ++ separator :: after) =
      split separator before ++ split separator after := by
  induction before with
  | nil => simp [split]
  | cons c before ih =>
    rw [List.cons_append, split, split]
    split
    · rw [ih, List.cons_append]
    · rw [ih]
      cases h : split separator before with
      | nil => exact absurd h (split_ne_nil separator before)
      | cons piece others => rfl

end Text

namespace Path

theorem exists_pieces_eq (path : Path) : ∃ first rest, path.pieces = first :: rest := by
  cases h : path.pieces with
  | nil => exact absurd h (Text.split_ne_nil _ _)
  | cons first rest => exact ⟨first, rest, rfl⟩

theorem slash_notMem_of_mem_pieces {path : Path} {piece : List UInt8} (h : piece ∈ path.pieces) :
    slash ∉ piece :=
  Text.notMem_of_mem_split h

/-! ## Single components -/

/-- The component that a piece between two slashes stands for is a name. -/
def IsName (piece : List UInt8) : Prop :=
  slash ∉ piece ∧ Component.ofPiece? piece = some (.name piece)

theorem ofPiece?_eq_name {piece name : List UInt8}
    (h : Component.ofPiece? piece = some (.name name)) : piece = name := by
  unfold Component.ofPiece? at h
  split at h
  · cases h
  · split at h
    · cases h
    · cases h
      rfl

theorem isName_of_ofPiece? {piece name : List UInt8} (hslash : slash ∉ piece)
    (h : Component.ofPiece? piece = some (.name name)) : IsName name := by
  obtain rfl := ofPiece?_eq_name h
  exact ⟨hslash, h⟩

theorem isName_of_ne {piece : List UInt8} (hslash : slash ∉ piece)
    (hvoid : ¬ (piece = [] ∨ piece = [dot])) (hup : piece ≠ [dot, dot]) : IsName piece :=
  ⟨hslash, by rw [Component.ofPiece?, if_neg hvoid, if_neg hup]⟩

theorem isName_of_length {piece : List UInt8} (hslash : slash ∉ piece)
    (hlength : 2 < piece.length) : IsName piece := by
  refine isName_of_ne hslash ?_ ?_
  · rintro (rfl | rfl) <;> exact absurd hlength (by decide)
  · rintro rfl
    exact absurd hlength (by decide)

theorem IsName.ne_nil {name : List UInt8} (h : IsName name) : name ≠ [] := by
  rintro rfl
  cases h.2

/-- A piece after a slash never stands for the root or for the dot at the start. -/
theorem ofPiece?_ne {piece : List UInt8} {component : Component}
    (h : Component.ofPiece? piece = some component) : component ≠ .root ∧ component ≠ .here := by
  unfold Component.ofPiece? at h
  split at h
  · cases h
  · split at h <;> cases h <;> exact ⟨nofun, nofun⟩

/-- The components that a first piece stands for if a slash follows it in case it is empty. -/
def headComponents (first : List UInt8) : List Component :=
  (Component.ofFirst? first true).toList

theorem headComponents_of_name {name : List UInt8} (h : IsName name) :
    headComponents name = [.name name] := by
  have hdot : name ≠ [dot] := by
    rintro rfl
    cases h.2
  rw [headComponents, Component.ofFirst?, if_neg (by simpa using h.ne_nil), if_neg hdot, h.2]
  rfl

theorem componentsOf_cons {first : List UInt8} {rest : List (List UInt8)}
    (h : first ≠ [] ∨ rest ≠ []) :
    componentsOf (first :: rest) = headComponents first ++ rest.filterMap Component.ofPiece? := by
  rw [componentsOf, headComponents]
  congr 2
  rcases h with h | h
  · simp only [Component.ofFirst?, List.isEmpty_iff, h, if_false]
  · rw [List.isEmpty_eq_false_iff.2 h, Bool.not_false]

theorem eq_nil_of_pieces {path : Path} (h : path.pieces = [[]]) : path.bytes = [] := by
  have hjoin := Text.join_split slash path.bytes
  rw [show Text.split slash path.bytes = [[]] from h] at hjoin
  exact hjoin.symm

theorem components_eq {path : Path} (hne : path.bytes ≠ []) {first : List UInt8}
    {rest : List (List UInt8)} (hpieces : path.pieces = first :: rest) :
    path.components = headComponents first ++ rest.filterMap Component.ofPiece? := by
  rw [components, hpieces, componentsOf_cons]
  by_cases hfirst : first = []
  · refine .inr fun hrest => hne (eq_nil_of_pieces ?_)
    rw [hpieces, hfirst, hrest]
  · exact .inl hfirst

theorem components_rootPath : rootPath.components = [.root] := by decide

theorem components_name {name : List UInt8} (h : IsName name) :
    (Path.mk name).components = [.name name] := by
  have hsplit := Text.split_eq_singleton slash h.1
  rw [components, pieces, hsplit, componentsOf_cons (.inl h.ne_nil), headComponents_of_name h]
  rfl

/-! ## A path followed by another -/

theorem pieces_eq_of_isAbsolute {path : Path} (h : path.isAbsolute = true) :
    ∃ rest, rest ≠ [] ∧ path.pieces = [] :: rest := by
  rw [isAbsolute, beq_iff_eq] at h
  obtain ⟨rest, hrest⟩ := List.head?_eq_some_iff.1 h
  refine ⟨Text.split slash rest, Text.split_ne_nil _ _, ?_⟩
  rw [pieces, hrest, Text.split, if_pos rfl]

/-- An absolute path starts with the root, and this is its only place. -/
theorem components_of_isAbsolute {path : Path} (h : path.isAbsolute = true) :
    ∃ pieces : List (List UInt8),
      path.components = .root :: pieces.filterMap Component.ofPiece? := by
  obtain ⟨rest, hrest, hpieces⟩ := pieces_eq_of_isAbsolute h
  exact ⟨rest, by rw [components, hpieces, componentsOf_cons (.inr hrest)]; rfl⟩

theorem append_eq_of_isAbsolute {base other : Path} (h : other.isAbsolute = true) :
    base / other = other := by
  change append base other = other
  rw [append, if_pos h]

theorem empty_append {other : Path} : Path.mk [] / other = other := by
  change append _ other = other
  rw [append]
  split
  · rfl
  · rw [if_pos (.inl rfl), List.nil_append]

/-- The two ways of putting a slash between two paths, seen from the pieces. -/
theorem pieces_append {base other : Path} (hother : other.isAbsolute = false)
    (hbase : base.bytes ≠ []) :
    ∃ pieces : List (List UInt8), (base / other).pieces = pieces ++ other.pieces ∧
      (base.pieces = pieces ∨ base.pieces = pieces ++ [[]]) := by
  change ∃ pieces, (append base other).pieces = _ ∧ _
  rw [append, if_neg (by simp [hother])]
  split
  · rename_i hslash
    obtain ⟨front, hfront⟩ : ∃ front, base.bytes = front ++ [slash] := by
      rcases hslash with h | h
      · exact absurd (List.isEmpty_iff.1 h) hbase
      · exact List.getLast?_eq_some_iff.1 h
    refine ⟨Text.split slash front, ?_, .inr ?_⟩
    · rw [pieces, hfront, List.append_assoc, List.singleton_append, Text.split_append_separator]
      rfl
    · rw [pieces, hfront, Text.split_append_separator]
      rfl
  · refine ⟨base.pieces, ?_, .inl rfl⟩
    rw [pieces, Text.split_append_separator]
    rfl

theorem components_append {base other : Path} (hother : other.isAbsolute = false)
    (hbase : base.bytes ≠ []) :
    (base / other).components = base.components ++ other.pieces.filterMap Component.ofPiece? := by
  obtain ⟨pieces, happend, hpieces⟩ := pieces_append hother hbase
  have hother : other.pieces ≠ [] := Text.split_ne_nil _ _
  cases pieces with
  | nil =>
    rcases hpieces with h | h
    · exact absurd h (Text.split_ne_nil _ _)
    · exact absurd (eq_nil_of_pieces h) hbase
  | cons first rest =>
    have hcomponents : base.components =
        headComponents first ++ rest.filterMap Component.ofPiece? := by
      rcases hpieces with h | h
      · exact components_eq hbase h
      · rw [List.cons_append] at h
        rw [components_eq hbase h, List.filterMap_append]
        exact congrArg _ (List.append_nil _)
    rw [components, happend, List.cons_append, componentsOf_cons (.inr (by simp [hother])),
      List.filterMap_append, hcomponents, List.append_assoc]

/-! ## Components written as a path -/

/-- Every name is one that a path may hold, and the root and the dot stand nowhere but at the
start. -/
def Written (components : List Component) : Prop :=
  (∀ name, .name name ∈ components → IsName name) ∧
    ∀ component ∈ components.tail, component ≠ .root ∧ component ≠ .here

theorem ofPiece?_bytes {component : Component}
    (hname : ∀ name, component = .name name → IsName name) (hroot : component ≠ .root)
    (hhere : component ≠ .here) :
    Component.ofPiece? component.bytes = some component := by
  cases component with
  | root => exact absurd rfl hroot
  | here => exact absurd rfl hhere
  | up => rfl
  | name name => exact (hname name rfl).2

theorem slash_notMem_bytes {component : Component}
    (hname : ∀ name, component = .name name → IsName name) : slash ∉ component.bytes := by
  cases component with
  | root => decide
  | here => decide
  | up => decide
  | name name => exact (hname name rfl).1

theorem headComponents_bytes {component : Component}
    (hname : ∀ name, component = .name name → IsName name) :
    headComponents component.bytes = [component] := by
  cases component with
  | root => rfl
  | here => rfl
  | up => rfl
  | name name => exact headComponents_of_name (hname name rfl)

theorem filterMap_ofPiece?_bytes {components : List Component}
    (hname : ∀ name, .name name ∈ components → IsName name)
    (hplace : ∀ component ∈ components, component ≠ .root ∧ component ≠ .here) :
    (components.map Component.bytes).filterMap Component.ofPiece? =
      components := by
  induction components with
  | nil => rfl
  | cons component rest ih =>
    have hhead := hplace component List.mem_cons_self
    rw [List.map_cons, List.filterMap_cons, ofPiece?_bytes (fun name h =>
      hname name (h ▸ List.mem_cons_self)) hhead.1 hhead.2]
    exact congrArg (component :: ·) (ih (fun name h => hname name (List.mem_cons_of_mem _ h))
      fun other h => hplace other (List.mem_cons_of_mem _ h))

theorem components_ofComponents {components : List Component} (h : Written components) :
    (ofComponents components).components = components := by
  obtain ⟨hname, hplace⟩ := h
  cases components with
  | nil => rfl
  | cons first rest =>
    have hfirst : ∀ name, first = .name name → IsName name :=
      fun name h => hname name (h ▸ List.mem_cons_self)
    by_cases hroot : first :: rest = [.root]
    · rw [hroot]
      exact components_rootPath
    · have hof : ofComponents (first :: rest) =
          ⟨Text.join slash ((first :: rest).map Component.bytes)⟩ := by
        unfold ofComponents
        split
        · rename_i heq
          exact absurd heq hroot
        · rfl
      have hsplit := @Text.split_join _ _ slash ((first :: rest).map Component.bytes) (by simp) (by
          intro piece hpiece
          obtain ⟨component, hmem, rfl⟩ := List.mem_map.1 hpiece
          exact slash_notMem_bytes fun name h => hname name (h ▸ hmem))
      rw [hof, Path.components, pieces, hsplit, List.map_cons,
        componentsOf_cons, headComponents_bytes hfirst, filterMap_ofPiece?_bytes
          (fun name h => hname name (List.mem_cons_of_mem _ h)) hplace]
      · rfl
      · by_cases hrest : rest = []
        · refine .inl fun hempty => hroot ?_
          cases first with
          | root => rw [hrest]
          | here => cases hempty
          | up => cases hempty
          | name name => exact absurd hempty (hfirst name rfl).ne_nil
        · exact .inr (by simpa using hrest)

/-! ## The end of a path -/

theorem exists_dropVoidEnd_append (pieces : List (List UInt8)) :
    ∃ voids : List (List UInt8), (∀ piece ∈ voids, isVoid piece = true) ∧
      pieces = dropVoidEnd pieces ++ voids := by
  refine ⟨(pieces.reverse.takeWhile isVoid).reverse, fun piece h => ?_, ?_⟩
  · exact List.all_eq_true.1 List.all_takeWhile _ (List.mem_reverse.1 h)
  · rw [dropVoidEnd, ← List.reverse_append, List.takeWhile_append_dropWhile, List.reverse_reverse]

theorem mem_of_mem_dropVoidEnd {pieces : List (List UInt8)} {piece : List UInt8}
    (h : piece ∈ dropVoidEnd pieces) : piece ∈ pieces := by
  obtain ⟨voids, -, hpieces⟩ := exists_dropVoidEnd_append pieces
  rw [hpieces]
  exact List.mem_append_left voids h

theorem filterMap_dropVoidEnd (pieces : List (List UInt8)) :
    (dropVoidEnd pieces).filterMap Component.ofPiece? = pieces.filterMap Component.ofPiece? := by
  obtain ⟨voids, hvoids, hpieces⟩ := exists_dropVoidEnd_append pieces
  have hnil : voids.filterMap Component.ofPiece? = [] := by
    rw [List.filterMap_eq_nil_iff]
    exact fun piece h => Option.isNone_iff_eq_none.1 (hvoids piece h)
  calc (dropVoidEnd pieces).filterMap Component.ofPiece?
      = (dropVoidEnd pieces ++ voids).filterMap Component.ofPiece? := by
        rw [List.filterMap_append, hnil, List.append_nil]
    _ = pieces.filterMap Component.ofPiece? := by rw [← hpieces]

theorem isVoid_getLast?_dropVoidEnd {pieces : List (List UInt8)} {last : List UInt8}
    (h : (dropVoidEnd pieces).getLast? = some last) : isVoid last = false := by
  rw [dropVoidEnd, List.getLast?_reverse] at h
  have hhead := List.head?_dropWhile_not isVoid pieces.reverse
  rw [h] at hhead
  simpa using hhead

theorem components_ofPieces {first : List UInt8} {rest : List (List UInt8)}
    (h : ∀ piece ∈ first :: rest, slash ∉ piece) :
    (ofPieces first rest).components =
      headComponents first ++ rest.filterMap Component.ofPiece? := by
  unfold ofPieces
  split
  · rename_i hempty
    obtain ⟨hfirst, hrest⟩ := hempty
    rw [List.isEmpty_iff.1 hfirst, List.isEmpty_iff.1 hrest]
    exact components_rootPath
  · rename_i hcounted
    have hsplit := Text.split_join slash (List.cons_ne_nil first rest) h
    rw [components, pieces, hsplit, componentsOf_cons]
    rw [List.isEmpty_iff, List.isEmpty_iff] at hcounted
    exact Decidable.not_and_iff_or_not.1 hcounted

theorem fileName?_eq_some_iff {path : Path} {name : List UInt8} :
    path.fileName? = some name ↔ path.components.getLast? = some (.name name) := by
  unfold fileName?
  cases path.components.getLast? with
  | none => simp
  | some component => cases component <;> simp

/-- Where the file name of a path stands among its pieces. -/
inductive NamedPieces (name : List UInt8) (path : Path) : Prop
  | alone {rest : List (List UInt8)} (hpieces : path.pieces = name :: rest)
      (hname : IsName name) (hrest : dropVoidEnd rest = [])
  | after {first : List UInt8} {rest init : List (List UInt8)}
      (hpieces : path.pieces = first :: rest) (hname : IsName name)
      (hrest : dropVoidEnd rest = init ++ [name])

theorem namedPieces_of_fileName? {path : Path} {name : List UInt8}
    (h : path.fileName? = some name) : NamedPieces name path := by
  obtain ⟨first, rest, hpieces⟩ := path.exists_pieces_eq
  have hne : path.bytes ≠ [] := by
    rintro hempty
    obtain rfl : path = ⟨[]⟩ := by rw [← hempty]
    cases h
  have hcomponents := components_eq hne hpieces
  rw [fileName?_eq_some_iff, hcomponents, ← filterMap_dropVoidEnd] at h
  rcases List.eq_nil_or_concat (dropVoidEnd rest) with hrest | ⟨init, last, hrest⟩
  · rw [hrest, List.filterMap_nil, List.append_nil, headComponents] at h
    obtain ⟨component, hcomponent⟩ : ∃ component,
        Component.ofFirst? first true = some component := by
      cases hfirst : Component.ofFirst? first true with
      | none => rw [hfirst] at h; cases h
      | some component => exact ⟨component, rfl⟩
    rw [hcomponent] at h
    cases h
    have hpiece : Component.ofPiece? first = some (.name name) := by
      unfold Component.ofFirst? at hcomponent
      split at hcomponent
      · cases hcomponent
      · split at hcomponent
        · cases hcomponent
        · exact hcomponent
    obtain rfl := ofPiece?_eq_name hpiece
    exact .alone hpieces ⟨slash_notMem_of_mem_pieces (hpieces ▸ List.mem_cons_self), hpiece⟩ hrest
  · rw [List.concat_eq_append] at hrest
    have hvoid := @isVoid_getLast?_dropVoidEnd rest last (by simp [hrest])
    obtain ⟨component, hcomponent⟩ : ∃ component, Component.ofPiece? last = some component := by
      cases hlast : Component.ofPiece? last with
      | none => rw [isVoid, hlast] at hvoid; cases hvoid
      | some component => exact ⟨component, rfl⟩
    rw [hrest, List.filterMap_append, List.filterMap_cons, hcomponent, List.filterMap_nil,
      ← List.append_assoc, List.getLast?_concat] at h
    cases h
    have hmem : last ∈ path.pieces := by
      rw [hpieces]
      refine List.mem_cons_of_mem first (mem_of_mem_dropVoidEnd ?_)
      simp [hrest]
    have hslash := slash_notMem_of_mem_pieces hmem
    obtain rfl := ofPiece?_eq_name hcomponent
    exact .after hpieces ⟨hslash, hcomponent⟩ hrest

theorem components_of_fileName? {path : Path} {name : List UInt8} (h : path.fileName? = some name) :
    path.components = path.components.dropLast ++ [.name name] := by
  obtain ⟨init, hinit⟩ := List.getLast?_eq_some_iff.1 (fileName?_eq_some_iff.1 h)
  rw [hinit, List.dropLast_concat]

theorem isName_of_fileName? {path : Path} {name : List UInt8} (h : path.fileName? = some name) :
    IsName name := by
  cases namedPieces_of_fileName? h <;> assumption

/-- The parent of a path with a file name has the components before the name. -/
theorem components_parent {path : Path} {name : List UInt8} (h : path.fileName? = some name) :
    ∃ parent, path.parent? = some parent ∧ parent.components = path.components.dropLast := by
  have hne : path.bytes ≠ [] := by
    rintro hempty
    obtain rfl : path = ⟨[]⟩ := by rw [← hempty]
    cases h
  cases namedPieces_of_fileName? h with
  | @alone rest hpieces hname hrest =>
    refine ⟨⟨[]⟩, ?_, ?_⟩
    · unfold parent?
      rw [hpieces]
      simp [hrest, hname.ne_nil]
    · rw [components_eq hne hpieces, ← filterMap_dropVoidEnd, hrest, headComponents_of_name hname]
      rfl
  | @after first rest init hpieces hname hrest =>
    refine ⟨ofPieces first (dropVoidEnd init), ?_, ?_⟩
    · unfold parent?
      rw [hpieces]
      simp [hrest]
    · have hslash : ∀ piece ∈ first :: dropVoidEnd init, slash ∉ piece := by
        intro piece hpiece
        refine @slash_notMem_of_mem_pieces path _ (hpieces ▸ ?_)
        rcases List.mem_cons.1 hpiece with rfl | hpiece
        · exact List.mem_cons_self
        · refine List.mem_cons_of_mem first (mem_of_mem_dropVoidEnd ?_)
          rw [hrest]
          exact List.mem_append_left _ (mem_of_mem_dropVoidEnd hpiece)
      rw [components_ofPieces hslash, filterMap_dropVoidEnd, components_eq hne hpieces,
        ← filterMap_dropVoidEnd rest, hrest, List.filterMap_append, List.filterMap_cons, hname.2,
        List.filterMap_nil, ← List.append_assoc, List.dropLast_concat]

theorem components_withFileName {path : Path} {name other : List UInt8}
    (h : path.fileName? = some name) (hother : IsName other) :
    (path.withFileName other).components = path.components.dropLast ++ [.name other] := by
  obtain ⟨parent, hparent, hcomponents⟩ := components_parent h
  have hrelative : (Path.mk other).isAbsolute = false := by
    rw [isAbsolute, beq_eq_false_iff_ne]
    intro hhead
    exact hother.1 (List.mem_of_mem_head? hhead)
  have hpieces : (Path.mk other).pieces = [other] := Text.split_eq_singleton slash hother.1
  unfold withFileName
  rw [h, hparent, ← hcomponents]
  by_cases hempty : parent.bytes = []
  · obtain rfl : parent = ⟨[]⟩ := by rw [← hempty]
    dsimp only
    rw [empty_append, components_name hother]
    rfl
  · dsimp only
    rw [components_append hrelative hempty, hpieces, List.filterMap_cons, hother.2]
    rfl

theorem components_withExtension {path : Path} {name : List UInt8} {extension : String}
    (h : path.fileName? = some name) (hfile : IsName (renamedTo extension name)) :
    (path.withExtension extension).components =
      path.components.dropLast ++ [.name (renamedTo extension name)] := by
  have hne : path.bytes ≠ [] := by
    rintro hempty
    obtain rfl : path = ⟨[]⟩ := by rw [← hempty]
    cases h
  cases namedPieces_of_fileName? h with
  | @alone rest hpieces hname hrest =>
    unfold withExtension
    rw [h, hpieces]
    dsimp only
    rw [hrest, if_pos List.isEmpty_nil, components_name hfile, components_eq hne hpieces,
      ← filterMap_dropVoidEnd, hrest, headComponents_of_name hname]
    rfl
  | @after first rest init hpieces hname hrest =>
    unfold withExtension
    rw [h, hpieces]
    dsimp only
    have hslash : ∀ piece ∈ first :: (init ++ [renamedTo extension name]), slash ∉ piece := by
      intro piece hpiece
      rw [← List.cons_append, List.mem_append, List.mem_singleton] at hpiece
      rcases hpiece with hpiece | rfl
      · refine @slash_notMem_of_mem_pieces path _ (hpieces ▸ ?_)
        rcases List.mem_cons.1 hpiece with rfl | hpiece
        · exact List.mem_cons_self
        · refine List.mem_cons_of_mem first (mem_of_mem_dropVoidEnd ?_)
          rw [hrest]
          exact List.mem_append_left _ hpiece
      · exact hfile.1
    rw [if_neg (by simp [hrest]), hrest, List.dropLast_concat, components_ofPieces hslash,
      components_eq hne hpieces, ← filterMap_dropVoidEnd rest, hrest, List.filterMap_append,
      List.filterMap_append, List.filterMap_cons, List.filterMap_cons, hname.2, hfile.2,
      List.filterMap_nil, ← List.append_assoc, ← List.append_assoc, List.dropLast_concat]

end Path

end StyleConstants
