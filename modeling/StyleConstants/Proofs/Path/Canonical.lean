import StyleConstants.Files.Memory
import StyleConstants.Proofs.Path.Route

/-!
# Canonical forms

Climbing keeps the components passed on a stack: names on top, below them the root or a run of two
dots. A stack of this shape is reached again from its own components, and climbing on from it is all
that a path behind another one does. So normal forms are normal, and it makes no difference whether
a path is normalized before or after another is appended to it, or seen from the root.

* `IsClimbed`: the shape of the stack, kept by every component.
* `normalize_normalize`, `normalize_append`: normalizing again, and before appending.
* `normalization_is_canonical`: the normal forms, and what they leave unchanged.
-/

namespace StyleConstants.Path

variable {path : Path} {passed components : List Component}

/-! ## Stacks -/

/-- The components passed, the last one first: names above the root or above a run of two dots. -/
inductive IsClimbed : List Component → Prop
  | root : IsClimbed [.root]
  | ups (count : Nat) : IsClimbed (List.replicate count .up)
  | name {passed : List Component} (name : List UInt8) (h : IsClimbed passed) :
      IsClimbed (.name name :: passed)

namespace IsClimbed

theorem climb (h : IsClimbed passed) {next : Component} (hnext : next ≠ .root) :
    IsClimbed (Path.climb passed next) := by
  cases next with
  | root => exact absurd rfl hnext
  | here => exact h
  | name name => exact h.name name
  | up =>
    cases h with
    | root => exact .root
    | name name h => exact h
    | ups count =>
      cases count with
      | zero => exact .ups 1
      | succ count => exact .ups (count + 2)

theorem foldl_climb (h : IsClimbed passed) (hroot : .root ∉ components) :
    IsClimbed (components.foldl Path.climb passed) := by
  induction components generalizing passed with
  | nil => exact h
  | cons next rest ih =>
    rw [List.mem_cons, not_or] at hroot
    exact ih (h.climb (Ne.symm hroot.1)) hroot.2

/-- Its own components lead to the stack again. -/
theorem foldl_reverse (h : IsClimbed passed) : passed.reverse.foldl Path.climb [] = passed := by
  induction h with
  | root => rfl
  | name name _ ih =>
    rw [List.reverse_cons, List.foldl_append, ih]
    rfl
  | ups count =>
    rw [List.reverse_replicate]
    induction count with
    | zero => rfl
    | succ count ih =>
      rw [List.replicate_succ', List.foldl_append, ih, ← List.replicate_succ',
        List.replicate_succ]
      cases count <;> rfl

/-- A stack above the root holds no two dots, and any other has them at its bottom only. -/
theorem reverse_eq (h : IsClimbed passed) : ∃ names : List (List UInt8),
    passed.reverse = .root :: names.map .name ∨
      ∃ count, passed.reverse = List.replicate count .up ++ names.map .name := by
  induction h with
  | root => exact ⟨[], .inl rfl⟩
  | ups count => exact ⟨[], .inr ⟨count, by simp⟩⟩
  | name name _ ih =>
    obtain ⟨names, hroot | ⟨count, hups⟩⟩ := ih
    · exact ⟨names ++ [name], .inl (by rw [List.reverse_cons, hroot]; simp)⟩
    · exact ⟨names ++ [name], .inr ⟨count, by rw [List.reverse_cons, hups]; simp⟩⟩

end IsClimbed

theorem isClimbed_components (path : Path) : IsClimbed (path.components.foldl climb []) := by
  by_cases habsolute : path.isAbsolute = true
  · obtain ⟨pieces, hcomponents⟩ := components_of_isAbsolute habsolute
    rw [hcomponents]
    refine IsClimbed.root.foldl_climb fun hroot => ?_
    obtain ⟨piece, -, hpiece⟩ := List.mem_filterMap.1 hroot
    exact (ofPiece?_ne hpiece).1 rfl
  · rw [Bool.not_eq_true] at habsolute
    exact (IsClimbed.ups 0).foldl_climb (root_notMem_components habsolute)

/-- Climbing along a normal form leads where the path itself leads. -/
theorem foldl_climb_normalize (path : Path) :
    path.normalize.components.foldl climb [] = path.components.foldl climb [] := by
  rw [components_normalize, normalComponents, path.isClimbed_components.foldl_reverse]

/-! ## Normalizing twice, and behind another path -/

theorem normalize_normalize (path : Path) : path.normalize.normalize = path.normalize := by
  rw [normalize, normalComponents, foldl_climb_normalize]
  rfl

/-- A relative path is climbed along from where the path before it leads. -/
theorem foldl_climb_append {base other : Path} (hother : other.isAbsolute = false) :
    (base / other).components.foldl climb [] =
      other.components.foldl climb (base.components.foldl climb []) := by
  by_cases hbase : base.bytes = []
  · obtain rfl : base = ⟨[]⟩ := by rw [← hbase]
    rw [empty_append]
    rfl
  · rw [components_append hother hbase, List.foldl_append,
      foldl_filterMap_pieces (fun _ => rfl) hother]

theorem normalize_append (base other : Path) :
    (base / other).normalize = (base.normalize / other).normalize := by
  by_cases hother : other.isAbsolute = true
  · rw [append_eq_of_isAbsolute hother, append_eq_of_isAbsolute hother]
  · rw [Bool.not_eq_true] at hother
    rw [normalize, normalize, normalComponents, normalComponents, foldl_climb_append hother,
      foldl_climb_append hother, foldl_climb_normalize]

/-! ## Absolute paths -/

theorem isAbsolute_iff : path.isAbsolute = true ↔ .root ∈ path.components := by
  constructor
  · intro h
    obtain ⟨pieces, hcomponents⟩ := components_of_isAbsolute h
    exact hcomponents ▸ List.mem_cons_self
  · intro h
    exact Decidable.byContradiction fun hrelative =>
      root_notMem_components (Bool.eq_false_iff.2 hrelative) h

theorem isAbsolute_normalize (path : Path) : path.normalize.isAbsolute = path.isAbsolute := by
  rw [Bool.eq_iff_iff]
  constructor
  · intro h
    rw [isAbsolute_iff, components_normalize] at h
    exact isAbsolute_iff.2 (mem_of_mem_normalComponents h)
  · intro h
    obtain ⟨base, -, hroot, heq⟩ := path.exists_normalComponents_eq
    rw [isAbsolute_iff, components_normalize, heq, hroot h]
    exact List.mem_append_left _ List.mem_cons_self

/-- The components of a normal form: names behind the root, or behind a run of two dots. -/
theorem components_normalize_cases (path : Path) : ∃ names : List (List UInt8),
    path.isAbsolute = true ∧ path.normalize.components = .root :: names.map .name ∨
      path.isAbsolute = false ∧
        ∃ count, path.normalize.components = List.replicate count .up ++ names.map .name := by
  have hroot := (isAbsolute_normalize path ▸ @isAbsolute_iff path.normalize)
  obtain ⟨names, habsolute | ⟨count, hrelative⟩⟩ := path.isClimbed_components.reverse_eq
  · rw [← normalComponents, ← components_normalize] at habsolute
    exact ⟨names, .inl ⟨hroot.2 (habsolute ▸ List.mem_cons_self), habsolute⟩⟩
  · rw [← normalComponents, ← components_normalize] at hrelative
    refine ⟨names, .inr ⟨Bool.eq_false_iff.2 fun h => ?_, count, hrelative⟩⟩
    have hmem := hroot.1 h
    rw [hrelative] at hmem
    simp at hmem

open MemoryTree (place)

/-- **Normalization is canonical.** A normal form holds no dot and is absolute exactly if the path
is; it holds no two dots if it is absolute, and otherwise has them in front of all names; it is its
own normal form. A path may be normalized before another is appended to it, or before it is seen
from the root, which makes every path absolute. So importers that lie at the same place have imports
that lie at the same place. -/
theorem normalization_is_canonical (a b : Path) :
    .here ∉ a.normalize.components ∧ a.normalize.isAbsolute = a.isAbsolute ∧
    (a.isAbsolute = true → .up ∉ a.normalize.components) ∧
    (a.isAbsolute = false → ∃ (count : Nat) (names : List (List UInt8)),
      a.normalize.components = List.replicate count .up ++ names.map .name) ∧
    a.normalize.normalize = a.normalize ∧
    (a / b).normalize = (a.normalize / b).normalize ∧
    place a.normalize = place a ∧ (place a).isAbsolute = true ∧
    (a.fileName?.isSome = true → b.fileName?.isSome = true → place a = place b →
      ∀ argument : String, place (a.importTarget argument) = place (b.importTarget argument)) := by
  refine ⟨?_, isAbsolute_normalize a, ?_, ?_, normalize_normalize a, normalize_append a b,
    ?_, ?_, ?_⟩
  · rw [components_normalize]
    exact here_notMem_normalComponents _
  · intro habsolute hup
    obtain ⟨names, ⟨-, hcomponents⟩ | ⟨hrelative, -⟩⟩ := components_normalize_cases a
    · rw [hcomponents] at hup
      simp at hup
    · exact Bool.false_ne_true (hrelative.symm.trans habsolute)
  · intro hrelative
    obtain ⟨names, ⟨habsolute, -⟩ | ⟨-, count, hcomponents⟩⟩ := components_normalize_cases a
    · exact absurd (hrelative.symm.trans habsolute) Bool.false_ne_true
    · exact ⟨count, names, hcomponents⟩
  · exact normalizeFrom_rootPath_eq_iff.2 (route_normalize a)
  · rw [place, normalizeFrom, isAbsolute_normalize]
    exact isAbsolute_rootPath_append a
  · intro ha hb hplace argument
    obtain ⟨nameA, hnameA⟩ := Option.isSome_iff_exists.1 ha
    obtain ⟨nameB, hnameB⟩ := Option.isSome_iff_exists.1 hb
    have hroute : a.route = b.route := normalizeFrom_rootPath_eq_iff.1 hplace
    refine normalizeFrom_rootPath_eq_iff.2 ?_
    rw [route_importTarget hnameA, route_importTarget hnameB, hroute]

/-- An absolute path that climbs above the root and a relative one, both to the same file. -/
theorem normalization_is_canonical_theme :
    let a : Path := .ofText "/../x/./..//themes/main.scss"
    let b : Path := .ofText "themes/y/../main.scss/"
    a.isAbsolute = true ∧ b.isAbsolute = false ∧ a.fileName?.isSome = true ∧
      b.fileName?.isSome = true ∧ place a = place b ∧ .up ∉ a.normalize.components ∧
      (∃ (count : Nat) (names : List (List UInt8)),
        b.normalize.components = List.replicate count .up ++ names.map .name) ∧
      place (a.importTarget "../../colors") = place (b.importTarget "../../colors") := by
  intro a b
  have ha : a.isAbsolute = true := by decide +kernel
  have hb : b.isAbsolute = false := by decide +kernel
  have hnameA : a.fileName?.isSome = true := by decide +kernel
  have hnameB : b.fileName?.isSome = true := by decide +kernel
  have hplace : place a = place b := by decide +kernel
  obtain ⟨-, -, habsolute, -, -, -, -, -, himports⟩ := normalization_is_canonical a b
  obtain ⟨-, -, -, hrelative, -⟩ := normalization_is_canonical b a
  exact ⟨ha, hb, hnameA, hnameB, hplace, habsolute ha, hrelative hb,
    himports hnameA hnameB hplace _⟩

end StyleConstants.Path
