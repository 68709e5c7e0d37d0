import Mathlib.Data.List.Induction
import Mathlib.Logic.Relation
import StyleConstants.Proofs.Path.Route

/-!
# Ancestors of a place

A place is written as the names on the way to it from the root. Its parent has the same names but
for the last, so its ancestors are the places whose names it continues.

* `ofNames`: the path through some names from the root; all absolute normal forms are of this kind.
* `parent?_ofNames_concat`: going up drops the last name.
* `isAncestor_ofNames_iff`: the ancestors of a place are told by the fronts of its names.
-/

namespace StyleConstants.Path

variable {names : List (List UInt8)} {name : List UInt8} {directory below : Path}

/-- The path through these names from the root. -/
def ofNames (names : List (List UInt8)) : Path := ofComponents (.root :: names.map .name)

/-- The names are fit to be written in a path. -/
def AreNames (names : List (List UInt8)) : Prop := ∀ name ∈ names, IsName name

/-- The directory is met on the way up. -/
def IsAncestor (directory below : Path) : Prop :=
  Relation.TransGen (fun low high => low.parent? = some high) below directory

/-! ## Names and bytes -/

theorem areNames_nil : AreNames [] := fun _ h => nomatch h

theorem AreNames.of_append_left {front back : List (List UInt8)} (h : AreNames (front ++ back)) :
    AreNames front :=
  fun name hname => h name (List.mem_append_left back hname)

theorem ofNames_cons (names : List (List UInt8)) :
    ofNames (name :: names) = ⟨Text.join slash ([] :: name :: names)⟩ := by
  have hbytes : (Component.bytes ∘ Component.name) = id := rfl
  rw [ofNames, List.map_cons, ofComponents, List.map_cons, List.map_cons, List.map_map, hbytes,
    List.map_id]
  · rfl
  · simp

theorem components_ofNames (h : AreNames names) :
    (ofNames names).components = .root :: names.map .name := by
  refine components_ofComponents ⟨fun name hname => h name ?_, fun component hcomponent => ?_⟩
  · simpa using hname
  · obtain ⟨name, -, rfl⟩ := List.mem_map.1 hcomponent
    exact ⟨nofun, nofun⟩

theorem ofNames_sameAs_iff {others : List (List UInt8)} (h : AreNames names)
    (hothers : AreNames others) :
    (ofNames names).sameAs (ofNames others) = true ↔ names = others := by
  rw [sameAs_iff, components_ofNames h, components_ofNames hothers, List.cons.injEq,
    List.map_inj_right fun _ _ => Component.name.inj]
  exact and_iff_right rfl

theorem ofNames_inj {others : List (List UInt8)} (h : AreNames names) (hothers : AreNames others) :
    ofNames names = ofNames others ↔ names = others := by
  refine ⟨fun heq => ?_, congrArg ofNames⟩
  rw [← ofNames_sameAs_iff h hothers, heq, sameAs_iff]

theorem pieces_ofNames (h : AreNames (name :: names)) :
    (ofNames (name :: names)).pieces = [] :: name :: names := by
  rw [ofNames_cons, pieces]
  refine Text.split_join slash (List.cons_ne_nil _ _) fun piece hpiece => ?_
  rcases List.mem_cons.1 hpiece with rfl | hpiece
  · exact List.not_mem_nil
  · exact (h piece hpiece).1

theorem ofPieces_names (names : List (List UInt8)) : ofPieces [] names = ofNames names := by
  cases names with
  | nil => rfl
  | cons name names =>
    rw [ofNames_cons, ofPieces, if_neg (by simp)]

/-- Names count, so nothing is dropped behind them. -/
theorem dropVoidEnd_names (h : AreNames names) : dropVoidEnd names = names := by
  rcases List.eq_nil_or_concat names with rfl | ⟨init, last, rfl⟩
  · rfl
  · rw [List.concat_eq_append] at h ⊢
    have hlast : isVoid last = false := by
      rw [isVoid, (h last List.mem_concat_self).2]
      rfl
    rw [dropVoidEnd, List.reverse_concat, List.dropWhile_cons_of_neg (by simp [hlast]),
      ← List.reverse_concat, List.reverse_reverse]

/-! ## Parents -/

theorem parent?_ofNames_nil : (ofNames []).parent? = none := by decide

theorem parent?_ofNames_concat (h : AreNames (names ++ [name])) :
    (ofNames (names ++ [name])).parent? = some (ofNames names) := by
  have hpieces : (ofNames (names ++ [name])).pieces = [] :: (names ++ [name]) := by
    cases names with
    | nil => exact pieces_ofNames h
    | cons first rest => exact pieces_ofNames h
  rw [parent?, hpieces]
  dsimp only
  rw [dropVoidEnd_names h, List.dropLast_concat,
    dropVoidEnd_names h.of_append_left, ofPieces_names, if_neg (by simp)]

/-- The way up from a place passes the places whose names it continues. -/
theorem isAncestor_ofNames_iff (h : AreNames names) :
    IsAncestor directory (ofNames names) ↔
      ∃ front back, names = front ++ back ∧ back ≠ [] ∧ directory = ofNames front := by
  have hparent : ∀ {names : List (List UInt8)}, AreNames names → ∀ {high : Path},
      (ofNames names).parent? = some high →
        ∃ front last, names = front ++ [last] ∧ high = ofNames front := by
    intro names h high hhigh
    rcases List.eq_nil_or_concat names with rfl | ⟨front, last, rfl⟩
    · cases parent?_ofNames_nil.symm.trans hhigh
    · rw [List.concat_eq_append] at h hhigh ⊢
      cases (parent?_ofNames_concat h).symm.trans hhigh
      exact ⟨front, last, rfl, rfl⟩
  constructor
  · intro hup
    induction hup with
    | single hhigh =>
      obtain ⟨front, last, rfl, rfl⟩ := hparent h hhigh
      exact ⟨front, [last], rfl, List.cons_ne_nil _ _, rfl⟩
    | tail _ hhigh ih =>
      obtain ⟨front, back, rfl, -, rfl⟩ := ih
      obtain ⟨front, last, rfl, rfl⟩ := hparent h.of_append_left hhigh
      exact ⟨front, last :: back, List.append_assoc _ _ _, List.cons_ne_nil _ _, rfl⟩
  · rintro ⟨front, back, rfl, hback, rfl⟩
    induction back using List.reverseRecOn with
    | nil => exact absurd rfl hback
    | append_singleton back last ih =>
      rw [← List.append_assoc] at h ⊢
      have hlast := parent?_ofNames_concat h
      by_cases hempty : back = []
      · subst hempty
        rw [List.append_nil] at hlast ⊢
        exact .single hlast
      · exact .head hlast (ih h.of_append_left hempty)

/-- An absolute normal form is the path through the names of its route. -/
theorem normalizeFrom_rootPath_eq_ofNames (path : Path) :
    normalizeFrom rootPath path = ofNames path.route.reverse :=
  normalizeFrom_rootPath_eq path

theorem areNames_route (path : Path) : AreNames path.route.reverse := by
  intro name hname
  obtain ⟨base, -, -, heq⟩ := path.exists_normalComponents_eq
  refine (written_normalComponents path).1 name ?_
  rw [heq]
  exact List.mem_append_right base (List.mem_map_of_mem hname)

end StyleConstants.Path
