import StyleConstants.Stylesheet.Parse

/-!
# Where nodes come from

Every node of a stylesheet, in either dialect, is what the text of a statement was read as. So what
the reading of one statement guarantees of an item holds of all nodes of all stylesheets.

* `isRead_of_mem_nodes`: no node has another origin.
* `isVariableName_of_mem_variableNames`: what a stylesheet declares has the name of a variable.
-/

namespace StyleConstants.Stylesheet

/-- The item is what the text of some statement was read as. -/
def Item.IsRead (item : Item) : Prop :=
  ∃ text hasBlock, Item.read text hasBlock = .ok (some item)

theorem isRead_of_mem_cons {text : List Char} {hasBlock : Bool} {item : Item} {line : Nat}
    {more : Except Rejection (List Node)} {nodes : List Node}
    (hread : Item.read text hasBlock = .ok (some item))
    (hmore : ∀ nodes, more = .ok nodes → ∀ node ∈ nodes, node.item.IsRead)
    (h : more.map (⟨line, item⟩ :: ·) = .ok nodes) : ∀ node ∈ nodes, node.item.IsRead := by
  cases more with
  | error rejection => cases h
  | ok others =>
    cases h
    intro node hnode
    rcases List.mem_cons.1 hnode with rfl | hnode
    · exact ⟨text, hasBlock, hread⟩
    · exact hmore others rfl node hnode

theorem Braced.isRead_of_mem_nodesFrom {source text : List Char} :
    ∀ nodes, nodesFrom source text = .ok nodes → ∀ node ∈ nodes, node.item.IsRead := by
  fun_induction nodesFrom source text with
  | case1 => intro nodes h; cases h
  | case2 => intro nodes h; cases h; simp
  | case3 => intro nodes h; cases h
  | case4 => intro nodes h; cases h
  | case5 => intro nodes h; cases h
  | case6 text c tail _ _ chunk _ _ ih => exact ih
  | case7 text c tail _ _ chunk _ item hread ih =>
    intro nodes h
    exact isRead_of_mem_cons hread ih h

theorem Indented.isRead_of_mem_nodesOfLines {total : Nat} {lines : List (List Char)} :
    ∀ nodes, nodesOfLines total lines = .ok nodes → ∀ node ∈ nodes, node.item.IsRead := by
  fun_induction nodesOfLines total lines with
  | case1 => intro nodes h; cases h; simp
  | case2 line rest _ ih => exact ih
  | case3 => intro nodes h; cases h
  | case4 line rest _ _ _ ih => exact ih
  | case5 => intro nodes h; cases h
  | case6 => intro nodes h; cases h
  | case7 => intro nodes h; cases h
  | case8 line rest _ _ _ joined after _ _ _ _ _ ih => exact ih
  | case9 line rest _ _ _ joined after _ _ _ _ item hread ih =>
    intro nodes h
    exact isRead_of_mem_cons hread ih h

theorem isRead_of_mem_nodes {dialect : Dialect} {source : List Char} {sheet : Stylesheet}
    (h : parse dialect source = .ok sheet) : ∀ node ∈ sheet.nodes, node.item.IsRead := by
  cases dialect with
  | braced =>
    rw [parse] at h
    cases hnodes : Braced.parse source with
    | error rejection => rw [hnodes] at h; cases h
    | ok nodes =>
      rw [hnodes] at h
      cases h
      exact Braced.isRead_of_mem_nodesFrom nodes hnodes
  | indented =>
    rw [parse] at h
    cases hnodes : Indented.parse source with
    | error rejection => rw [hnodes] at h; cases h
    | ok nodes =>
      rw [hnodes] at h
      cases h
      exact Indented.isRead_of_mem_nodesOfLines nodes hnodes

/-! ## Declarations -/

theorem Variable.isVariableName_of_read {text : List Char} {hasBlock : Bool}
    {declaration : Variable} (h : Variable.read text hasBlock = .ok declaration) :
    isVariableName declaration.name.toList = true := by
  unfold Variable.read at h
  dsimp only at h
  split at h
  · rename_i hname
    split at h
    · split at h
      · cases h
      · split at h
        · cases h
        · cases h
          rwa [String.toList_ofList]
    · cases h
  · cases h

theorem Item.IsRead.isVariableName {item : Item} (h : item.IsRead) {declaration : Variable}
    (hdeclaration : item.variable? = some declaration) :
    isVariableName declaration.name.toList = true := by
  obtain ⟨text, hasBlock, hread⟩ := h
  unfold Item.read at hread
  split at hread
  · rename_i rest
    cases hvariable : Variable.read rest hasBlock with
    | error cause => rw [hvariable] at hread; cases hread
    | ok other =>
      rw [hvariable] at hread
      cases hread
      cases hdeclaration
      exact Variable.isVariableName_of_read hvariable
  · rename_i rest
    cases hrule : AtRule.read rest hasBlock with
    | error cause => rw [hrule] at hread; cases hread
    | ok rule =>
      rw [hrule] at hread
      cases hread
      cases hdeclaration
  · split at hread
    · cases hread
      cases hdeclaration
    · split at hread
      · cases hread
      · cases hread
        cases hdeclaration

theorem isVariableName_of_mem_variableNames {dialect : Dialect} {source : List Char}
    {sheet : Stylesheet} (h : parse dialect source = .ok sheet) {name : String}
    (hname : name ∈ sheet.variableNames) : isVariableName name.toList = true := by
  obtain ⟨node, hnode, hvariable⟩ := List.mem_filterMap.1 hname
  obtain ⟨declaration, hdeclaration, rfl⟩ := Option.map_eq_some_iff.1 hvariable
  exact (isRead_of_mem_nodes h node hnode).isVariableName hdeclaration

end StyleConstants.Stylesheet
