import StyleConstants.Proofs.Stylesheet.Extended

/-!
# Lines counted from elsewhere

Lines are counted from the start of a sheet. With more text in front of it a sheet has the same
nodes, and is rejected for the same cause, that many lines further down; for this, every fault has
to lie on what remains of the sheet.

* `Node.shift`, `Rejection.shift`, `shift`: results some lines further down.
* `readItem_fault_suffix`: a fault lies on what remains of the text.
* `nodesFrom_append_left`: text in front only moves the lines.
-/

namespace StyleConstants.Stylesheet

open Text (newlines)

/-- The node that many lines further down. -/
def Node.shift (lines : Nat) (node : Node) : Node := { node with line := lines + node.line }

/-- The rejection that many lines further down. -/
def Rejection.shift (lines : Nat) (rejection : Rejection) : Rejection :=
  { rejection with line := lines + rejection.line }

/-- The nodes, or the rejection, that many lines further down. -/
def shift (lines : Nat) : Except Rejection (List Node) → Except Rejection (List Node)
  | .error rejection => .error (rejection.shift lines)
  | .ok nodes => .ok (nodes.map (·.shift lines))

theorem shift_map_cons (lines : Nat) (node : Node) (result : Except Rejection (List Node)) :
    shift lines (result.map (node :: ·)) = (shift lines result).map (node.shift lines :: ·) := by
  cases result <;> rfl

theorem lineOf_append_left {source rest : List Char} (h : rest <:+ source) (passed : List Char) :
    Text.lineOf (passed ++ source) rest = newlines passed + Text.lineOf source rest := by
  have hle : newlines rest ≤ newlines source := h.sublist.count_le '\n'
  rw [Text.lineOf, Text.lineOf, Text.newlines_append]
  omega

theorem Fault.locate_append_left {source : List Char} {fault : Fault} (h : fault.rest <:+ source)
    (passed : List Char) :
    fault.locate (passed ++ source) = (fault.locate source).shift (newlines passed) := by
  rw [Fault.locate, lineOf_append_left h, Fault.locate, Rejection.shift]

/-! ## Faults -/

namespace Lexeme

theorem closeQuote_fault_suffix {quote : Char} {text place : List Char}
    (h : closeQuote quote text = .error place) : place <:+ text := by
  fun_induction closeQuote quote text with
  | case1 => cases h; exact List.suffix_refl _
  | case2 => cases h; exact List.suffix_refl _
  | case3 => cases h; exact List.nil_suffix
  | case4 c rest ih =>
    exact (ih (exists_of_map_eq_error h)).trans ⟨['\\', c], rfl⟩
  | case5 => cases h
  | case6 c rest _ _ _ _ ih =>
    exact (ih (exists_of_map_eq_error h)).trans (List.suffix_cons c rest)

theorem next_fault_suffix {lineComments : Bool} {text : List Char} {fault : Fault}
    (h : next lineComments text = .error fault) : fault.rest <:+ text := by
  unfold next at h
  split at h
  · cases h
  · split at h
    · cases h
      exact List.suffix_refl _
    · cases h
  · split at h <;> cases h
  · cases h
  · rename_i c rest _ _ _
    split at h
    · split at h
      · rename_i hplace
        cases h
        exact (closeQuote_fault_suffix hplace).trans (List.suffix_cons c rest)
      · cases h
    · cases h

/-- What follows a lexeme is an end part of the text. -/
theorem next_rest_suffix {lineComments : Bool} {text rest : List Char} {lexeme : Lexeme}
    (h : next lineComments text = .ok (some (lexeme, rest))) : rest <:+ text := by
  obtain ⟨c, tail, rfl, hsuffix⟩ := next_suffix h
  exact hsuffix.trans (List.suffix_cons c tail)

end Lexeme

namespace Braced

open Lexeme

theorem skipFiller_fault_suffix {text : List Char} {fault : Fault}
    (h : skipFiller text = .error fault) : fault.rest <:+ text := by
  fun_induction skipFiller text with
  | case1 => cases h
  | case2 c tail _ ih => exact (ih h).trans (List.suffix_cons c tail)
  | case3 c tail _ _ ih =>
    exact ((ih h).trans (afterLine_suffix tail)).trans (List.suffix_cons c tail)
  | case4 => cases h; exact List.suffix_refl _
  | case5 c tail _ _ _ after hafter ih =>
    exact (((ih h).trans (closeComment_suffix hafter)).trans (List.tail_suffix tail)).trans
      (List.suffix_cons c tail)
  | case6 => cases h

theorem readStatement_fault_suffix {owed text : List Char} {fault : Fault}
    (h : readStatement owed text = .error fault) : fault.rest <:+ text := by
  fun_induction readStatement owed text with
  | case1 owed text fault' hnext =>
    cases h
    exact next_fault_suffix hnext
  | case2 => cases h
  | case3 => cases h; exact List.nil_suffix
  | case4 => cases h
  | case5 => cases h; exact List.suffix_refl _
  | case6 owed text lexeme rest hnext _ owed' _ ih =>
    exact (ih (exists_of_map_eq_error h)).trans (next_rest_suffix hnext)

/-- An open block is blamed on the place where it was entered. -/
theorem skipBlock_fault_suffix {entry text : List Char} {depth : Depth} {fault : Fault}
    (h : skipBlock entry depth text = .error fault) (hentry : text <:+ entry) :
    fault.rest <:+ entry := by
  fun_induction skipBlock entry depth text with
  | case1 depth text fault' hnext =>
    cases h
    exact (next_fault_suffix hnext).trans hentry
  | case2 => cases h; exact List.suffix_refl _
  | case3 => cases h
  | case4 depth text lexeme after hnext depth' _ ih =>
    exact ih h ((next_rest_suffix hnext).trans hentry)

theorem readItem_fault_suffix {text : List Char} {fault : Fault}
    (h : readItem text = .error fault) : fault.rest <:+ text := by
  cases hreading : readStatement [] text with
  | error other =>
    rw [readItem, hreading] at h
    cases h
    exact readStatement_fault_suffix hreading
  | ok reading =>
    by_cases hblock : reading.ending = .block
    · rw [readItem_of_block hreading hblock] at h
      have hskip := skipBlock_fault_suffix (exists_of_map_eq_error h) (List.suffix_refl _)
      exact hskip.trans (readStatement_suffix hreading)
    · rw [readItem_of_no_block hreading hblock] at h
      cases h

theorem readItem_suffix {text : List Char} {chunk : Chunk} (h : readItem text = .ok chunk) :
    chunk.rest <:+ text := by
  cases hreading : readStatement [] text with
  | error other =>
    rw [readItem, hreading] at h
    cases h
  | ok reading =>
    have hrest := readStatement_suffix hreading
    by_cases hblock : reading.ending = .block
    · rw [readItem_of_block hreading hblock] at h
      obtain ⟨rest, hskip, rfl⟩ := exists_of_map_eq_ok h
      exact (skipBlock_suffix hskip).trans hrest
    · rw [readItem_of_no_block hreading hblock] at h
      cases h
      exact hrest

/-! ## Nodes -/

/-- Text in front of a sheet moves its nodes, or its rejection, down by its lines. -/
theorem nodesFrom_append_left {source text : List Char} (h : text <:+ source)
    (passed : List Char) : nodesFrom (passed ++ source) text =
      shift (newlines passed) (nodesFrom source text) := by
  fun_induction nodesFrom source text with
  | case1 text fault hfiller =>
    have hfault := (skipFiller_fault_suffix hfiller).trans h
    rw [nodesFrom_eq, hfiller]
    exact congrArg _ (Fault.locate_append_left hfault passed)
  | case2 text hfiller =>
    rw [nodesFrom_eq, hfiller]
    rfl
  | case3 text tail hfiller =>
    have hstart := (skipFiller_suffix hfiller).trans h
    rw [nodesFrom_eq, hfiller]
    dsimp only
    rw [if_pos rfl]
    exact congrArg _ (Fault.locate_append_left hstart passed)
  | case4 text c tail hfiller hc fault hitem =>
    have hfault := (readItem_fault_suffix hitem).trans ((skipFiller_suffix hfiller).trans h)
    rw [nodesFrom_eq, hfiller]
    dsimp only
    rw [if_neg hc, hitem]
    exact congrArg _ (Fault.locate_append_left hfault passed)
  | case5 text c tail hfiller hc chunk hitem cause hread =>
    have hstart := (skipFiller_suffix hfiller).trans h
    rw [nodesFrom_eq, hfiller]
    dsimp only
    rw [if_neg hc, hitem]
    dsimp only
    rw [hread]
    exact congrArg _ (Fault.locate_append_left hstart passed)
  | case6 text c tail hfiller hc chunk hitem hread ih =>
    have hstart := (skipFiller_suffix hfiller).trans h
    rw [nodesFrom_eq, hfiller]
    dsimp only
    rw [if_neg hc, hitem]
    dsimp only
    rw [hread]
    exact ih ((readItem_suffix hitem).trans hstart)
  | case7 text c tail hfiller hc chunk hitem item hread ih =>
    have hstart := (skipFiller_suffix hfiller).trans h
    rw [nodesFrom_eq, hfiller]
    dsimp only
    rw [if_neg hc, hitem]
    dsimp only
    rw [hread]
    dsimp only
    rw [ih ((readItem_suffix hitem).trans hstart), lineOf_append_left hstart, shift_map_cons]
    rfl

end Braced

end StyleConstants.Stylesheet
