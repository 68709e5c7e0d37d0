/-!
# Bytes of bounded number

There are finitely many bytes, so there are finitely many sequences of them up to a length.

* `exists_mem_of_length_le`: some list holds them all.
-/

namespace StyleConstants.Text

/-- Only finitely many sequences have at most `limit` bytes. -/
theorem exists_mem_of_length_le (limit : Nat) :
    ∃ sequences : List (List UInt8), ∀ bytes : List UInt8,
      bytes.length ≤ limit → bytes ∈ sequences := by
  induction limit with
  | zero => exact ⟨[[]], fun bytes h => by simpa using h⟩
  | succ limit ih =>
    obtain ⟨sequences, hsequences⟩ := ih
    let values := (List.range UInt8.size).map UInt8.ofNat
    refine ⟨[] :: values.flatMap fun byte => sequences.map (byte :: ·), fun bytes h => ?_⟩
    cases bytes with
    | nil => exact List.mem_cons_self
    | cons byte rest =>
      refine List.mem_cons_of_mem _ (List.mem_flatMap.2 ⟨byte, ?_, ?_⟩)
      · exact List.mem_map.2 ⟨byte.toNat, List.mem_range.2 byte.toNat_lt, UInt8.ofNat_toNat⟩
      · exact List.mem_map.2 ⟨rest, hsequences rest (Nat.le_of_succ_le_succ h), rfl⟩

end StyleConstants.Text
