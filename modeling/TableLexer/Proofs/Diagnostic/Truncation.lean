import TableLexer.Proofs.Diagnostic.Delivery

/-!
# Cutting messages

The place where a message is cut goes back over its bytes, until no character is cut in
two.  It comes to rest at 0 at the latest, and what is left of the message is its longest
beginning within the limit (`truncation_keeps_longest_beginning`).

The rest follows from that alone.  Of a longer message at most three bytes of the limit are
given up, because the next character has at most four and did not fit
(`LongestBeginning.limit_le`); a message within the limit is its own longest beginning
(`LongestBeginning.eq_of_within`), and so is what is left of a message that was cut.
-/

namespace TableLexer

namespace LongestBeginning

variable {limit : Nat} {whole cut : String}

theorem eq_of_within
    (h : LongestBeginning limit whole cut)
    (hwithin : whole.utf8ByteSize ≤ limit) :
    cut = whole := by
  have hall : whole.toList <+: cut.toList :=
    h.longest whole List.prefix_rfl hwithin
  exact String.toList_inj.1 (h.beginning.eq_of_length_le hall.length_le)

theorem limit_le
    (h : LongestBeginning limit whole cut)
    (hlonger : limit < whole.utf8ByteSize) :
    limit ≤ cut.utf8ByteSize + 3 := by
  obtain ⟨rest, hrest⟩ := h.beginning
  cases rest with
  | nil =>
      rw [List.append_nil, String.toList_inj] at hrest
      have hwithin := h.within
      rw [hrest] at hwithin
      omega
  | cons c rest =>
      by_contra hroom
      -- With the next character it would still be a beginning within the limit.
      have hbegins : (cut.push c).toList <+: whole.toList := by
        refine ⟨rest, ?_⟩
        rw [← hrest, String.toList_push, List.append_assoc]
        rfl
      have hbytes : (cut.push c).utf8ByteSize ≤ limit := by
        have hsize := c.utf8Size_le_four
        rw [String.utf8ByteSize_push]
        omega
      have hlength := (h.longest (cut.push c) hbegins hbytes).length_le
      rw [String.toList_push, List.length_append, List.length_singleton] at hlength
      omega

end LongestBeginning

/-- The place of the cut comes to rest, no further back than at the beginning of the
message, and what is left is the longest beginning within the limit.  At most three bytes
of the limit are given up, nothing is cut off a message within it, and a second cut with
this or a larger limit changes nothing. -/
theorem truncation_keeps_longest_beginning
    (limit : Nat)
    (message : String) :
    ∃ cut : String,
      truncateMessage? limit message = some cut ∧
      Text.boundaryAtMost? message limit = some cut.utf8ByteSize ∧
      Text.isBoundary message cut.utf8ByteSize ∧
      LongestBeginning limit message cut ∧
      (limit < message.utf8ByteSize → limit ≤ cut.utf8ByteSize + 3) ∧
      (message.utf8ByteSize ≤ limit → cut = message) ∧
      ∀ wider, limit ≤ wider → truncateMessage? wider cut = some cut := by
  have hcut := longestBeginning_truncateMessage limit message
  have hbytes :
      (truncateMessage limit message).utf8ByteSize
        =
      Text.byteCount (Text.takeBytes limit message.toList) := by
    rw [← Text.byteCount_toList, toList_truncateMessage]
  refine ⟨truncateMessage limit message, (Option.some_get _).symm, ?_, ?_, hcut,
    hcut.limit_le, hcut.eq_of_within, ?_⟩
  · rw [hbytes]
    exact Text.boundaryAtMost?_eq_takeBytes message limit
  · rw [hbytes]
    exact Text.isBoundary_takeBytes limit message
  · intro wider hwider
    exact if_pos (Nat.le_trans hcut.within hwider)

/-- The second byte of a character is no place for a cut. -/
example : truncateMessage? 2 "aé" = some "a" := by decide

end TableLexer
