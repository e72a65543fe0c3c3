import Mathlib.Data.List.Induction
import TableLexer.Proofs.Diagnostic.Events
import TableLexer.Proofs.Text.Bytes

/-!
# What is delivered of an event

An event is delivered with three kinds of values: its own, those it is emitted with, and
the file at hand.  Under one name the file wins, then the value that is given last, then
the event's own (`Scope.get?_deliver`); the names stay in order.  The message is cut to the
longest beginning that stays within a number of bytes (`longestBeginning_truncateMessage`),
and the rest of the event is not touched.
-/

namespace TableLexer

/-! ## Values -/

namespace Context

/-- The value that is given last under a name. -/
def lastGiven? (pairs : List (String × String)) (key : String) : Option String :=
  pairs.reverse.lookup key

theorem insertAll_concat
    (c : Context)
    (pairs : List (String × String))
    (p : String × String) :
    c.insertAll (pairs ++ [p]) = (c.insertAll pairs).insert p.1 p.2 := by
  simp [insertAll]

theorem get?_insertAll
    (c : Context)
    (pairs : List (String × String))
    (key : String) :
    (c.insertAll pairs).get? key = (lastGiven? pairs key).or (c.get? key) := by
  induction pairs using List.reverseRecOn with
  | nil =>
      rfl
  | append_singleton pairs p ih =>
      rw [insertAll_concat, get?_insert, ih, lastGiven?, lastGiven?, List.reverse_concat,
        lookup_cons_eq_ite]
      by_cases h : key = p.1
      · rw [if_pos h, if_pos h, Option.some_or]
      · rw [if_neg h, if_neg h]

/-- The values stand in the order of their names, each name once. -/
def Ordered (c : Context) : Prop :=
  c.entries.Pairwise fun a b => a.1 < b.1

theorem name_of_mem_insertEntry
    {key value : String}
    {entries : List (String × String)}
    {e : String × String}
    (he : e ∈ insertEntry key value entries) :
    e.1 = key ∨ e ∈ entries := by
  induction entries with
  | nil =>
      rw [insertEntry, List.mem_singleton] at he
      exact Or.inl (he ▸ rfl)
  | cons d rest ih =>
      rw [insertEntry] at he
      split at he
      · rcases List.mem_cons.1 he with rfl | he
        · exact Or.inl rfl
        · exact Or.inr (List.mem_cons_of_mem d he)
      · split at he
        · rcases List.mem_cons.1 he with rfl | he
          · exact Or.inl rfl
          · exact Or.inr he
        · rcases List.mem_cons.1 he with rfl | he
          · exact Or.inr List.mem_cons_self
          · exact (ih he).imp_right (List.mem_cons_of_mem d)

theorem pairwise_insertEntry
    (key value : String)
    {entries : List (String × String)}
    (h : entries.Pairwise fun a b => a.1 < b.1) :
    (insertEntry key value entries).Pairwise fun a b => a.1 < b.1 := by
  induction entries with
  | nil =>
      exact List.pairwise_singleton _ _
  | cons d rest ih =>
      obtain ⟨hfirst, hrest⟩ := List.pairwise_cons.1 h
      rw [insertEntry]
      split
      · next heq =>
          subst heq
          exact List.pairwise_cons.2 ⟨hfirst, hrest⟩
      · next hne =>
          split
          · next hlt =>
              refine List.pairwise_cons.2 ⟨?_, h⟩
              intro e he
              rcases List.mem_cons.1 he with rfl | he
              · exact hlt
              · exact String.lt_trans hlt (hfirst e he)
          · next hnlt =>
              refine List.pairwise_cons.2 ⟨?_, ih hrest⟩
              intro e he
              rcases name_of_mem_insertEntry he with hkey | he
              · rw [hkey]
                exact Std.lt_of_le_of_ne (String.not_lt.1 hnlt) (Ne.symm hne)
              · exact hfirst e he

theorem Ordered.insert
    {c : Context}
    (h : c.Ordered)
    (key value : String) :
    (c.insert key value).Ordered :=
  pairwise_insertEntry key value h

theorem Ordered.insertAll
    {c : Context}
    (h : c.Ordered)
    (pairs : List (String × String)) :
    (c.insertAll pairs).Ordered := by
  induction pairs using List.reverseRecOn with
  | nil =>
      exact h
  | append_singleton pairs p ih =>
      rw [insertAll_concat]
      exact ih.insert p.1 p.2

end Context

/-! ## Messages -/

/-- The longest beginning of a text that stays within a number of bytes. -/
structure LongestBeginning
    (limit : Nat)
    (whole cut : String) :
    Prop where
  beginning : cut.toList <+: whole.toList
  within : cut.utf8ByteSize ≤ limit
  longest : ∀ other : String,
    other.toList <+: whole.toList → other.utf8ByteSize ≤ limit →
      other.toList <+: cut.toList

theorem truncateMessage?_eq_takeBytes
    (limit : Nat)
    (message : String) :
    truncateMessage? limit message
      =
    some (String.ofList (Text.takeBytes limit message.toList)) := by
  rw [truncateMessage?]
  split
  · next hshort =>
      rw [← Text.byteCount_toList] at hshort
      rw [Text.takeBytes_eq_self hshort, String.ofList_toList]
  · rw [Text.boundaryAtMost?_eq_takeBytes, Option.bind_some, Text.cutAt?_takeBytes]

theorem toList_truncateMessage
    (limit : Nat)
    (message : String) :
    (truncateMessage limit message).toList = Text.takeBytes limit message.toList := by
  apply String.ofList_injective
  apply Option.some.inj
  rw [← truncateMessage?_eq_takeBytes, String.ofList_toList, truncateMessage,
    Option.some_get]

theorem longestBeginning_truncateMessage
    (limit : Nat)
    (message : String) :
    LongestBeginning limit message (truncateMessage limit message) where
  beginning := by
    rw [toList_truncateMessage]
    exact Text.takeBytes_isPrefix limit message.toList
  within := by
    rw [← Text.byteCount_toList, toList_truncateMessage]
    exact Text.byteCount_takeBytes_le limit message.toList
  longest other hbegins hbytes := by
    rw [← Text.byteCount_toList] at hbytes
    rw [toList_truncateMessage]
    exact Text.isPrefix_takeBytes hbegins hbytes

/-! ## Events -/

namespace Scope

variable (scope : Scope) (event : Event) (pairs : List (String × String))

/-- Of the values under a name, the file at hand wins, then the one that is given last,
then the event's own. -/
theorem get?_deliver
    (key : String) :
    (scope.deliver event pairs).context.get? key
      =
    ((if key = "file" then scope.file else none).or (Context.lastGiven? pairs key)).or
      (event.context.get? key) := by
  rw [Option.or_assoc, ← Context.get?_insertAll]
  cases hfile : scope.file with
  | none =>
      simp [deliver, hfile]
  | some path =>
      by_cases hkey : key = "file" <;> simp [deliver, hfile, hkey]

theorem ordered_deliver
    (h : event.context.Ordered) :
    (scope.deliver event pairs).context.Ordered := by
  cases hfile : scope.file with
  | none =>
      simpa [deliver, hfile] using h.insertAll pairs
  | some path =>
      simpa [deliver, hfile] using (h.insertAll pairs).insert "file" path

end Scope

end TableLexer
