/-!
# Measuring text in bytes

Positions and lengths are counted in bytes of UTF-8.  The bytes of a text are the sum over
its characters, and `takeBytes` is the longest beginning of a text that stays within a
number of bytes.

A text may be cut only where a character begins or the text ends.  The last such place at
or in front of a given one is found by counting down, which ends at 0 at the latest.
-/

namespace TableLexer
namespace Text

/-- The bytes that the characters take in UTF-8. -/
def byteCount (cs : List Char) : Nat :=
  cs.foldl (fun n c => n + c.utf8Size) 0

/-- The number of line feeds in the text. -/
def newlines (cs : List Char) : Nat :=
  cs.count '\n'

/-- The longest beginning of the text that takes at most `limit` bytes. -/
def takeBytes (limit : Nat) : List Char → List Char
  | [] => []
  | c :: cs => if c.utf8Size ≤ limit then c :: takeBytes (limit - c.utf8Size) cs else []

/-- A character of the text begins at the place, or the text ends there. -/
def isBoundary (s : String) (place : Nat) : Bool :=
  String.Pos.Raw.isValid s ⟨place⟩

/--
The last boundary at a place or in front of it.  There is no answer if the search has to go
on in front of 0.
-/
def boundaryAtMost? (s : String) (place : Nat) : Option Nat :=
  if isBoundary s place then some place
  else
    match place with
    | 0 => none
    | below + 1 => boundaryAtMost? s below

/-- The text in front of a place, which has to be a boundary. -/
def cutAt? (s : String) (place : Nat) : Option String :=
  if h : isBoundary s place then
    some (s.sliceTo ⟨⟨place⟩, String.Pos.Raw.isValid_eq_true_iff.1 h⟩).copy
  else none

theorem foldl_utf8Size (n : Nat) (cs : List Char) :
    cs.foldl (fun n c => n + c.utf8Size) n = n + byteCount cs := by
  unfold byteCount
  induction cs generalizing n with
  | nil => rfl
  | cons c cs ih =>
    rw [List.foldl_cons, List.foldl_cons, ih, ih (0 + c.utf8Size)]
    omega

@[simp] theorem byteCount_nil : byteCount [] = 0 := rfl

@[simp] theorem byteCount_cons (c : Char) (cs : List Char) :
    byteCount (c :: cs) = c.utf8Size + byteCount cs := by
  rw [byteCount, List.foldl_cons, foldl_utf8Size]
  omega

@[simp] theorem byteCount_append (xs ys : List Char) :
    byteCount (xs ++ ys) = byteCount xs + byteCount ys := by
  induction xs with
  | nil => simp
  | cons c cs ih => simp [ih, Nat.add_assoc]

@[simp] theorem newlines_append (xs ys : List Char) :
    newlines (xs ++ ys) = newlines xs + newlines ys :=
  List.count_append

@[simp] theorem isBoundary_zero (s : String) : isBoundary s 0 = true :=
  String.Pos.Raw.isValid_eq_true_iff.2 String.Pos.Raw.isValid_zero

theorem exists_boundaryAtMost? (s : String) (place : Nat) :
    ∃ last, boundaryAtMost? s place = some last ∧ last ≤ place ∧ isBoundary s last ∧
      ∀ other, other ≤ place → isBoundary s other → other ≤ last := by
  induction place with
  | zero =>
    exact ⟨0, by simp [boundaryAtMost?], Nat.le_refl 0, isBoundary_zero s, fun _ h _ => h⟩
  | succ below ih =>
    unfold boundaryAtMost?
    by_cases hplace : isBoundary s (below + 1)
    · exact ⟨below + 1, if_pos hplace, Nat.le_refl _, hplace, fun _ h _ => h⟩
    · obtain ⟨last, hlast, hle, hboundary, hmost⟩ := ih
      refine ⟨last, (if_neg hplace).trans hlast, by omega, hboundary,
        fun other hother h => ?_⟩
      have hne : other ≠ below + 1 := fun he => hplace (he ▸ h)
      exact hmost other (by omega) h

end Text
end TableLexer
