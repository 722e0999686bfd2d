/-!
# Separated fields

Splitting a sequence at a separator and joining it again. `join sep (fields sep cs) = cs` for every
sequence, so nothing is lost by splitting. The members are characters, or the code points of a text.
-/

namespace Socks5.Text

variable {α : Type}

/-! ### All fields -/

/-- The fields between the separators; a sequence without separators is one field. -/
def fields [DecidableEq α] (sep : α) : List α → List (List α)
  | [] => [[]]
  | c :: r =>
    if c = sep then [] :: fields sep r
    else match fields sep r with
      | [] => [[c]]
      | f :: fs => (c :: f) :: fs

/-- Fields written one after the other with the separator between them. -/
def join (sep : List α) : List (List α) → List α
  | [] => []
  | [f] => f
  | f :: g :: fs => f ++ sep ++ join sep (g :: fs)

theorem fields_ne_nil [DecidableEq α] (sep : α) (cs : List α) : fields sep cs ≠ [] := by
  cases cs with
  | nil => simp [fields]
  | cons c r =>
    simp only [fields]
    split
    · simp
    · split <;> simp

/-- Joining the fields of a sequence gives it back. -/
theorem join_fields [DecidableEq α] (sep : α) (cs : List α) : join [sep] (fields sep cs) = cs := by
  induction cs with
  | nil => rfl
  | cons c r ih =>
    have hne := fields_ne_nil sep r
    simp only [fields]
    cases hf : fields sep r with
    | nil => exact absurd hf hne
    | cons f fs =>
      rw [hf] at ih
      split
      · next h => simp [join, ih, h]
      · cases fs with
        | nil => simpa [join] using ih
        | cons g gs => simpa [join] using ih

/-! ### First and last separator -/

/-- The parts before and after the first separator, if there is one. -/
def splitFirst? [DecidableEq α] (sep : α) : List α → Option (List α × List α)
  | [] => none
  | c :: r =>
    if c = sep then some ([], r)
    else (splitFirst? sep r).map fun (a, b) => (c :: a, b)

/-- The parts before and after the last separator, if there is one. -/
def splitLast? [DecidableEq α] (sep : α) : List α → Option (List α × List α)
  | [] => none
  | c :: r => match splitLast? sep r with
    | some (a, b) => some (c :: a, b)
    | none => if c = sep then some ([], r) else none

/-! ### Blank ends -/

/-- Leaves out the longest run of matching members at either end. -/
def trimBoth (p : α → Bool) (cs : List α) : List α :=
  ((cs.dropWhile p).reverse.dropWhile p).reverse

end Socks5.Text
