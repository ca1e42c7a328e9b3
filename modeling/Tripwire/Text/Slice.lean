/-
Parts of a text by their places, counted in the bytes of its UTF-8 form.

A place inside a character counts as the one behind it.
-/
namespace Tripwire.Text

/-- How many bytes the characters take. -/
def byteSize : List Char → Nat
  | [] => 0
  | c :: s => c.utf8Size + byteSize s

/-- What follows the first bytes. -/
def dropBytes : Nat → List Char → List Char
  | 0, s => s
  | _ + 1, [] => []
  | n + 1, c :: s => dropBytes (n + 1 - c.utf8Size) s

/-- The characters that begin within the first bytes. -/
def takeBytes : Nat → List Char → List Char
  | 0, _ => []
  | _ + 1, [] => []
  | n + 1, c :: s => c :: takeBytes (n + 1 - c.utf8Size) s

/-- What stands from one place up to another. -/
def slice (s : List Char) (start stop : Nat) : List Char :=
  dropBytes start (takeBytes stop s)

@[simp]
theorem byteSize_cons (c : Char) (s : List Char) : byteSize (c :: s) = c.utf8Size + byteSize s :=
  rfl

/-- The two parts are the whole. -/
theorem takeBytes_append_dropBytes (n : Nat) (s : List Char) :
    takeBytes n s ++ dropBytes n s = s := by
  induction s generalizing n with
  | nil => cases n <;> rfl
  | cons c s ih => cases n <;> simp [takeBytes, dropBytes, ih]

/-- What follows the bytes of a text is what follows the text. -/
theorem dropBytes_append (s t : List Char) : dropBytes (byteSize s) (s ++ t) = t := by
  induction s with
  | nil => simp [byteSize, dropBytes]
  | cons c s ih =>
      obtain ⟨n, hn⟩ : ∃ n, byteSize (c :: s) = n + 1 :=
        ⟨byteSize (c :: s) - 1, by have := c.utf8Size_pos; rw [byteSize_cons]; omega⟩
      have rest : n + 1 - c.utf8Size = byteSize s := by rw [byteSize_cons] at hn; omega
      rw [hn, List.cons_append, dropBytes, rest, ih]

end Tripwire.Text
