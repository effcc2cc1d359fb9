/-!
# Parts between separators

A text falls into parts at each separator; there is one part more than separators, and parts may be
empty.

* `splitOn` : the parts; `join` : the text of parts;
* `join_splitOn` : nothing is lost;
* `not_isSeparator_of_mem_splitOn` : a part holds no separator;
* `splitOn_eq_singleton`, `splitOn_append_cons` : a part ends at the next separator.
-/

namespace PasswordGrant.Text

/-- The parts of a text between separators. -/
def splitOn (isSeparator : Char → Bool) : List Char → List (List Char)
  | [] => [[]]
  | c :: rest =>
    if isSeparator c then [] :: splitOn isSeparator rest
    else match splitOn isSeparator rest with
      | [] => [[c]]
      | p :: ps => (c :: p) :: ps

/-- Parts with a separator between them. -/
def join (separator : Char) : List (List Char) → List Char
  | [] => []
  | [p] => p
  | p :: q :: rest => p ++ separator :: join separator (q :: rest)

theorem splitOn_ne_nil (isSeparator : Char → Bool) (cs : List Char) :
    splitOn isSeparator cs ≠ [] := by
  cases cs with
  | nil => simp [splitOn]
  | cons c rest => unfold splitOn; split <;> (try split) <;> simp

/-- Joining the parts gives the text back. -/
theorem join_splitOn (separator : Char) (cs : List Char) :
    join separator (splitOn (· == separator) cs) = cs := by
  induction cs with
  | nil => rfl
  | cons c rest ih =>
    have ne := splitOn_ne_nil (· == separator) rest
    unfold splitOn
    cases h : splitOn (· == separator) rest with
    | nil => exact absurd h ne
    | cons p ps =>
      rw [h] at ih
      by_cases hc : c = separator
      · simp [hc, join, ih]
      · cases ps <;> simp_all [join]

/-- No part holds a separator. -/
theorem not_isSeparator_of_mem_splitOn {isSeparator : Char → Bool} {cs : List Char} :
    ∀ p ∈ splitOn isSeparator cs, ∀ c ∈ p, isSeparator c = false := by
  induction cs with
  | nil => simp [splitOn]
  | cons c rest ih =>
    unfold splitOn
    by_cases hc : isSeparator c = true
    · simpa [hc] using ih
    · cases h : splitOn isSeparator rest with
      | nil => simp [hc]
      | cons q qs =>
        rw [h] at ih
        simpa [hc] using ih

/-- A text without separators is one part. -/
theorem splitOn_eq_singleton {isSeparator : Char → Bool} {cs : List Char}
    (h : ∀ c ∈ cs, isSeparator c = false) : splitOn isSeparator cs = [cs] := by
  induction cs with
  | nil => rfl
  | cons c rest ih =>
    have hc : isSeparator c = false := h c List.mem_cons_self
    have hrest : splitOn isSeparator rest = [rest] :=
      ih fun d hd => h d (List.mem_cons_of_mem c hd)
    simp [splitOn, hc, hrest]

/-- The first separator ends the first part. -/
theorem splitOn_append_cons {isSeparator : Char → Bool} {cs : List Char} {d : Char}
    (rest : List Char) (h : ∀ c ∈ cs, isSeparator c = false) (hd : isSeparator d = true) :
    splitOn isSeparator (cs ++ d :: rest) = cs :: splitOn isSeparator rest := by
  induction cs with
  | nil => simp [splitOn, hd]
  | cons c cs ih =>
    have hc : isSeparator c = false := h c List.mem_cons_self
    have hcs := ih fun x hx => h x (List.mem_cons_of_mem c hx)
    simp [splitOn, hc, hcs]

end PasswordGrant.Text
