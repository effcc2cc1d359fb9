import PasswordGrant.Proofs.Json.Reading

/-!
# Elements of arrays

An array is often read for less than it holds: its elements are read one after the other, and what was
read is looked at afterwards. If it is known what is kept of each element, it is known what is kept of
the array, whatever reads the elements and wherever the blanks stand.

* `keep`, `Keeps` : what is left of what was read once it has been looked at;
* `keep_cons`, `Keeps.items` : an element and those behind it;
* `Keeps.readElements` : the elements of an array, up to and with its closing bracket.
-/

namespace PasswordGrant.Json

open Written

/-! ### Keeping what was read -/

section

variable {α β : Type}

/-- What is left of what was read once `accept` has looked at it. -/
def keep (accept : α → Option β) (r : Except Fault (α × List Char)) : Option (β × List Char) :=
  r.toOption.bind fun p => (accept p.1).map (·, p.2)

theorem keep_some (r : Except Fault (α × List Char)) : keep some r = r.toOption := by
  cases r <;> rfl

/-- Of an element and of those behind it something is kept if it is of each of them. -/
theorem keep_cons (accept : α → Option β) (r : Except Fault (α × List Char))
    (more : List Char → Except Fault (List α × List Char)) :
    keep (List.mapM accept) (do
        let (x, s) ← r
        let (xs, s) ← more s
        .ok (x :: xs, s))
      = (keep accept r).bind fun p =>
          (keep (List.mapM accept) (more p.2)).map fun q => (p.1 :: q.1, q.2) := by
  cases r with
  | error f => rfl
  | ok p =>
    obtain ⟨x, s⟩ := p
    simp only [bind, Except.bind]
    cases hx : accept x with
    | none =>
      have hkept : keep accept (.ok (x, s) : Except Fault (α × List Char)) = none := by
        simp [keep, Except.toOption, hx]
      rw [hkept, Option.bind_none]
      cases more s with
      | error f => rfl
      | ok q => simp [keep, Except.toOption, List.mapM_cons, hx]
    | some y =>
      have hkept : keep accept (.ok (x, s) : Except Fault (α × List Char)) = some (y, s) := by
        simp [keep, Except.toOption, hx]
      rw [hkept, Option.bind_some]
      cases more s with
      | error f => rfl
      | ok q =>
        cases hq : q.1.mapM accept with
        | none => simp [keep, Except.toOption, List.mapM_cons, hx, hq]
        | some ys => simp [keep, Except.toOption, List.mapM_cons, hx, hq]

end

/-! ### The loop over elements -/

theorem nextElement_items (inside : Blanks) (i : Item) (is : List Item) (rest : List Char) :
    nextElement true (inside.chars ++ (itemsChars (i :: is) ++ rest))
      = .ok (true, i.value.chars ++ (i.after.chars ++ (itemsBehind is ++ rest))) := by
  obtain ⟨tail, htail⟩ := i.value.exists_chars
  rw [nextElement, skipBlanks_items, htail, List.cons_append]
  simp only [if_neg i.value.lead_ne.2.2.1, if_true]

theorem nextElement_itemsBehind (after : Blanks) (i : Item) (is : List Item) (rest : List Char) :
    nextElement false (after.chars ++ (itemsBehind (i :: is) ++ rest))
      = .ok (true, i.value.chars ++ (i.after.chars ++ (itemsBehind is ++ rest))) := by
  obtain ⟨tail, htail⟩ := i.value.exists_chars
  have hitem : skipBlanks (i.chars ++ (itemsBehind is ++ rest))
      = i.value.lead :: (tail ++ (i.after.chars ++ (itemsBehind is ++ rest))) := by
    rw [Item.chars_append, skipBlanks_value, htail, List.cons_append]
  rw [nextElement, skipBlanks_append, itemsBehind, List.cons_append, List.append_assoc,
    skipBlanks_cons_of_not_isBlank (by simp [isBlank]), htail]
  simp [hitem, i.value.lead_ne.2.2.1]

section

variable {α β : Type} {element : Reader α} {accept : α → Option β} {held : Value → Option β}

/-- What a value holds is kept of what is read from it. -/
def Keeps (read : Reader α) (accept : α → Option β) (held : Value → Option β) : Prop :=
  ∀ (b : Blanks) (v : Value) (rest : List Char), Ends rest →
    keep accept (read (b.chars ++ (v.chars ++ rest))) = (held v).map (·, rest)

/-- An element and those behind it are kept if each of them is. -/
theorem Keeps.items (helement : Keeps element accept held) (i : Item) {is : List Item}
    {more : List Char → Except Fault (List α × List Char)} {s rest : List Char}
    (hmore : keep (List.mapM accept) (more (i.after.chars ++ (itemsBehind is ++ s)))
      = (is.mapM fun i => held i.value).map (·, rest)) :
    keep (List.mapM accept) (do
        let (x, s) ← element (i.value.chars ++ (i.after.chars ++ (itemsBehind is ++ s)))
        let (xs, s) ← more s
        .ok (x :: xs, s))
      = ((i :: is).mapM fun i => held i.value).map (·, rest) := by
  have hfirst := helement noBlanks i.value _ ((ends_itemsBehind is s).blanks i.after)
  refine (keep_cons accept _ more).trans ?_
  rw [show i.value.chars ++ _ = noBlanks.chars ++ (i.value.chars ++ _) from rfl, hfirst]
  cases hheld : held i.value with
  | none => simp [List.mapM_cons, hheld]
  | some y =>
    rw [Option.map_some, Option.bind_some, hmore]
    cases hys : is.mapM fun i => held i.value <;> simp [List.mapM_cons, hheld, hys]

theorem Keeps.readElementsWithin (helement : Keeps element accept held) {n : Nat} {is : List Item}
    (hn : is.length < n) (after : Blanks) (rest : List Char) :
    keep (List.mapM accept)
        (Json.readElementsWithin element n false (after.chars ++ (itemsBehind is ++ rest)))
      = (is.mapM fun i => held i.value).map (·, ']' :: rest) := by
  induction is generalizing n after with
  | nil =>
    obtain ⟨n, rfl⟩ : ∃ m, n = m + 1 := ⟨n - 1, by omega⟩
    rw [Json.readElementsWithin, nextElement, skipBlanks_append]
    rfl
  | cons i is ih =>
    obtain ⟨n, rfl⟩ : ∃ m, n = m + 1 := ⟨n - 1, by omega⟩
    rw [Json.readElementsWithin, nextElement_itemsBehind]
    exact helement.items i (ih (Nat.lt_of_succ_lt_succ hn) i.after)

/-- The closing bracket of an array changes nothing about what is kept of its elements. -/
theorem keep_leaveArray {r : Except Fault (α × List Char)} {x : Option β} {rest : List Char}
    (h : keep accept r = x.map (·, ']' :: rest)) : keep accept (leaveArray r) = x.map (·, rest) := by
  cases r with
  | error f =>
    cases x with
    | none => rfl
    | some y => cases h
  | ok p =>
    obtain ⟨z, s⟩ := p
    replace h : (accept z).map (·, s) = x.map (·, ']' :: rest) := h
    cases hz : accept z with
    | none =>
      rw [hz] at h
      cases x with
      | none =>
        rw [leaveArray]
        cases closeArray s with
        | error f => rfl
        | ok s' => exact congrArg (Option.map (·, s')) hz
      | some y => cases h
    | some y =>
      rw [hz] at h
      cases x with
      | none => cases h
      | some y' =>
        cases h
        exact congrArg (Option.map (·, rest)) hz

/-- The elements of an array are kept if each of them is. -/
theorem Keeps.readElements (helement : Keeps element accept held) (inside : Blanks)
    (items : List Item) (rest : List Char) :
    keep (List.mapM accept)
        (leaveArray (Json.readElements element (inside.chars ++ (itemsChars items ++ rest))))
      = (items.mapM fun i => held i.value).map (·, rest) := by
  refine keep_leaveArray ?_
  rw [Json.readElements]
  cases items with
  | nil =>
    rw [Json.readElementsWithin, nextElement, skipBlanks_append]
    rfl
  | cons i is =>
    have hlength : is.length < (inside.chars ++ (itemsChars (i :: is) ++ rest)).length := by
      have hcount := length_itemsBehind is
      rw [itemsChars]
      simp only [List.length_append]
      omega
    rw [Json.readElementsWithin, nextElement_items]
    exact helement.items i (helement.readElementsWithin hlength i.after rest)

end

end PasswordGrant.Json
