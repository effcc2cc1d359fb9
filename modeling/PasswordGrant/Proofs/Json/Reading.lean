import Mathlib.Data.List.Forall2
import PasswordGrant.Proofs.Json.Skipping

/-!
# What is read was written

A value that is read from a text is what the value that is written there shows: the texts that strings
denote, numbers as they are kept, and of the members of an object the last one of each name. The loops
over elements and members are the same for all readers, so what they read is said once, for any reader
of elements and any reader of members.

* `Written.Shows` : a written value and the value that it shows;
* `Gathers` : what is gathered from the members of an object one after the other;
* `readElements_sound`, `readMembers_sound` : the loops with their brackets;
* `readValue_sound` : values; `finish_sound` : whole documents.
-/

namespace PasswordGrant.Json

open Written

/-! ### Values that are shown -/

/-- A written number shows the number that it is kept as, or else a binary one. -/
def ShowsNumber (n : Written.Number) (x : Number) : Prop :=
  n.kept? = some x ∨ n.kept? = none ∧ x.IsFloat

mutual

/-- A written value shows a value. -/
inductive Written.Shows : Value → Json → Prop
  | null : Shows .null .null
  | flag (b : Bool) : Shows (.flag b) (.bool b)
  | number {n : Written.Number} {x : Json.Number} (h : ShowsNumber n x) :
      Shows (.number n) (.number x)
  | text {ls : List Letter} {t : String} (h : denotedText? ls = some t) : Shows (.text ls) (.text t)
  | array {inside : Blanks} {items : List Item} {js : List Json} (h : ShowsItems items js) :
      Shows (.array inside items) (.array js)
  | object {inside : Blanks} {members : List Member} {js : List (String × Json)}
      (h : ShowsMembers [] members js) : Shows (.object inside members) (.object js)

/-- Written elements show values one by one. -/
inductive Written.ShowsItems : List Item → List Json → Prop
  | nil : ShowsItems [] []
  | cons {i : Item} {is : List Item} {j : Json} {js : List Json} (h : Shows i.value j)
      (hmore : ShowsItems is js) : ShowsItems (i :: is) (j :: js)

/-- Written members set members one after the other. -/
inductive Written.ShowsMembers : List (String × Json) → List Member → List (String × Json) → Prop
  | nil (before : List (String × Json)) : ShowsMembers before [] before
  | cons {before after : List (String × Json)} {m : Member} {ms : List Member} {name : String}
      {j : Json} (hname : denotedText? m.name = some name) (h : Shows m.value j)
      (hmore : ShowsMembers (put name j before) ms after) : ShowsMembers before (m :: ms) after

end

/-! ### Brackets -/

theorem leaveObject_ok {α : Type} {r : Except Fault (α × List Char)} {x : α} {rest : List Char}
    (h : leaveObject r = .ok (x, rest)) :
    ∃ s, r = .ok (x, s) ∧ closeObject s = .ok rest := by
  cases r with
  | error f => cases h
  | ok p =>
    obtain ⟨rest', hclose, hx⟩ := bind_eq_ok.mp h
    cases hx
    exact ⟨p.2, rfl, hclose⟩

theorem leaveArray_ok {α : Type} {r : Except Fault (α × List Char)} {x : α} {rest : List Char}
    (h : leaveArray r = .ok (x, rest)) : ∃ s, r = .ok (x, s) ∧ closeArray s = .ok rest := by
  cases r with
  | error f => cases h
  | ok p =>
    obtain ⟨rest', hclose, hx⟩ := bind_eq_ok.mp h
    cases hx
    exact ⟨p.2, rfl, hclose⟩

/-! ### The loops -/

def Written.Blanks.append (a b : Blanks) : Blanks :=
  ⟨a.chars ++ b.chars, fun c hc => (List.mem_append.mp hc).elim (a.blank c) (b.blank c)⟩

/-- At the end of an array there is the closing bracket. -/
theorem nextElement_end {first : Bool} {s rest : List Char}
    (h : nextElement first s = .ok (false, rest)) :
    ∃ (b : Blanks) (tail : List Char), rest = ']' :: tail ∧ s = b.chars ++ ']' :: tail := by
  rw [nextElement] at h
  split at h
  · cases h
  rename_i heq
  obtain ⟨b, rfl⟩ := exists_blanks heq
  split at h
  case isTrue hc =>
    cases h
    exact ⟨b, _, by rw [hc], by rw [hc]⟩
  case isFalse =>
    split at h
    · cases h
    split at h
    · split at h
      · cases h
      · split at h <;> cases h
    · cases h

theorem nextElement_first {s rest : List Char} (h : nextElement true s = .ok (true, rest)) :
    ∃ b : Blanks, s = b.chars ++ rest := by
  rw [nextElement] at h
  split at h
  · cases h
  rename_i heq
  obtain ⟨b, rfl⟩ := exists_blanks heq
  split at h
  · cases h
  · cases h
    exact ⟨b, rfl⟩

/-- A further element stands behind a comma. -/
theorem nextElement_later {s rest : List Char} (h : nextElement false s = .ok (true, rest)) :
    ∃ a b : Blanks, s = a.chars ++ ',' :: (b.chars ++ rest) := by
  rw [nextElement] at h
  split at h
  · cases h
  rename_i heq
  obtain ⟨a, rfl⟩ := exists_blanks heq
  split at h
  · cases h
  split at h
  · contradiction
  split at h
  case isTrue hcomma =>
    split at h
    · cases h
    rename_i heq'
    obtain ⟨b, rfl⟩ := exists_blanks heq'
    split at h
    · cases h
    · cases h
      exact ⟨a, b, by rw [hcomma]⟩
  case isFalse => cases h

section

variable {α σ : Type} {element : Reader α} {member : σ → String → Reader σ}
  {P : Value → α → Prop} {Q : σ → String → Value → σ → Prop}

/-- What is read from further elements belongs to them one by one. -/
theorem readElementsWithin_later
    (helement : ∀ s x rest, element s = .ok (x, rest) →
      ∃ (b : Blanks) (v : Value), s = b.chars ++ (v.chars ++ rest) ∧ P v x)
    {n : Nat} {s rest : List Char} {xs : List α}
    (h : readElementsWithin element n false s = .ok (xs, rest)) :
    ∃ (after : Blanks) (is : List Item) (tail : List Char), rest = ']' :: tail ∧
      s = after.chars ++ (itemsBehind is ++ tail) ∧ List.Forall₂ (fun i x => P (Item.value i) x) is xs := by
  induction n generalizing s xs with
  | zero => cases h
  | succ n ih =>
    rw [readElementsWithin] at h
    obtain ⟨⟨more, s₁⟩, hnext, h⟩ := bind_eq_ok.mp h
    cases more with
    | false =>
      cases h
      obtain ⟨after, tail, hrest, hs⟩ := nextElement_end hnext
      exact ⟨after, [], tail, hrest, by rw [hs]; rfl, .nil⟩
    | true =>
      simp only [if_true] at h
      obtain ⟨⟨x, s₂⟩, hread, h⟩ := bind_eq_ok.mp h
      obtain ⟨⟨xs', s₃⟩, hmore, h⟩ := bind_eq_ok.mp h
      cases h
      obtain ⟨after, b, rfl⟩ := nextElement_later hnext
      obtain ⟨b', v, rfl, hv⟩ := helement _ _ _ hread
      obtain ⟨after', is, tail, hrest, rfl, his⟩ := ih hmore
      refine ⟨after, ⟨b.append b', v, after'⟩ :: is, tail, hrest, ?_, .cons hv his⟩
      simp [itemsBehind, Item.chars, Blanks.append]

/-- What is read from an array belongs to its elements one by one. -/
theorem readElements_sound
    (helement : ∀ s x rest, element s = .ok (x, rest) →
      ∃ (b : Blanks) (v : Value), s = b.chars ++ (v.chars ++ rest) ∧ P v x)
    {s rest : List Char} {xs : List α} (h : leaveArray (readElements element s) = .ok (xs, rest)) :
    ∃ (inside : Blanks) (items : List Item), s = inside.chars ++ (itemsChars items ++ rest) ∧
      List.Forall₂ (fun i x => P (Item.value i) x) items xs := by
  obtain ⟨s', hread, hclose⟩ := leaveArray_ok h
  rw [readElements, readElementsWithin] at hread
  obtain ⟨⟨more, s₁⟩, hnext, hread⟩ := bind_eq_ok.mp hread
  cases more with
  | false =>
    cases hread
    obtain ⟨inside, tail, rfl, rfl⟩ := nextElement_end hnext
    cases hclose
    exact ⟨inside, [], rfl, .nil⟩
  | true =>
    simp only [if_true] at hread
    obtain ⟨⟨x, s₂⟩, hfirst, hread⟩ := bind_eq_ok.mp hread
    obtain ⟨⟨xs', s₃⟩, hmore, hread⟩ := bind_eq_ok.mp hread
    cases hread
    obtain ⟨inside, rfl⟩ := nextElement_first hnext
    obtain ⟨b, v, rfl, hv⟩ := helement _ _ _ hfirst
    obtain ⟨after, is, tail, rfl, rfl, his⟩ := readElementsWithin_later helement hmore
    cases hclose
    refine ⟨inside, ⟨b, v, after⟩ :: is, ?_, .cons hv his⟩
    simp [itemsChars, Item.chars]

/-- What is gathered from members one after the other, each of which has a name that denotes a text. -/
inductive Gathers (Q : σ → String → Value → σ → Prop) : σ → List Member → σ → Prop
  | nil (acc : σ) : Gathers Q acc [] acc
  | cons {acc acc' acc'' : σ} {m : Member} {ms : List Member} {name : String}
      (hname : denotedText? m.name = some name) (h : Q acc name m.value acc')
      (hmore : Gathers Q acc' ms acc'') : Gathers Q acc (m :: ms) acc''

theorem readMember_sound
    (hmember : ∀ acc name s acc' rest, member acc name s = .ok (acc', rest) →
      ∃ (behind between : Blanks) (v : Value),
        s = behind.chars ++ ':' :: (between.chars ++ (v.chars ++ rest)) ∧ Q acc name v acc')
    {acc acc' : σ} {s rest : List Char} (h : readMember member acc s = .ok (acc', rest)) :
    ∃ (ls : List Letter) (name : String) (behind between : Blanks) (v : Value),
      s = lettersChars ls ++ '"' :: (behind.chars ++ ':' :: (between.chars ++ (v.chars ++ rest))) ∧
        denotedText? ls = some name ∧ Q acc name v acc' := by
  obtain ⟨⟨name, s'⟩, hname, hvalue⟩ := bind_eq_ok.mp h
  obtain ⟨ls, rfl, hls⟩ := readText_sound hname
  obtain ⟨behind, between, v, rfl, hv⟩ := hmember _ _ _ _ _ hvalue
  exact ⟨ls, name, behind, between, v, rfl, hls, hv⟩

/-- What is read from further members is gathered from them. -/
theorem readMembersWithin_later
    (hmember : ∀ acc name s acc' rest, member acc name s = .ok (acc', rest) →
      ∃ (behind between : Blanks) (v : Value),
        s = behind.chars ++ ':' :: (between.chars ++ (v.chars ++ rest)) ∧ Q acc name v acc')
    {n : Nat} {acc acc' : σ} {s rest : List Char}
    (h : readMembersWithin member n false acc s = .ok (acc', rest)) :
    ∃ (after : Blanks) (ms : List Member) (tail : List Char), rest = '\x7d' :: tail ∧
      s = after.chars ++ (membersBehind ms ++ tail) ∧ Gathers Q acc ms acc' := by
  induction n generalizing s acc with
  | zero => cases h
  | succ n ih =>
    rw [readMembersWithin] at h
    split at h
    · cases h
    rename_i heq
    obtain ⟨after, rfl⟩ := exists_blanks heq
    split at h
    case isTrue hc =>
      cases h
      exact ⟨after, [], _, by rw [hc], by rw [hc]; rfl, .nil _⟩
    split at h
    · contradiction
    split at h
    case isFalse => cases h
    case isTrue hcomma =>
    split at h
    · cases h
    rename_i heq'
    obtain ⟨before, rfl⟩ := exists_blanks heq'
    split at h
    case isFalse => split at h <;> cases h
    case isTrue hquote =>
    obtain ⟨⟨acc₁, s₁⟩, hread, hmore⟩ := bind_eq_ok.mp h
    obtain ⟨ls, name, behind, between, v, rfl, hname, hv⟩ := readMember_sound hmember hread
    obtain ⟨after', ms, tail, hrest, rfl, hms⟩ := ih hmore
    refine ⟨after, ⟨before, ls, behind, between, v, after'⟩ :: ms, tail, hrest, ?_,
      .cons hname hv hms⟩
    simp [membersBehind, Member.chars, quoted, hcomma, hquote]

/-- What is read from an object is gathered from its members. -/
theorem readMembers_sound
    (hmember : ∀ acc name s acc' rest, member acc name s = .ok (acc', rest) →
      ∃ (behind between : Blanks) (v : Value),
        s = behind.chars ++ ':' :: (between.chars ++ (v.chars ++ rest)) ∧ Q acc name v acc')
    {acc acc' : σ} {s rest : List Char} (h : readMembers member acc s = .ok (acc', rest)) :
    ∃ (inside : Blanks) (members : List Member) (tail : List Char), rest = '\x7d' :: tail ∧
      s = inside.chars ++ (membersChars members ++ tail) ∧ Gathers Q acc members acc' := by
  rw [readMembers, readMembersWithin] at h
  split at h
  · cases h
  rename_i heq
  obtain ⟨inside, hs⟩ := exists_blanks heq
  split at h
  case isTrue hc =>
    cases h
    exact ⟨inside, [], _, by rw [hc], by rw [hs, hc]; rfl, .nil _⟩
  simp only [if_true] at h
  split at h
  case isFalse => cases h
  case isTrue hquote =>
  obtain ⟨⟨acc₁, s₁⟩, hread, hmore⟩ := bind_eq_ok.mp h
  obtain ⟨ls, name, behind, between, v, htail, hname, hv⟩ := readMember_sound hmember hread
  obtain ⟨after', ms, tail, hrest, rfl, hms⟩ := readMembersWithin_later hmember hmore
  refine ⟨inside, ⟨noBlanks, ls, behind, between, v, after'⟩ :: ms, tail, hrest, ?_,
    .cons hname hv hms⟩
  simp [hs, hquote, htail, membersChars, Member.chars, quoted, noBlanks]

end

/-! ### Values -/

theorem readNumber_sound {positive : Bool} {s rest : List Char} {x : Number}
    (h : readNumber positive s = .ok (x, rest)) :
    ∃ n : Written.Number, n.negative = !positive ∧ s = n.unsignedChars ++ rest ∧ ShowsNumber n x := by
  obtain ⟨n, hsign, rfl, hstops⟩ := (skipNumber_eq_ok_iff (!positive)).mp (skipNumber_of_readNumber h)
  refine ⟨n, hsign, rfl, ?_⟩
  have hpositive : positive = !n.negative := by rw [hsign, Bool.not_not]
  rw [hpositive] at h
  cases hkept : n.kept? with
  | some y =>
    rw [readNumber_kept hkept hstops] at h
    cases h
    exact .inl hkept
  | none => exact .inr ⟨hkept, (readNumber_not_kept hkept hstops h).1⟩

theorem showsItems_of_forall₂ {is : List Item} {js : List Json}
    (h : List.Forall₂ (fun i j => Shows (Item.value i) j) is js) : ShowsItems is js := by
  induction h with
  | nil => exact .nil
  | cons hfirst _ ih => exact .cons hfirst ih

theorem showsMembers_of_gathers {before after : List (String × Json)} {ms : List Member}
    (h : Gathers (fun acc name v acc' => ∃ j, Shows v j ∧ acc' = put name j acc) before ms after) :
    ShowsMembers before ms after := by
  induction h with
  | nil acc => exact .nil acc
  | cons hname hv _ ih =>
    obtain ⟨j, hj, rfl⟩ := hv
    exact .cons hname hj ih

/-- Reading an object reads what its members set. -/
theorem readObject_sound {value : Reader Json}
    (hvalue : ∀ s j rest, value s = .ok (j, rest) →
      ∃ (b : Blanks) (v : Value), s = b.chars ++ (v.chars ++ rest) ∧ Shows v j)
    {s rest : List Char} {js : List (String × Json)} (h : readObject value s = .ok (js, rest)) :
    ∃ (inside : Blanks) (members : List Member), s = inside.chars ++ (membersChars members ++ rest) ∧
      ShowsMembers [] members js := by
  obtain ⟨s', hread, hclose⟩ := leaveObject_ok h
  obtain ⟨inside, members, tail, rfl, hs, hmembers⟩ := readMembers_sound
    (Q := fun acc name v acc' => ∃ j, Shows v j ∧ acc' = put name j acc)
    (fun acc name s acc' rest hmember => by
      obtain ⟨s₁, hcolon, hmember⟩ := bind_eq_ok.mp hmember
      obtain ⟨⟨j, s₂⟩, hread, hmember⟩ := bind_eq_ok.mp hmember
      cases hmember
      obtain ⟨behind, rfl⟩ := readColon_eq_ok_iff.mp hcolon
      obtain ⟨between, v, rfl, hv⟩ := hvalue _ _ _ hread
      exact ⟨behind, between, v, rfl, j, hv, rfl⟩) hread
  cases hclose
  exact ⟨inside, members, hs, showsMembers_of_gathers hmembers⟩

/-- What is read as a value is what the value that is written there shows. -/
theorem readValue_sound {depth : Nat} {s rest : List Char} {j : Json}
    (h : readValue depth s = .ok (j, rest)) :
    ∃ (b : Blanks) (v : Value), s = b.chars ++ (v.chars ++ rest) ∧ Shows v j := by
  induction depth using Nat.strongRecOn generalizing s rest j with
  | ind depth ih =>
  rw [readValue.eq_def] at h
  split at h
  · cases h
  rename_i c tail heq
  obtain ⟨b, rfl⟩ := exists_blanks heq
  refine ⟨b, ?_⟩
  -- one case for each character that a value may begin with
  split at h
  case isTrue hc =>
    obtain ⟨s', hword, h⟩ := bind_eq_ok.mp h
    cases h
    exact ⟨.null, by rw [hc, readWord_eq_ok_iff.mp hword]; rfl, .null⟩
  split at h
  case isTrue hc =>
    obtain ⟨s', hword, h⟩ := bind_eq_ok.mp h
    cases h
    exact ⟨.flag true, by rw [hc, readWord_eq_ok_iff.mp hword]; rfl, .flag true⟩
  split at h
  case isTrue hc =>
    obtain ⟨s', hword, h⟩ := bind_eq_ok.mp h
    cases h
    exact ⟨.flag false, by rw [hc, readWord_eq_ok_iff.mp hword]; rfl, .flag false⟩
  split at h
  case isTrue hc =>
    obtain ⟨⟨x, s'⟩, hnumber, h⟩ := bind_eq_ok.mp h
    cases h
    obtain ⟨n, hsign, rfl, hx⟩ := readNumber_sound hnumber
    exact ⟨.number n, by rw [Value.number_append, hsign, hc]; rfl, .number hx⟩
  split at h
  case isTrue hc =>
    obtain ⟨⟨x, s'⟩, hnumber, h⟩ := bind_eq_ok.mp h
    cases h
    obtain ⟨n, hsign, hn, hx⟩ := readNumber_sound hnumber
    refine ⟨.number n, ?_, .number hx⟩
    rw [hn, Value.chars, Written.Number.chars, hsign]
    rfl
  split at h
  case isTrue hc =>
    obtain ⟨⟨t, s'⟩, htext, h⟩ := bind_eq_ok.mp h
    cases h
    obtain ⟨ls, rfl, hls⟩ := readText_sound htext
    exact ⟨.text ls, by rw [Value.text_append, hc], .text hls⟩
  split at h
  case isTrue hc =>
    split at h
    · cases h
    rename_i depth
    obtain ⟨⟨js, s'⟩, harray, h⟩ := bind_eq_ok.mp h
    cases h
    obtain ⟨inside, items, rfl, hitems⟩ :=
      readElements_sound (fun _ _ _ => ih depth (Nat.lt_succ_self depth)) harray
    exact ⟨.array inside items, by rw [Value.array_append, hc], .array (showsItems_of_forall₂ hitems)⟩
  split at h
  case isTrue hc =>
    split at h
    · cases h
    rename_i depth
    obtain ⟨⟨js, s'⟩, hobject, h⟩ := bind_eq_ok.mp h
    cases h
    obtain ⟨inside, members, rfl, hmembers⟩ :=
      readObject_sound (fun _ _ _ => ih depth (Nat.lt_succ_self depth)) hobject
    exact ⟨.object inside members, by rw [Value.object_append, hc], .object hmembers⟩
  case isFalse => cases h

theorem exists_shows_of_readValue {depth : Nat} {b : Blanks} {v : Value} {rest rest' : List Char} {j : Json}
    (h : readValue depth (b.chars ++ (v.chars ++ rest)) = .ok (j, rest')) :
    ∃ v' : Value, v'.lead = v.lead ∧ Shows v' j := by
  obtain ⟨b', v', htext, hshows⟩ := readValue_sound h
  have hvalues := congrArg skipBlanks htext
  rw [skipBlanks_value, skipBlanks_value] at hvalues
  obtain ⟨tail, htail⟩ := v.exists_chars
  obtain ⟨tail', htail'⟩ := v'.exists_chars
  rw [htail, htail', List.cons_append, List.cons_append] at hvalues
  exact ⟨v', (List.cons.inj hvalues).1.symm, hshows⟩

/-- A document that was read to its end is what was read with blanks behind it. -/
theorem finish_sound {α : Type} {r : Except Fault (α × List Char)} {x : α} (h : finish r = .ok x) :
    ∃ after : Blanks, r = .ok (x, after.chars) := by
  cases r with
  | error f => cases h
  | ok p =>
    obtain ⟨y, rest⟩ := p
    rw [finish] at h
    split at h
    · rename_i heq
      cases h
      obtain ⟨after, rfl⟩ := exists_blanks heq
      exact ⟨after, by rw [List.append_nil]⟩
    · cases h

end PasswordGrant.Json
