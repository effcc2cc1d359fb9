import PasswordGrant.Proofs.Json.Reading

/-!
# The compact text of a value

The compact text of a value is a document that shows the value: each character of a text is one letter
that stands for it, a whole number stands there with its digits, and elements and members follow each
other without blanks. Only numbers that are not whole or are beyond 64 bits may come back as others, and
of members with one name the last one.

* `Kept` : the values that their text keeps;
* `exists_letters`, `Number.Kept.exists_written` : texts and numbers;
* `Kept.exists_written` : values;
* `exists_writtenMembers` : the members of an object one by one.
-/

namespace PasswordGrant.Json

open Written

/-! ### Texts -/

theorem escapeChar_of_escape {e c : Char} (h : (e, c) ∈ escapes) (hslash : c ≠ '/') :
    escapeChar c = ['\\', e] := by
  simp only [escapes, List.mem_cons, Prod.mk.injEq, List.not_mem_nil, or_false] at h
  rcases h with ⟨rfl, rfl⟩ | ⟨rfl, rfl⟩ | ⟨rfl, rfl⟩ | ⟨rfl, rfl⟩ | ⟨rfl, rfl⟩ | ⟨rfl, rfl⟩ |
    ⟨rfl, rfl⟩ | ⟨rfl, rfl⟩
  case inr.inr.inl => exact absurd rfl hslash
  all_goals rfl

theorem escapeChar_of_forall_ne {c : Char} (h : ∀ p ∈ escapes, p.2 ≠ '/' → c ≠ p.2) :
    escapeChar c = if c.toNat < 0x20 then
      ['\\', 'u', '0', '0', Hex.digitLower (c.toNat / 16), Hex.digitLower (c.toNat % 16)] else [c] := by
  have hne : c ≠ '"' ∧ c ≠ '\\' ∧ c ≠ '\x08' ∧ c ≠ '\x0c' ∧ c ≠ '\n' ∧ c ≠ '\r' ∧ c ≠ '\t' := by
    simpa [escapes] using h
  simp [escapeChar, hne]

theorem unit?_control {n : Nat} (h : n < 0x20) :
    unit? '0' '0' (Hex.digitLower (n / 16)) (Hex.digitLower (n % 16)) = some n := by
  have hhigh : Hex.value? (Hex.digitLower (n / 16)) = some (n / 16) := Hex.value?_digitLower (by omega)
  have hlow : Hex.value? (Hex.digitLower (n % 16)) = some (n % 16) := Hex.value?_digitLower (by omega)
  have hzero : Hex.value? '0' = some 0 := by decide
  simp only [unit?, hzero, hhigh, hlow, bind, Option.bind_some, Option.some.injEq]
  omega

/-- Each character of a text is written as one letter, which stands for it. -/
theorem exists_letter (c : Char) :
    ∃ l : Letter, l.chars = escapeChar c ∧ ∀ ls, denoted? (l :: ls) = (denoted? ls).map (c :: ·) := by
  by_cases hescape : ∃ p ∈ escapes, p.2 ≠ '/' ∧ c = p.2
  · obtain ⟨⟨e, c⟩, hmem, hslash, rfl⟩ := hescape
    exact ⟨.escaped e c hmem, (escapeChar_of_escape hmem hslash).symm, fun _ => rfl⟩
  have hne : ∀ p ∈ escapes, p.2 ≠ '/' → c ≠ p.2 :=
    fun p hp hslash hc => hescape ⟨p, hp, hslash, hc⟩
  rw [escapeChar_of_forall_ne hne]
  split
  case isTrue hcontrol =>
    refine ⟨.unit _ _ _ _ _ (unit?_control hcontrol), rfl, fun ls => ?_⟩
    have hlow : isLow c.toNat = false := by simp [isLow]; omega
    have hhigh : isHigh c.toNat = false := by simp [isHigh]; omega
    rw [denoted?.eq_def]
    simp only [hlow, hhigh, Bool.false_eq_true, if_false, Char.ofNat_toNat]
  case isFalse hcontrol =>
    have hquote : c ≠ '"' := hne ('"', '"') (by decide) (by decide)
    have hbackslash : c ≠ '\\' := hne ('\\', '\\') (by decide) (by decide)
    exact ⟨.plain c ⟨Nat.not_lt.mp hcontrol, hquote, hbackslash⟩, rfl, fun _ => rfl⟩

/-- A text is written as letters that denote it. -/
theorem exists_letters (cs : List Char) :
    ∃ ls : List Letter, lettersChars ls = cs.flatMap escapeChar ∧ denoted? ls = some cs := by
  induction cs with
  | nil => exact ⟨[], rfl, rfl⟩
  | cons c cs ih =>
    obtain ⟨l, hchars, hdenoted⟩ := exists_letter c
    obtain ⟨ls, hmore, hcs⟩ := ih
    refine ⟨l :: ls, ?_, by rw [hdenoted, hcs]; rfl⟩
    rw [lettersChars, List.flatMap_cons, List.flatMap_cons, hchars, ← hmore]
    rfl

/-- So is a text in its quotes. -/
theorem exists_quoted (s : String) :
    ∃ ls : List Letter, quoted ls = renderText s ∧ denotedText? ls = some s := by
  obtain ⟨ls, hchars, hdenoted⟩ := exists_letters s.toList
  refine ⟨ls, by rw [quoted, renderText, hchars], ?_⟩
  rw [denotedText?, hdenoted, Option.map_some, String.ofList_toList]

/-! ### Numbers -/

/-- The digits of a number stand for it, and begin with a zero only if it is zero. -/
theorem exists_digits_of_nat (n : Nat) :
    ∃ d : Digits, d.chars = Nat.toDigits 10 n ∧ d.value = n ∧ (d.first = '0' → n = 0) := by
  have hdigit : ∀ m : Fin 10, isDigit (Nat.digitChar m) = true ∧
      digitValue (Nat.digitChar m) = m.val ∧ (Nat.digitChar m = '0' → m.val = 0) := by
    decide
  induction n using Nat.strongRecOn with
  | ind n ih =>
  by_cases hn : n < 10
  · obtain ⟨hisDigit, hvalue, hzero⟩ := hdigit ⟨n, hn⟩
    refine ⟨⟨Nat.digitChar n, [], hisDigit, List.forall_mem_nil _⟩, ?_, ?_, hzero⟩
    · rw [Nat.toDigits_of_lt_base hn]
      rfl
    · rw [Digits.value, Digits.chars, List.foldl_cons, List.foldl_nil, hvalue, Nat.zero_mul,
        Nat.zero_add]
  · obtain ⟨hisDigit, hvalue, -⟩ := hdigit ⟨n % 10, by omega⟩
    obtain ⟨d, hchars, hd, hzero⟩ := ih (n / 10) (by omega)
    refine ⟨⟨d.first, d.more ++ [Nat.digitChar (n % 10)], d.first_isDigit, ?_⟩, ?_, ?_, ?_⟩
    · intro c hc
      rcases List.mem_append.mp hc with hc | hc
      · exact d.more_isDigit c hc
      · rw [List.mem_singleton.mp hc]
        exact hisDigit
    · rw [Nat.toDigits_of_base_le (by decide) (Nat.not_lt.mp hn), ← hchars]
      rfl
    · rw [Digits.value, Digits.chars, ← List.cons_append, List.foldl_append]
      show d.value * 10 + digitValue (Nat.digitChar (n % 10)) = n
      rw [hd, hvalue]
      dsimp only
      omega
    · intro hfirst
      have htenth := hzero hfirst
      omega

/-- The numbers that their text keeps: whole ones within 64 bits. -/
inductive Number.Kept : Number → Prop where
  | natural {n : Nat} (h : n < 0x10000000000000000) : Kept (.natural n)
  | negative {i : Int} (hsign : i < 0) (h : -0x8000000000000000 ≤ i) : Kept (.negative i)

theorem Number.Kept.exists_written {x : Number} (h : x.Kept) :
    ∃ n : Written.Number, n.chars = x.render ∧ n.kept? = some x := by
  have htight : ∀ {m : Nat} {d : Digits}, d.chars = Nat.toDigits 10 m → (d.first = '0' → m = 0) →
      d.first = '0' → d.more = [] := by
    intro m d hchars hzero hfirst
    rw [hzero hfirst] at hchars
    exact (List.cons.inj hchars).2
  cases h with
  | @natural n h =>
    obtain ⟨d, hchars, hvalue, hzero⟩ := exists_digits_of_nat n
    refine ⟨⟨false, d, none, none, htight hchars hzero⟩, ?_, ?_⟩
    · simp [Written.Number.chars, Written.Number.unsignedChars, fractionChars, exponentChars, hchars,
        Number.render]
    · have hsmall : ¬0x10000000000000000 ≤ n := by omega
      rw [Written.Number.kept?]
      simp only [hvalue, hsmall, Option.isSome_none, Bool.or_self, decide_false, Bool.not_false,
        Bool.false_eq_true, if_false, if_true]
  | @negative i hsign h =>
    obtain ⟨d, hchars, hvalue, hzero⟩ := exists_digits_of_nat i.natAbs
    refine ⟨⟨true, d, none, none, htight hchars hzero⟩, ?_, ?_⟩
    · simp [Written.Number.chars, Written.Number.unsignedChars, fractionChars, exponentChars, hchars,
        Number.render]
    · have hsmall : ¬0x10000000000000000 ≤ i.natAbs := by omega
      have hrange : ¬(i.natAbs = 0 ∨ 0x8000000000000000 < i.natAbs) := by omega
      have hnumber : -(i.natAbs : Int) = i := by omega
      rw [Written.Number.kept?]
      simp only [hvalue, hsmall, hrange, hnumber, Option.isSome_none, Bool.or_self, decide_false,
        Bool.not_true, Bool.false_eq_true, if_false]

theorem Written.Number.kept_of_kept? {n : Written.Number} {x : Json.Number}
    (h : n.kept? = some x) : x.Kept := by
  rw [Written.Number.kept?] at h
  split at h
  · cases h
  case isFalse hexact =>
  have hbound : n.whole.value < 0x10000000000000000 := by
    simp only [Bool.or_eq_true, decide_eq_true_eq, not_or] at hexact
    omega
  split at h
  · cases h
    exact .natural hbound
  split at h
  · cases h
  case isFalse hrange =>
    cases h
    exact .negative (by omega) (by omega)

/-! ### Elements and members -/

theorem exists_forall₂ {α β : Type} {R : β → α → Prop} {as : List α} (h : ∀ a ∈ as, ∃ b, R b a) :
    ∃ bs, List.Forall₂ R bs as := by
  induction as with
  | nil => exact ⟨[], .nil⟩
  | cons a as ih =>
    rw [List.forall_mem_cons] at h
    obtain ⟨b, hb⟩ := h.1
    obtain ⟨bs, hbs⟩ := ih h.2
    exact ⟨b :: bs, .cons hb hbs⟩

theorem itemsChars_eq_renderItems {is : List Item} {js : List Json}
    (h : List.Forall₂ (fun i j => Item.chars i = render j) is js) : itemsChars is = renderItems js := by
  induction h with
  | nil => rfl
  | @cons i j is js hfirst hmore ih =>
    cases hmore with
    | nil => rw [itemsChars, itemsBehind, renderItems, hfirst]
    | cons _ _ => rw [itemsChars, itemsBehind, renderItems, hfirst, ← ih, itemsChars]

def renderMember (m : String × Json) : List Char := renderText m.1 ++ ':' :: render m.2

theorem membersChars_eq_renderMembers {ms : List Member} {js : List (String × Json)}
    (h : List.Forall₂ (fun m j => Member.chars m = renderMember j) ms js) :
    membersChars ms = renderMembers js := by
  induction h with
  | nil => rfl
  | @cons m j ms js hfirst hmore ih =>
    obtain ⟨name, v⟩ := j
    cases hmore with
    | nil =>
      rw [membersChars, membersBehind, renderMembers, hfirst, renderMember, List.append_assoc,
        List.cons_append]
    | cons _ _ =>
      rw [membersChars, membersBehind, renderMembers, hfirst, ← ih, membersChars, renderMember,
        List.append_assoc, List.cons_append]

/-- A member states a name and a value. -/
def Written.States (m : Member) (j : String × Json) : Prop :=
  denotedText? m.name = some j.1 ∧ Shows m.value j.2

theorem put_of_fresh {name : String} {before : List (String × Json)} (h : name ∉ before.map Prod.fst)
    (v : Json) : put name v before = before ++ [(name, v)] := by
  induction before with
  | nil => rfl
  | cons m before ih =>
    rw [List.map_cons, List.mem_cons, not_or] at h
    rw [put, if_neg (Ne.symm h.1), ih h.2, List.cons_append]

/-- Members that state names that differ show the object that they are stated for. -/
theorem showsMembers_of_states {ms : List Member} {js : List (String × Json)}
    (h : List.Forall₂ States ms js) : ∀ before : List (String × Json),
      ((before ++ js).map Prod.fst).Nodup → ShowsMembers before ms (before ++ js) := by
  induction h with
  | nil =>
    intro before _
    rw [List.append_nil]
    exact .nil before
  | @cons m j ms js hfirst hmore ih =>
    intro before hnames
    have hfresh : j.1 ∉ before.map Prod.fst := by
      rw [List.map_append, List.nodup_append] at hnames
      exact fun hmem => hnames.2.2 _ hmem _ (List.mem_cons_self) rfl
    have hput := put_of_fresh hfresh j.2
    have hshown := ih (before ++ [j]) (by simpa using hnames)
    rw [List.append_assoc, List.singleton_append] at hshown
    refine .cons hfirst.1 hfirst.2 ?_
    rw [hput]
    exact hshown

/-! ### Values -/

/-- The values that their text keeps: their numbers are whole and within 64 bits, and their objects have
one member of each name. -/
inductive Kept : Json → Prop where
  | null : Kept .null
  | bool (b : Bool) : Kept (.bool b)
  | number {x : Number} (h : x.Kept) : Kept (.number x)
  | text (s : String) : Kept (.text s)
  | array {items : List Json} (h : ∀ j ∈ items, Kept j) : Kept (.array items)
  | object {members : List (String × Json)} (hnames : (members.map Prod.fst).Nodup)
      (h : ∀ m ∈ members, Kept m.2) : Kept (.object members)

theorem exists_writtenMember {m : String × Json} (h : ∃ v : Value, v.chars = m.2.render ∧ Shows v m.2) :
    ∃ w : Member, w.chars = renderMember m ∧ States w m := by
  obtain ⟨v, hchars, hshows⟩ := h
  obtain ⟨ls, hquoted, hname⟩ := exists_quoted m.1
  refine ⟨⟨noBlanks, ls, noBlanks, noBlanks, v, noBlanks⟩, ?_, hname, hshows⟩
  simp [Member.chars, renderMember, noBlanks, hquoted, hchars]

/-- The compact text of a value is a written value that shows it. -/
theorem Kept.exists_written {j : Json} (h : j.Kept) : ∃ v : Value, v.chars = j.render ∧ Shows v j := by
  induction h with
  | null => exact ⟨.null, rfl, .null⟩
  | bool b => exact ⟨.flag b, by cases b <;> rfl, .flag b⟩
  | number h =>
    obtain ⟨n, hchars, hkept⟩ := h.exists_written
    exact ⟨.number n, hchars, .number (.inl hkept)⟩
  | text s =>
    obtain ⟨ls, hquoted, hdenoted⟩ := exists_quoted s
    exact ⟨.text ls, hquoted, .text hdenoted⟩
  | @array items _ ih =>
    have hitem : ∀ j ∈ items, ∃ i : Item, i.chars = j.render ∧ Shows i.value j := by
      intro j hj
      obtain ⟨v, hchars, hshows⟩ := ih j hj
      exact ⟨⟨noBlanks, v, noBlanks⟩, by simp [Item.chars, noBlanks, hchars], hshows⟩
    obtain ⟨is, his⟩ := exists_forall₂ hitem
    have hchars := itemsChars_eq_renderItems (his.imp fun _ _ h => h.1)
    refine ⟨.array noBlanks is, ?_, .array (showsItems_of_forall₂ (his.imp fun _ _ h => h.2))⟩
    rw [Value.chars, render, hchars]
    rfl
  | @object members hnames _ ih =>
    obtain ⟨ms, hms⟩ := exists_forall₂ fun m hm => exists_writtenMember (ih m hm)
    have hchars := membersChars_eq_renderMembers (hms.imp fun _ _ h => h.1)
    refine ⟨.object noBlanks ms, ?_,
      .object (showsMembers_of_states (hms.imp fun _ _ h => h.2) [] hnames)⟩
    rw [Value.chars, render, hchars]
    rfl

/-- The compact text of an object is a document with the members of the object, one by one. -/
theorem exists_writtenMembers {members : List (String × Json)} (h : ∀ m ∈ members, m.2.Kept) :
    ∃ ms : List Member, (Json.object members).compact
        = (Document.mk noBlanks (.object noBlanks ms) noBlanks).text ∧ List.Forall₂ States ms members := by
  obtain ⟨ms, hms⟩ := exists_forall₂ fun m hm => exists_writtenMember (h m hm).exists_written
  have hchars := membersChars_eq_renderMembers (hms.imp fun _ _ h => h.1)
  refine ⟨ms, ?_, hms.imp fun _ _ h => h.2⟩
  rw [compact, Document.text, render, Value.chars, hchars]
  simp [noBlanks]

end PasswordGrant.Json
