import PasswordGrant.Proofs.Json.Numbers

/-!
# Passing over values

A value that no one asked for is passed over whatever it is: with strings that denote no text, numbers
of any size, and any nesting. Nothing but values is passed over.

* `Ends` : a text in which a value may end;
* `Written.Value.lead`, `Written.Value.exists_chars` : the character that tells the kind of a value;
* `skipElements_written`, `skipMembers_written` : the loops, for any way of passing over a part;
* `skipValue_written`, `skipValue_sound` : values.
-/

namespace PasswordGrant.Json

open Written

/-! ### Where values end and begin -/

/-- A text in which a value may end: there is nothing, or a blank, a comma or a closing bracket. -/
def Ends (s : List Char) : Prop := ∀ c ∈ s.head?, isBlank c ∨ c = ',' ∨ c = ']' ∨ c = '\x7d'

theorem Ends.blanks (b : Blanks) {s : List Char} (h : Ends s) : Ends (b.chars ++ s) := by
  obtain ⟨cs, hblank⟩ := b
  cases cs with
  | nil => exact h
  | cons c cs =>
    intro d hd
    cases hd
    exact .inl (hblank c List.mem_cons_self)

theorem ends_comma (s : List Char) : Ends (',' :: s) := by
  intro c hc
  cases hc
  exact .inr (.inl rfl)

theorem Ends.stops {s : List Char} (h : Ends s) (f : Option Digits) (e : Option Exponent) :
    Stops f e s := by
  have hcases : ∀ c ∈ s.head?, isDigit c = false ∧ c ≠ 'e' ∧ c ≠ 'E' ∧ c ≠ '.' := by
    intro c hc
    rcases h c hc with (rfl | rfl | rfl | rfl) | rfl | rfl | rfl <;> decide
  exact ⟨fun c hc => (hcases c hc).1, fun _ c hc => ⟨(hcases c hc).2.1, (hcases c hc).2.2.1⟩,
    fun _ _ c hc => (hcases c hc).2.2.2⟩

/-- The character that a value begins with. -/
def Written.Value.lead : Value → Char
  | .null => 'n'
  | .flag true => 't'
  | .flag false => 'f'
  | .number n => if n.negative then '-' else n.whole.first
  | .text _ => '"'
  | .array .. => '['
  | .object .. => '\x7b'

theorem Written.Value.exists_chars (v : Value) : ∃ tail, v.chars = v.lead :: tail := by
  match v with
  | .null => exact ⟨_, rfl⟩
  | .flag true => exact ⟨_, rfl⟩
  | .flag false => exact ⟨_, rfl⟩
  | .number n =>
    rw [chars, Written.Number.chars, lead]
    cases n.negative with
    | true => exact ⟨_, rfl⟩
    | false => exact ⟨_, rfl⟩
  | .text _ => exact ⟨_, rfl⟩
  | .array .. => exact ⟨_, rfl⟩
  | .object .. => exact ⟨_, rfl⟩

theorem ne_of_isDigit {c d : Char} (hc : isDigit c = true) (hd : isDigit d = false) : c ≠ d := by
  rintro rfl
  rw [hc] at hd
  cases hd

theorem Written.Value.lead_number_ne (n : Written.Number) {c : Char} (hminus : c ≠ '-')
    (hdigit : isDigit c = false) : (Value.number n).lead ≠ c := by
  rw [lead]
  split
  · exact hminus.symm
  · exact ne_of_isDigit n.whole.first_isDigit hdigit

theorem not_isBlank_of_isDigit {c : Char} (hc : isDigit c = true) : ¬isBlank c := by
  rintro (rfl | rfl | rfl | rfl) <;> cases hc

theorem Written.Value.lead_ne (v : Value) :
    ¬isBlank v.lead ∧ v.lead ≠ ',' ∧ v.lead ≠ ']' ∧ v.lead ≠ '\x7d' := by
  match v with
  | .null | .flag true | .flag false | .text _ | .array .. | .object .. =>
    refine ⟨?_, ?_, ?_, ?_⟩ <;> simp [lead, isBlank]
  | .number n =>
    refine ⟨fun hblank => ?_, lead_number_ne n (by decide) rfl, lead_number_ne n (by decide) rfl,
      lead_number_ne n (by decide) rfl⟩
    rcases hblank with h | h | h | h <;> exact lead_number_ne n (by decide) rfl h

theorem skipBlanks_value (b : Blanks) (v : Value) (rest : List Char) :
    skipBlanks (b.chars ++ (v.chars ++ rest)) = v.chars ++ rest := by
  obtain ⟨tail, htail⟩ := v.exists_chars
  rw [skipBlanks_append, htail, List.cons_append, skipBlanks_cons_of_not_isBlank v.lead_ne.1]

def noBlanks : Blanks := ⟨[], nofun⟩

/-! ### Parts of arrays and objects -/

theorem Written.Item.chars_append (i : Item) (s : List Char) :
    i.chars ++ s = i.before.chars ++ (i.value.chars ++ (i.after.chars ++ s)) := by
  cases i
  simp only [chars, List.append_assoc]

/-- The text behind the opening quote of a name up to the end of the member. -/
def Written.Member.behindQuote (m : Member) (s : List Char) : List Char :=
  lettersChars m.name ++ '"' :: (m.behind.chars ++ ':' ::
    (m.between.chars ++ (m.value.chars ++ (m.after.chars ++ s))))

theorem Written.Member.chars_append (m : Member) (s : List Char) :
    m.chars ++ s = m.before.chars ++ '"' :: m.behindQuote s := by
  cases m
  simp only [chars, behindQuote, quoted, List.append_assoc, List.cons_append, List.nil_append]

theorem ends_itemsBehind (is : List Item) (s : List Char) : Ends (itemsBehind is ++ s) := by
  cases is with
  | nil =>
    intro c hc
    cases hc
    exact .inr (.inr (.inl rfl))
  | cons i is => exact ends_comma _

theorem ends_membersBehind (ms : List Member) (s : List Char) : Ends (membersBehind ms ++ s) := by
  cases ms with
  | nil =>
    intro c hc
    cases hc
    exact .inr (.inr (.inr rfl))
  | cons m ms => exact ends_comma _

theorem readColon_eq_ok_iff {s rest : List Char} :
    readColon s = .ok rest ↔ ∃ b : Blanks, s = b.chars ++ ':' :: rest := by
  constructor
  · intro h
    rw [readColon] at h
    split at h
    · cases h
    · rename_i heq
      split at h
      case isTrue hc =>
        cases h
        rw [hc] at heq
        exact exists_blanks heq
      case isFalse => cases h
  · rintro ⟨b, rfl⟩
    rw [readColon, skipBlanks_append]
    rfl

/-! ### The loops -/

section

variable {value : List Char → Except Fault (List Char)}

/-- Elements are passed over if their values are. -/
theorem skipElements_written {i : Item} {is : List Item}
    (hvalue : ∀ j ∈ i :: is, ∀ (b : Blanks) (rest : List Char), Ends rest →
      value (b.chars ++ (j.value.chars ++ rest)) = .ok rest)
    {n : Nat} (hn : is.length < n) (b : Blanks) (rest : List Char) :
    skipElements value n (b.chars ++ (i.value.chars ++ (i.after.chars ++ (itemsBehind is ++ rest))))
      = .ok rest := by
  induction is generalizing i n b with
  | nil =>
    obtain ⟨n, rfl⟩ : ∃ m, n = m + 1 := ⟨n - 1, by omega⟩
    have hi := hvalue i List.mem_cons_self b _ ((ends_itemsBehind [] rest).blanks i.after)
    rw [skipElements, hi]
    simp only [bind, Except.bind, skipBlanks_append]
    rfl
  | cons j is ih =>
    obtain ⟨n, rfl⟩ : ∃ m, n = m + 1 := ⟨n - 1, by omega⟩
    have hi := hvalue i List.mem_cons_self b _ ((ends_itemsBehind (j :: is) rest).blanks i.after)
    have hmore := ih (fun k hk => hvalue k (List.mem_cons_of_mem i hk)) (Nat.lt_of_succ_lt_succ hn)
      j.before
    rw [skipElements, hi]
    simp only [bind, Except.bind, skipBlanks_append]
    rw [← j.chars_append] at hmore
    simpa [itemsBehind, skipBlanks] using hmore

/-- A member is passed over up to the blanks behind its value. -/
theorem skipMembers_member {m : Member} {s : List Char} (n : Nat) (b : Blanks)
    (hvalue : value (m.between.chars ++ (m.value.chars ++ (m.after.chars ++ s)))
      = .ok (m.after.chars ++ s)) :
    skipMembers value (n + 1) (b.chars ++ '"' :: m.behindQuote s)
      = match skipBlanks s with
        | [] => .error (.here .objectUnfinished [])
        | c :: rest =>
          if c = ',' then skipMembers value n rest
          else if c = '\x7d' then .ok rest
          else .error (.next .objectSeparatorExpected (c :: rest)) := by
  have hcolon : readColon (m.behind.chars ++ ':' ::
      (m.between.chars ++ (m.value.chars ++ (m.after.chars ++ s))))
      = .ok (m.between.chars ++ (m.value.chars ++ (m.after.chars ++ s))) :=
    readColon_eq_ok_iff.mpr ⟨m.behind, rfl⟩
  rw [skipMembers, skipBlanks_append, skipBlanks_cons_of_not_isBlank (by simp [isBlank])]
  cases hs : skipBlanks s with
  | nil =>
    simp only [if_true, Member.behindQuote, skipText_written, bind, Except.bind, hcolon, hvalue,
      skipBlanks_append, hs]
  | cons c rest =>
    simp only [if_true, Member.behindQuote, skipText_written, bind, Except.bind, hcolon, hvalue,
      skipBlanks_append, hs]

/-- Members are passed over if their values are, whatever their names denote. -/
theorem skipMembers_written {m : Member} {ms : List Member}
    (hvalue : ∀ m' ∈ m :: ms, ∀ (b : Blanks) (rest : List Char), Ends rest →
      value (b.chars ++ (m'.value.chars ++ rest)) = .ok rest)
    {n : Nat} (hn : ms.length < n) (b : Blanks) (rest : List Char) :
    skipMembers value n (b.chars ++ '"' :: m.behindQuote (membersBehind ms ++ rest)) = .ok rest := by
  induction ms generalizing m n b with
  | nil =>
    obtain ⟨n, rfl⟩ : ∃ m, n = m + 1 := ⟨n - 1, by omega⟩
    have hm := hvalue m List.mem_cons_self m.between _ ((ends_membersBehind [] rest).blanks m.after)
    rw [skipMembers_member n b hm]
    rfl
  | cons m' ms ih =>
    obtain ⟨n, rfl⟩ : ∃ m, n = m + 1 := ⟨n - 1, by omega⟩
    have hm := hvalue m List.mem_cons_self m.between _
      ((ends_membersBehind (m' :: ms) rest).blanks m.after)
    have hmore := ih (fun k hk => hvalue k (List.mem_cons_of_mem m hk)) (Nat.lt_of_succ_lt_succ hn)
      m'.before
    rw [skipMembers_member n b hm]
    rw [← m'.chars_append] at hmore
    simpa [membersBehind, skipBlanks] using hmore

/-- Nothing is passed over as elements but elements. -/
theorem skipElements_sound
    (hvalue : ∀ s rest, value s = .ok rest → ∃ (b : Blanks) (v : Value), s = b.chars ++ (v.chars ++ rest))
    {n : Nat} {s rest : List Char} (h : skipElements value n s = .ok rest) :
    ∃ i is, s = Item.chars i ++ (itemsBehind is ++ rest) := by
  induction n generalizing s with
  | zero => cases h
  | succ n ih =>
    rw [skipElements] at h
    obtain ⟨s', hs, hmore⟩ := bind_eq_ok.mp h
    obtain ⟨before, v, rfl⟩ := hvalue _ _ hs
    split at hmore
    · cases hmore
    · rename_i heq
      obtain ⟨after, rfl⟩ := exists_blanks heq
      split at hmore
      case isTrue hc =>
        obtain ⟨i, is, rfl⟩ := ih hmore
        exact ⟨⟨before, v, after⟩, i :: is, by simp [Item.chars, itemsBehind, hc]⟩
      split at hmore
      case isTrue hc =>
        cases hmore
        exact ⟨⟨before, v, after⟩, [], by simp [Item.chars, itemsBehind, hc]⟩
      case isFalse => cases hmore

/-- Nothing is passed over as members but members. -/
theorem skipMembers_sound
    (hvalue : ∀ s rest, value s = .ok rest → ∃ (b : Blanks) (v : Value), s = b.chars ++ (v.chars ++ rest))
    {n : Nat} {s rest : List Char} (h : skipMembers value n s = .ok rest) :
    ∃ m ms, s = Member.chars m ++ (membersBehind ms ++ rest) := by
  induction n generalizing s with
  | zero => cases h
  | succ n ih =>
    rw [skipMembers] at h
    split at h
    · cases h
    rename_i hbefore
    obtain ⟨before, rfl⟩ := exists_blanks hbefore
    split at h
    case isFalse => cases h
    case isTrue hquote =>
    obtain ⟨s₁, hname, h⟩ := bind_eq_ok.mp h
    obtain ⟨s₂, hcolon, h⟩ := bind_eq_ok.mp h
    obtain ⟨s₃, hs₃, hmore⟩ := bind_eq_ok.mp h
    obtain ⟨name, rfl⟩ := skipText_sound hname
    obtain ⟨behind, rfl⟩ := readColon_eq_ok_iff.mp hcolon
    obtain ⟨between, v, rfl⟩ := hvalue _ _ hs₃
    split at hmore
    · cases hmore
    · rename_i heq
      obtain ⟨after, rfl⟩ := exists_blanks heq
      split at hmore
      case isTrue hc =>
        obtain ⟨m, ms, rfl⟩ := ih hmore
        exact ⟨⟨before, name, behind, between, v, after⟩, m :: ms,
          by simp [Member.chars, membersBehind, quoted, hquote, hc]⟩
      split at hmore
      case isTrue hc =>
        cases hmore
        exact ⟨⟨before, name, behind, between, v, after⟩, [],
          by simp [Member.chars, membersBehind, quoted, hquote, hc]⟩
      case isFalse => cases hmore

end

/-! ### Values -/

theorem Written.Value.text_append (ls : List Letter) (s : List Char) :
    (Value.text ls).chars ++ s = '"' :: (lettersChars ls ++ '"' :: s) := by
  simp [chars, quoted]

theorem Written.Value.array_append (inside : Blanks) (items : List Item) (s : List Char) :
    (Value.array inside items).chars ++ s = '[' :: (inside.chars ++ (itemsChars items ++ s)) := by
  simp [chars]

theorem Written.Value.object_append (inside : Blanks) (members : List Member) (s : List Char) :
    (Value.object inside members).chars ++ s
      = '\x7b' :: (inside.chars ++ (membersChars members ++ s)) := by
  simp [chars]

theorem Written.Value.number_append (n : Written.Number) (s : List Char) :
    (Value.number n).chars ++ s
      = if n.negative then '-' :: (n.unsignedChars ++ s)
        else n.whole.first :: (n.unsignedChars.tail ++ s) := by
  rw [chars, Written.Number.chars]
  cases n.negative with
  | true => rfl
  | false => rfl

/-- What is inside a value is shorter than it is. -/
theorem length_item_lt (inside : Blanks) {items : List Item} {i : Item} (hi : i ∈ items) :
    i.value.chars.length < (Value.array inside items).chars.length := by
  have hbehind : ∀ {is : List Item}, i ∈ is → i.value.chars.length < (itemsBehind is).length := by
    intro is hi
    induction is with
    | nil => cases hi
    | cons j is ih =>
      rcases List.mem_cons.mp hi with rfl | hi
      · rw [itemsBehind, Item.chars_append]
        simp only [List.length_cons, List.length_append]
        omega
      · have := ih hi
        rw [itemsBehind, List.length_cons, List.length_append]
        omega
  cases items with
  | nil => cases hi
  | cons j is =>
    have hlength := hbehind hi
    rw [itemsBehind, List.length_cons] at hlength
    rw [Value.chars, itemsChars, List.length_append, List.length_cons]
    omega

theorem length_member_lt (inside : Blanks) {members : List Member} {m : Member}
    (hm : m ∈ members) : m.value.chars.length < (Value.object inside members).chars.length := by
  have hbehind : ∀ {ms : List Member}, m ∈ ms → m.value.chars.length < (membersBehind ms).length := by
    intro ms hm
    induction ms with
    | nil => cases hm
    | cons m' ms ih =>
      rcases List.mem_cons.mp hm with rfl | hm
      · rw [membersBehind, Member.chars_append, Member.behindQuote]
        simp only [List.length_cons, List.length_append]
        omega
      · have := ih hm
        rw [membersBehind, List.length_cons, List.length_append]
        omega
  cases members with
  | nil => cases hm
  | cons m' ms =>
    have hlength := hbehind hm
    rw [membersBehind, List.length_cons] at hlength
    rw [Value.chars, membersChars, List.length_append, List.length_cons]
    omega

theorem length_itemsBehind (is : List Item) : is.length < (itemsBehind is).length := by
  induction is with
  | nil => exact Nat.one_pos
  | cons i is ih =>
    rw [itemsBehind, List.length_cons, List.length_cons, List.length_append]
    omega

theorem length_membersBehind (ms : List Member) : ms.length < (membersBehind ms).length := by
  induction ms with
  | nil => exact Nat.one_pos
  | cons m ms ih =>
    rw [membersBehind, List.length_cons, List.length_cons, List.length_append]
    omega

theorem skipBlanks_items (inside : Blanks) (i : Item) (is : List Item) (s : List Char) :
    skipBlanks (inside.chars ++ (itemsChars (i :: is) ++ s))
      = i.value.chars ++ (i.after.chars ++ (itemsBehind is ++ s)) := by
  rw [skipBlanks_append, itemsChars, List.append_assoc, Item.chars_append, skipBlanks_value]

theorem skipBlanks_members (inside : Blanks) (m : Member) (ms : List Member) (s : List Char) :
    skipBlanks (inside.chars ++ (membersChars (m :: ms) ++ s))
      = '"' :: m.behindQuote (membersBehind ms ++ s) := by
  rw [skipBlanks_append, membersChars, List.append_assoc, Member.chars_append, skipBlanks_append,
    skipBlanks_cons_of_not_isBlank (by simp [isBlank])]

theorem skipValueWithin_digit {c : Char} (hc : isDigit c = true) (n : Nat) (s : List Char) :
    skipValueWithin (n + 1) (c :: s) = skipNumber (c :: s) := by
  rw [skipValueWithin, skipBlanks_cons_of_not_isBlank (not_isBlank_of_isDigit hc)]
  simp only [if_neg (ne_of_isDigit hc rfl : c ≠ 'n'), if_neg (ne_of_isDigit hc rfl : c ≠ 't'),
    if_neg (ne_of_isDigit hc rfl : c ≠ 'f'), if_neg (ne_of_isDigit hc rfl : c ≠ '-'), if_pos hc]

theorem skipValueWithin_array (n : Nat) {s more : List Char} {d : Char}
    (hs : skipBlanks s = d :: more) :
    skipValueWithin (n + 1) ('[' :: s) = if d = ']' then .ok more
      else skipElements (skipValueWithin n) (more.length + 1) (d :: more) := by
  rw [skipValueWithin, skipBlanks_cons_of_not_isBlank (by simp [isBlank])]
  simp only [hs]
  rfl

theorem skipValueWithin_object (n : Nat) {s more : List Char} {d : Char}
    (hs : skipBlanks s = d :: more) :
    skipValueWithin (n + 1) ('\x7b' :: s) = if d = '\x7d' then .ok more
      else skipMembers (skipValueWithin n) (more.length + 1) (d :: more) := by
  rw [skipValueWithin, skipBlanks_cons_of_not_isBlank (by simp [isBlank])]
  simp only [hs]
  rfl

/-- Any value is passed over, given as many levels as it has characters. -/
theorem skipValueWithin_written {n : Nat} {v : Value} (hv : v.chars.length ≤ n) (b : Blanks)
    {rest : List Char} (h : Ends rest) :
    skipValueWithin n (b.chars ++ (v.chars ++ rest)) = .ok rest := by
  induction n generalizing v b rest with
  | zero =>
    obtain ⟨tail, htail⟩ := v.exists_chars
    rw [htail] at hv
    cases hv
  | succ n ih =>
    have hblanks : skipValueWithin (n + 1) (b.chars ++ (v.chars ++ rest))
        = skipValueWithin (n + 1) (v.chars ++ rest) := by
      rw [skipValueWithin, skipValueWithin, skipBlanks_append]
    rw [hblanks]
    match v with
    | .null => exact readWord_eq_ok_iff.mpr rfl
    | .flag true => exact readWord_eq_ok_iff.mpr rfl
    | .flag false => exact readWord_eq_ok_iff.mpr rfl
    | .text ls =>
      rw [Value.text_append]
      exact skipText_written ls rest
    | .number x =>
      have hx : skipNumber (x.unsignedChars ++ rest) = .ok rest :=
        (skipNumber_eq_ok_iff x.negative).mpr ⟨x, rfl, rfl, h.stops x.fraction x.exponent⟩
      rw [Value.number_append]
      split
      · exact hx
      · rw [skipValueWithin_digit x.whole.first_isDigit]
        exact hx
    | .array inside [] =>
      have hclose : skipBlanks (inside.chars ++ (itemsChars [] ++ rest)) = ']' :: rest := by
        rw [skipBlanks_append]
        rfl
      rw [Value.array_append, skipValueWithin_array n hclose, if_pos rfl]
    | .array inside (i :: is) =>
      have hitems := skipBlanks_items inside i is rest
      obtain ⟨tail, htail⟩ := i.value.exists_chars
      rw [htail, List.cons_append] at hitems
      have hcount := length_itemsBehind is
      rw [Value.array_append, skipValueWithin_array n hitems, if_neg i.value.lead_ne.2.2.1,
        ← List.cons_append, ← htail]
      refine skipElements_written (fun j hj b rest hrest => ih ?_ b hrest) ?_ noBlanks rest
      · have := length_item_lt inside hj
        omega
      · simp only [List.length_append]
        omega
    | .object inside [] =>
      have hclose : skipBlanks (inside.chars ++ (membersChars [] ++ rest)) = '\x7d' :: rest := by
        rw [skipBlanks_append]
        rfl
      rw [Value.object_append, skipValueWithin_object n hclose, if_pos rfl]
    | .object inside (m :: ms) =>
      have hmembers := skipBlanks_members inside m ms rest
      have hcount := length_membersBehind ms
      rw [Value.object_append, skipValueWithin_object n hmembers, if_neg (by decide)]
      refine skipMembers_written (fun m' hm' b rest hrest => ih ?_ b hrest) ?_ noBlanks rest
      · have := length_member_lt inside hm'
        omega
      · simp only [Member.behindQuote, List.length_append, List.length_cons]
        omega

/-- Nothing is passed over as a value but values. -/
theorem skipValueWithin_sound {n : Nat} {s rest : List Char} (h : skipValueWithin n s = .ok rest) :
    ∃ (b : Blanks) (v : Value), s = b.chars ++ (v.chars ++ rest) := by
  induction n generalizing s rest with
  | zero => cases h
  | succ n ih =>
    rw [skipValueWithin] at h
    split at h
    · cases h
    rename_i c tail heq
    obtain ⟨b, rfl⟩ := exists_blanks heq
    refine ⟨b, ?_⟩
    -- one case for each character that a value may begin with
    split at h
    case isTrue hc => exact ⟨.null, by rw [hc, readWord_eq_ok_iff.mp h]; rfl⟩
    split at h
    case isTrue hc => exact ⟨.flag true, by rw [hc, readWord_eq_ok_iff.mp h]; rfl⟩
    split at h
    case isTrue hc => exact ⟨.flag false, by rw [hc, readWord_eq_ok_iff.mp h]; rfl⟩
    split at h
    case isTrue hc =>
      obtain ⟨x, hnegative, rfl, -⟩ := (skipNumber_eq_ok_iff true).mp h
      exact ⟨.number x, by rw [Value.chars, Written.Number.chars, hnegative, hc]; rfl⟩
    split at h
    case isTrue hc =>
      obtain ⟨x, hnegative, hx, -⟩ := (skipNumber_eq_ok_iff false).mp h
      exact ⟨.number x, by rw [Value.chars, Written.Number.chars, hnegative, hx]; rfl⟩
    split at h
    case isTrue hc =>
      obtain ⟨ls, rfl⟩ := skipText_sound h
      refine ⟨.text ls, ?_⟩
      rw [hc, Value.chars, quoted]
      simp
    split at h
    case isTrue hc =>
      split at h
      · cases h
      rename_i hinside
      obtain ⟨inside, rfl⟩ := exists_blanks hinside
      split at h
      case isTrue hclose =>
        cases h
        refine ⟨.array inside [], ?_⟩
        rw [hc, hclose, Value.chars, itemsChars]
        simp
      case isFalse =>
        obtain ⟨i, is, his⟩ := skipElements_sound (fun _ _ => ih) h
        refine ⟨.array inside (i :: is), ?_⟩
        rw [hc, his, Value.chars, itemsChars]
        simp
    split at h
    case isTrue hc =>
      split at h
      · cases h
      rename_i hinside
      obtain ⟨inside, rfl⟩ := exists_blanks hinside
      split at h
      case isTrue hclose =>
        cases h
        refine ⟨.object inside [], ?_⟩
        rw [hc, hclose, Value.chars, membersChars]
        simp
      case isFalse =>
        obtain ⟨m, ms, hms⟩ := skipMembers_sound (fun _ _ => ih) h
        refine ⟨.object inside (m :: ms), ?_⟩
        rw [hc, hms, Value.chars, membersChars]
        simp
    case isFalse => cases h

/-- Passing over a value drops the blanks before it and the value. -/
theorem skipValue_written (b : Blanks) (v : Value) {rest : List Char} (h : Ends rest) :
    skipValue (b.chars ++ (v.chars ++ rest)) = .ok rest := by
  refine skipValueWithin_written ?_ b h
  simp only [List.length_append]
  omega

/-- It drops nothing else. -/
theorem skipValue_sound {s rest : List Char} (h : skipValue s = .ok rest) :
    ∃ (b : Blanks) (v : Value), s = b.chars ++ (v.chars ++ rest) := skipValueWithin_sound h

end PasswordGrant.Json
