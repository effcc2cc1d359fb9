import PasswordGrant.Json.Record
import PasswordGrant.Proofs.Json.Elements

/-!
# Values of the kinds that fields have

What a field of a kind holds is decided by the value that is written: a text that a string denotes, a
whole number without fraction and exponent, `null` for nothing in an optional field. Whatever is read
for a field is what the value holds. Nor is anything missed: a reader fails only on a value that holds
nothing for the field, be it one of another kind or a number that is out of range.

* `Kind.slot?` : what a value holds for a field of a kind;
* `Sound`, `Exact` : readers that read nothing but what values hold, and all of it;
* `Kind.read_sound` : the readers of all kinds are sound;
* `Kind.read_exact` : they are exact, too.
-/

namespace PasswordGrant.Json

open Written

/-! ### What values hold -/

/-- The text that a value denotes, if it is a string. -/
def Written.Value.text? : Value → Option String
  | .text ls => denotedText? ls
  | _ => none

/-- The number within 64 bits that a value is, if it is kept exactly. -/
def Written.Value.number? : Value → Option Json.Number
  | .number n => n.kept?
  | _ => none

/-- Nothing for `null`, and else what the value holds. -/
def Written.Value.optional {α : Type} (held : Value → Option α) : Value → Option (Option α)
  | .null => some none
  | v => (held v).map some

theorem Written.Value.optional_of_ne {α : Type} {held : Value → Option α} {v : Value}
    (h : v ≠ .null) : Value.optional held v = (held v).map some := by
  cases v <;> first | rfl | exact absurd rfl h

/-- The texts that the elements of an array denote. -/
def Written.Value.texts? : Value → Option (List String)
  | .array _ items => items.mapM fun i => i.value.text?
  | _ => none

def Written.Value.flag? : Value → Option Bool
  | .flag b => some b
  | _ => none

/-- The texts that a value denotes as an audience. -/
def Written.Value.audience? : Value → Option (List String)
  | .null => some []
  | .text ls => (denotedText? ls).map fun t => [t]
  | v => v.texts?

/-- What a value holds for a field of a kind. -/
def Kind.slot? (kind : Kind) (v : Value) : Option Slot :=
  match kind with
  | .text => v.text?.map .text
  | .optionalText => (v.optional (·.text?)).map (.ofOption .text)
  | .optionalNatural => (v.optional (·.number?.bind Number.toNat?)).map (.ofOption .natural)
  | .optionalInteger => (v.optional (·.number?.bind Number.toInt?)).map (.ofOption .integer)
  | .flag => v.flag?.map .flag
  | .texts => v.texts?.map .texts
  | .audience => v.audience?.map .texts

theorem Written.Value.eq_null_of_lead (v : Value) (h : v.lead = 'n') : v = .null := by
  match v, h with
  | .null, _ => rfl
  | .number n, h => exact absurd h (lead_number_ne n (by decide) rfl)

theorem Written.Value.eq_text_of_lead (v : Value) (h : v.lead = '"') : ∃ ls, v = .text ls := by
  match v, h with
  | .text ls, _ => exact ⟨ls, rfl⟩
  | .number n, h => exact absurd h (lead_number_ne n (by decide) rfl)

theorem Written.Value.eq_array_of_lead (v : Value) (h : v.lead = '[') :
    ∃ inside items, v = .array inside items := by
  match v, h with
  | .array inside items, _ => exact ⟨inside, items, rfl⟩
  | .number n, h => exact absurd h (lead_number_ne n (by decide) rfl)

/-! ### Reading what values hold -/

/-- A reader reads from a text only what a value at its beginning holds. -/
def Sound {α : Type} (read : Reader α) (held : Value → Option α) : Prop :=
  ∀ s x rest, read s = .ok (x, rest) →
    ∃ (b : Blanks) (v : Value), s = b.chars ++ (v.chars ++ rest) ∧ held v = some x

/-- A reader reads from a text exactly what the value at its beginning holds. -/
def Exact {α : Type} (read : Reader α) (held : Value → Option α) : Prop :=
  ∀ (b : Blanks) (v : Value) (rest : List Char), Ends rest →
    (read (b.chars ++ (v.chars ++ rest))).toOption = (held v).map (·, rest)

section

variable {α β : Type} {read : Reader α} {held : Value → Option α}

theorem Sound.map (h : Sound read held) (f : α → β) :
    Sound (fun s => (read s).map fun r => (f r.1, r.2)) fun v => (held v).map f := by
  intro s x rest hread
  obtain ⟨⟨y, s'⟩, hy, hx⟩ := map_eq_ok.mp hread
  cases hx
  obtain ⟨b, v, hs, hv⟩ := h s y _ hy
  exact ⟨b, v, hs, congrArg (Option.map f) hv⟩

theorem Exact.map (h : Exact read held) (f : α → β) :
    Exact (fun s => (read s).map fun r => (f r.1, r.2)) fun v => (held v).map f := by
  intro b v rest hrest
  rw [toOption_map, h b v rest hrest]
  simp only
  cases held v <;> rfl

theorem Exact.keeps (h : Exact read held) : Keeps read some held :=
  fun b v rest hrest => (keep_some _).trans (h b v rest hrest)

/-- Reading an optional value finds `null`, or what the reader of the value finds. -/
theorem readOptional_sound (h : Sound read held) (hnull : held .null = none) :
    Sound (readOptional read) (Value.optional held) := by
  intro s x rest hread
  rw [readOptional] at hread
  split at hread
  · rename_i heq
    obtain ⟨b, rfl⟩ := exists_blanks heq
    obtain ⟨s', hword, hx⟩ := map_eq_ok.mp hread
    cases hx
    exact ⟨b, .null, by rw [readWord_eq_ok_iff.mp hword]; rfl, rfl⟩
  · obtain ⟨⟨y, s'⟩, hy, hx⟩ := map_eq_ok.mp hread
    cases hx
    obtain ⟨b, v, hs, hv⟩ := h _ _ _ hy
    obtain ⟨b', rfl⟩ := exists_blanks hs
    refine ⟨b'.append b, v, by simp [Blanks.append], ?_⟩
    rw [Value.optional.eq_def]
    split
    · rw [hnull] at hv
      cases hv
    · rw [hv]
      rfl

theorem readOptional_exact (h : Exact read held) : Exact (readOptional read) (Value.optional held) := by
  intro b v rest hrest
  have hv := h noBlanks v rest hrest
  by_cases hnull : v = .null
  · subst hnull
    rw [readOptional, skipBlanks_value]
    rfl
  · have hlead : v.lead ≠ 'n' := mt v.eq_null_of_lead hnull
    obtain ⟨tail, htail⟩ := v.exists_chars
    rw [readOptional, skipBlanks_value, Value.optional_of_ne hnull]
    split
    · rename_i heq
      rw [htail] at heq
      exact absurd (List.cons.inj heq).1 hlead
    · rw [toOption_map, show v.chars ++ rest = noBlanks.chars ++ (v.chars ++ rest) from rfl, hv]
      cases held v <;> rfl

/-! ### Strings -/

theorem readString_sound : Sound readString Value.text? := by
  intro s t rest h
  rw [readString] at h
  split at h
  · cases h
  rename_i heq
  obtain ⟨b, rfl⟩ := exists_blanks heq
  split at h
  case isTrue hc =>
    obtain ⟨ls, rfl, hls⟩ := readText_sound h
    exact ⟨b, .text ls, by rw [hc, Value.text_append], hls⟩
  case isFalse => cases h

theorem readString_exact : Exact readString Value.text? := by
  intro b v rest hrest
  obtain ⟨tail, htail⟩ := v.exists_chars
  rw [readString, skipBlanks_value]
  by_cases htext : ∃ ls, v = .text ls
  · obtain ⟨ls, rfl⟩ := htext
    rw [Value.text_append]
    exact readText_written ls rest
  · have hlead : v.lead ≠ '"' := mt v.eq_text_of_lead htext
    have hnone : v.text? = none := by
      cases v <;> first | rfl | exact absurd ⟨_, rfl⟩ htext
    rw [htail, hnone]
    simp only [List.cons_append, if_neg hlead]
    rfl

/-! ### Numbers -/

/-- What is read as a number is kept if it is accepted. -/
theorem toOption_readNumberAs (expected : String) (accept : Number → Option α) (s : List Char) :
    (readNumberAs expected accept s).toOption = match skipBlanks s with
      | [] => none
      | c :: rest =>
        if c = '-' then (readNumber false rest).toOption.bind fun r => (accept r.1).map (·, r.2)
        else if isDigit c then
          (readNumber true (c :: rest)).toOption.bind fun r => (accept r.1).map (·, r.2)
        else none := by
  unfold readNumberAs
  extract_lets settle
  have hsettle : ∀ r, (settle r).toOption = r.toOption.bind fun r => (accept r.1).map (·, r.2) := by
    intro r
    cases r with
    | error f => rfl
    | ok p =>
      obtain ⟨n, rest⟩ := p
      simp only [settle]
      split
      case h_1 x hx =>
        show _ = (accept n).map (·, rest)
        rw [hx]
        rfl
      case h_2 hx =>
        show _ = (accept n).map (·, rest)
        rw [hx]
        split <;> rfl
  cases skipBlanks s with
  | nil => rfl
  | cons c rest =>
    simp only
    split
    · exact hsettle _
    split
    · exact hsettle _
    · rfl

theorem readNumber_accept {accept : Number → Option α} (haccept : ∀ f, accept (.float f) = none)
    {n : Written.Number} {rest : List Char} (h : Stops n.fraction n.exponent rest) :
    ((readNumber (!n.negative) (n.unsignedChars ++ rest)).toOption.bind fun r =>
      (accept r.1).map (·, r.2)) = (n.kept?.bind accept).map (·, rest) := by
  cases hkept : n.kept? with
  | some x =>
    rw [readNumber_kept hkept h]
    rfl
  | none =>
    cases hread : readNumber (!n.negative) (n.unsignedChars ++ rest) with
    | error f => rfl
    | ok r =>
      obtain ⟨⟨f, hf⟩, -⟩ := readNumber_not_kept hkept h hread
      show (accept r.1).map (·, r.2) = none
      rw [hf, haccept f]
      rfl

theorem readNumberAs_sound (expected : String) {accept : Number → Option α}
    (haccept : ∀ f, accept (.float f) = none) :
    Sound (readNumberAs expected accept) (·.number?.bind accept) := by
  have hkept : ∀ {n : Written.Number} {y : Number} {x : α}, ShowsNumber n y → accept y = some x →
      n.kept?.bind accept = some x := by
    rintro n y x (hy | ⟨-, f, rfl⟩) hx
    · rw [hy]
      exact hx
    · rw [haccept] at hx
      cases hx
  intro s x rest h
  rw [← toOption_eq_some_iff, toOption_readNumberAs] at h
  split at h
  · cases h
  rename_i c tail heq
  obtain ⟨b, rfl⟩ := exists_blanks heq
  split at h
  case isTrue hc =>
    obtain ⟨⟨y, s'⟩, hread, hx⟩ := Option.bind_eq_some_iff.mp h
    obtain ⟨z, hz, hx⟩ := Option.map_eq_some_iff.mp hx
    cases hx
    obtain ⟨n, hsign, rfl, hn⟩ := readNumber_sound (toOption_eq_some_iff.mp hread)
    exact ⟨b, .number n, by rw [Value.number_append, hsign, hc]; rfl, hkept hn hz⟩
  split at h
  case isTrue hc =>
    obtain ⟨⟨y, s'⟩, hread, hx⟩ := Option.bind_eq_some_iff.mp h
    obtain ⟨z, hz, hx⟩ := Option.map_eq_some_iff.mp hx
    cases hx
    obtain ⟨n, hsign, htail, hn⟩ := readNumber_sound (toOption_eq_some_iff.mp hread)
    refine ⟨b, .number n, ?_, hkept hn hz⟩
    rw [htail, Value.chars, Written.Number.chars, hsign]
    rfl
  case isFalse => cases h

theorem readNumberAs_exact (expected : String) {accept : Number → Option α}
    (haccept : ∀ f, accept (.float f) = none) :
    Exact (readNumberAs expected accept) (·.number?.bind accept) := by
  intro b v rest hrest
  rw [toOption_readNumberAs, skipBlanks_value]
  match v with
  | .null => rfl
  | .flag true => rfl
  | .flag false => rfl
  | .text ls => rfl
  | .array .. => rfl
  | .object .. => rfl
  | .number n =>
    have hn := readNumber_accept haccept (hrest.stops n.fraction n.exponent)
    rw [Value.number_append]
    cases hsign : n.negative with
    | true =>
      rw [hsign] at hn
      exact hn
    | false =>
      rw [hsign] at hn
      have hdigit := n.whole.first_isDigit
      have hminus : n.whole.first ≠ '-' := ne_of_isDigit hdigit rfl
      simp only [Bool.false_eq_true, if_false, if_neg hminus, if_pos hdigit]
      exact hn

end

/-! ### Truth values, lists and audiences -/

theorem readFlag_sound : Sound readFlag Value.flag? := by
  intro s x rest h
  rw [readFlag] at h
  split at h
  · cases h
  rename_i heq
  obtain ⟨b, rfl⟩ := exists_blanks heq
  split at h
  case isTrue hc =>
    obtain ⟨s', hword, hx⟩ := map_eq_ok.mp h
    cases hx
    exact ⟨b, .flag true, by rw [hc, readWord_eq_ok_iff.mp hword]; rfl, rfl⟩
  split at h
  case isTrue hc =>
    obtain ⟨s', hword, hx⟩ := map_eq_ok.mp h
    cases hx
    exact ⟨b, .flag false, by rw [hc, readWord_eq_ok_iff.mp hword]; rfl, rfl⟩
  case isFalse => cases h

theorem readFlag_exact : Exact readFlag Value.flag? := by
  intro b v rest hrest
  rw [readFlag, skipBlanks_value]
  match v with
  | .flag true => rfl
  | .flag false => rfl
  | .null | .text _ | .array .. | .object .. => rfl
  | .number n =>
    have htrue : (Value.number n).lead ≠ 't' := Value.lead_number_ne n (by decide) rfl
    have hfalse : (Value.number n).lead ≠ 'f' := Value.lead_number_ne n (by decide) rfl
    obtain ⟨tail, htail⟩ := (Value.number n).exists_chars
    rw [htail, List.cons_append]
    simp only [if_neg htrue, if_neg hfalse]
    rfl

theorem mapM_eq_some {γ δ : Type} {f : γ → Option δ} {xs : List γ} {ys : List δ}
    (h : List.Forall₂ (fun x y => f x = some y) xs ys) : xs.mapM f = some ys := by
  induction h with
  | nil => rfl
  | cons hfirst _ ih => simp [List.mapM_cons, hfirst, ih]

theorem readStrings_sound : Sound readStrings Value.texts? := by
  intro s x rest h
  rw [readStrings] at h
  split at h
  · cases h
  rename_i heq
  obtain ⟨b, rfl⟩ := exists_blanks heq
  split at h
  case isTrue hc =>
    obtain ⟨inside, items, rfl, hitems⟩ := readElements_sound readString_sound h
    exact ⟨b, .array inside items, by rw [hc, Value.array_append], mapM_eq_some hitems⟩
  case isFalse => cases h

theorem readStrings_exact : Exact readStrings Value.texts? := by
  intro b v rest hrest
  rw [readStrings, skipBlanks_value]
  match v with
  | .array inside items =>
    have hall : List.mapM some = (some : List String → Option (List String)) :=
      funext fun ts => mapM_eq_some (List.forall₂_same.mpr fun _ _ => rfl)
    have hitems := readString_exact.keeps.readElements inside items rest
    rw [hall, keep_some] at hitems
    rw [Value.array_append]
    exact hitems
  | .null | .flag true | .flag false | .text _ | .object .. => rfl
  | .number n =>
    have hlead : (Value.number n).lead ≠ '[' := Value.lead_number_ne n (by decide) rfl
    obtain ⟨tail, htail⟩ := (Value.number n).exists_chars
    rw [htail, List.cons_append]
    simp only [if_neg hlead]
    rfl

theorem Written.Shows.text?_eq {v : Value} {j : Json} (h : Shows v j) : v.text? = j.text? := by
  cases h with
  | text h => exact h
  | _ => rfl

theorem Written.ShowsItems.mapM_text? {is : List Item} {js : List Json} (h : ShowsItems is js)
    {ts : List String} (hts : js.mapM Json.text? = some ts) :
    is.mapM (fun i => i.value.text?) = some ts := by
  induction is generalizing js ts with
  | nil =>
    cases h
    cases hts
    rfl
  | cons i is ih =>
    cases h with
    | cons hfirst hmore =>
      simp only [List.mapM_cons, Option.bind_eq_bind, Option.pure_def, Option.bind_eq_some_iff]
        at hts ⊢
      obtain ⟨t, ht, ts', hts', heq⟩ := hts
      exact ⟨t, hfirst.text?_eq.trans ht, ts', ih hmore hts', heq⟩

theorem readAudience_sound : Sound readAudience Value.audience? := by
  intro s x rest h
  rw [readAudience] at h
  split at h
  · cases h
  rename_i hread
  split at h
  case h_2 => cases h
  case h_1 haudience =>
    cases h
    obtain ⟨b, v, rfl, hv⟩ := readValue_sound hread
    refine ⟨b, v, rfl, ?_⟩
    cases hv with
    | null => exact haudience
    | text ht =>
      cases haudience
      rw [Value.audience?, ht]
      rfl
    | array hitems => exact hitems.mapM_text? haudience
    | _ => cases haudience

theorem readValue_text (depth : Nat) (b : Blanks) (ls : List Letter) (rest : List Char) :
    (readValue depth (b.chars ++ ((Value.text ls).chars ++ rest))).toOption
      = (denotedText? ls).map fun t => (.text t, rest) := by
  rw [readValue.eq_def, skipBlanks_value, Value.text_append]
  refine toOption_bind.trans ?_
  rw [readText_written]
  cases denotedText? ls <;> rfl

/-- Of the values that are read, the strings are kept with the texts that they denote. -/
theorem keeps_text?_readValue (depth : Nat) : Keeps (readValue depth) Json.text? Value.text? := by
  intro b v rest _
  by_cases htext : ∃ ls, v = .text ls
  · obtain ⟨ls, rfl⟩ := htext
    rw [keep, readValue_text, Value.text?]
    cases denotedText? ls <;> rfl
  · have hnone : v.text? = none := by
      cases v <;> first | rfl | exact absurd ⟨_, rfl⟩ htext
    rw [hnone]
    cases hread : readValue depth (b.chars ++ (v.chars ++ rest)) with
    | error f => rfl
    | ok p =>
      obtain ⟨v', hlead, hshows⟩ := exists_shows_of_readValue hread
      have hother : p.1.text? = none := by
        rw [← hshows.text?_eq]
        cases v' <;> first | rfl | exact absurd (v.eq_text_of_lead hlead.symm) htext
      show (p.1.text?).map (·, p.2) = none
      rw [hother]
      rfl

theorem toOption_readAudience (s : List Char) :
    (readAudience s).toOption = keep audienceOf? (readValue (depthLimit - 1) s) := by
  rw [readAudience]
  cases readValue (depthLimit - 1) s with
  | error f => rfl
  | ok p =>
    obtain ⟨j, rest⟩ := p
    show _ = (audienceOf? j).map (·, rest)
    dsimp only
    cases audienceOf? j <;> rfl

theorem audienceOf?_of_lead {v : Value} {j : Json} (h : Shows v j) (hnull : v.lead ≠ 'n')
    (htext : v.lead ≠ '"') (harray : v.lead ≠ '[') : audienceOf? j = none := by
  cases h with
  | null => exact absurd rfl hnull
  | text _ => exact absurd rfl htext
  | array _ => exact absurd rfl harray
  | _ => rfl

theorem Written.Value.audience?_of_lead {v : Value} (hnull : v.lead ≠ 'n') (htext : v.lead ≠ '"')
    (harray : v.lead ≠ '[') : v.audience? = none := by
  cases v with
  | null => exact absurd rfl hnull
  | text _ => exact absurd rfl htext
  | array _ _ => exact absurd rfl harray
  | _ => rfl

theorem readAudience_exact : Exact readAudience Value.audience? := by
  intro b v rest hrest
  rw [toOption_readAudience]
  by_cases hnull : v = .null
  · subst hnull
    rw [readValue.eq_def, skipBlanks_value]
    rfl
  by_cases htext : ∃ ls, v = .text ls
  · obtain ⟨ls, rfl⟩ := htext
    rw [keep, readValue_text, Value.audience?]
    cases denotedText? ls <;> rfl
  by_cases harray : ∃ inside items, v = .array inside items
  · obtain ⟨inside, items, rfl⟩ := harray
    have hitems := (keeps_text?_readValue (depthLimit - 2)).readElements inside items rest
    rw [readValue.eq_def, skipBlanks_value, Value.array_append]
    refine Eq.trans ?_ hitems
    show keep audienceOf? (leaveArray (readElements (readValue (depthLimit - 2))
        (inside.chars ++ (itemsChars items ++ rest))) >>= fun p => .ok (.array p.1, p.2)) = _
    cases leaveArray (readElements (readValue (depthLimit - 2))
      (inside.chars ++ (itemsChars items ++ rest))) with
    | error f => rfl
    | ok p => rfl
  have hlead : v.lead ≠ 'n' ∧ v.lead ≠ '"' ∧ v.lead ≠ '[' :=
    ⟨mt v.eq_null_of_lead hnull, mt v.eq_text_of_lead htext, mt v.eq_array_of_lead harray⟩
  rw [Value.audience?_of_lead hlead.1 hlead.2.1 hlead.2.2]
  cases hread : readValue (depthLimit - 1) (b.chars ++ (v.chars ++ rest)) with
  | error f => rfl
  | ok p =>
    obtain ⟨v', hsame, hshows⟩ := exists_shows_of_readValue hread
    rw [← hsame] at hlead
    show (audienceOf? p.1).map (·, p.2) = none
    rw [audienceOf?_of_lead hshows hlead.1 hlead.2.1 hlead.2.2]
    rfl
/-! ### Fields -/

/-- What is read for a field is what the value holds for it. -/
theorem Kind.read_sound (kind : Kind) : Sound kind.read kind.slot? := by
  cases kind with
  | text => exact readString_sound.map Slot.text
  | optionalText => exact (readOptional_sound readString_sound rfl).map (Slot.ofOption .text)
  | optionalNatural =>
    exact (readOptional_sound (readNumberAs_sound "u64" fun _ => rfl) rfl).map (Slot.ofOption .natural)
  | optionalInteger =>
    exact (readOptional_sound (readNumberAs_sound "i64" fun _ => rfl) rfl).map (Slot.ofOption .integer)
  | flag => exact readFlag_sound.map Slot.flag
  | texts => exact readStrings_sound.map Slot.texts
  | audience => exact readAudience_sound.map Slot.texts

/-- All that a value holds for a field is read. -/
theorem Kind.read_exact (kind : Kind) : Exact kind.read kind.slot? := by
  cases kind with
  | text => exact readString_exact.map Slot.text
  | optionalText => exact (readOptional_exact readString_exact).map (Slot.ofOption .text)
  | optionalNatural =>
    exact (readOptional_exact (readNumberAs_exact "u64" fun _ => rfl)).map (Slot.ofOption .natural)
  | optionalInteger =>
    exact (readOptional_exact (readNumberAs_exact "i64" fun _ => rfl)).map (Slot.ofOption .integer)
  | flag => exact readFlag_exact.map Slot.flag
  | texts => exact readStrings_exact.map Slot.texts
  | audience => exact readAudience_exact.map Slot.texts

end PasswordGrant.Json
