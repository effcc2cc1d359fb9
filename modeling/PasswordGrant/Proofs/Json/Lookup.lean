import PasswordGrant.Proofs.Json.Records

/-!
# Looking up a member

A name may occur more than once in an object. The member that is found is the last one of that name,
and it is found as a text if it is one. The text of the object alone decides this: however it is cut
into members, the last member of a name holds the same text.

* `lastText?` : the text of the last member of a name, as the members are written;
* `toOption_readLastText` : it can be read off the text of the object;
* `exists_object_of_parse` : what is read as an object was written as one;
* `text?_memberOf?_of_parse` : looking up a member finds the last one.
-/

namespace PasswordGrant.Json

open Written

/-- The text of the last member of a name, if that member is a text. -/
def lastText? (name : String) (members : List Member) : Option String :=
  (valuesOf [name] members).getLast?.bind Value.text?

/-! ### The last member, from the first one on -/

/-- What is known of a name after one more member: the text of a member of that name replaces what was
known, and no other member counts. -/
def lastStep (name : String) (known : Option String) (other : String) (v : Value) :
    Option (Option String) :=
  some (if other = name then v.text? else known)

theorem valuesOf_cons {m : Member} {other : String} (h : denotedText? m.name = some other)
    (name : String) (ms : List Member) :
    valuesOf [name] (m :: ms) = (if other = name then [m.value] else []) ++ valuesOf [name] ms := by
  have hname : [name].contains other = decide (other = name) := by
    simp [@eq_comm _ other name]
  rw [valuesOf, List.filterMap_cons, h, Option.any_some, hname]
  by_cases hother : other = name
  · simp [hother, valuesOf]
  · simp [hother, valuesOf]

/-- What is known in the end is the text of the last member of the name; if there is none, it is what
was known before. -/
theorem eq_of_gather?_lastStep {name : String} {known found : Option String} {ms : List Member}
    (h : gather? (lastStep name) known ms = some found) :
    found = ((valuesOf [name] ms).getLast?.map Value.text?).getD known := by
  induction ms generalizing known with
  | nil =>
    cases h
    rfl
  | cons m ms ih =>
    obtain ⟨other, hother, hmore⟩ := Option.bind_eq_some_iff.mp h
    rw [ih hmore, valuesOf_cons hother, List.getLast?_append]
    cases (valuesOf [name] ms).getLast? with
    | some v => rfl
    | none =>
      by_cases hsame : other = name
      · simp [hsame]
      · simp [hsame]

theorem Written.ShowsMembers.gather?_lastStep {before after : List (String × Json)}
    {ms : List Member} (h : ShowsMembers before ms after) (name : String) :
    gather? (lastStep name) ((memberOf? name before).bind Json.text?) ms
      = some ((memberOf? name after).bind Json.text?) := by
  induction ms generalizing before with
  | nil =>
    cases h
    rfl
  | cons m ms ih =>
    cases h with
    | @cons _ _ _ _ other j hother hvalue hmore =>
      rw [gather?, hother, Option.bind_some, lastStep, Option.bind_some, ← ih hmore]
      congr 1
      by_cases hsame : other = name
      · rw [if_pos hsame, hsame, memberOf?_put_self, Option.bind_some, hvalue.text?_eq]
      · rw [if_neg hsame, memberOf?_put_of_ne fun h => hsame h.symm]

/-! ### Read off the text -/

/-- Reads a member for what it tells about a name. -/
def readLastText (name : String) (known : Option String) (other : String) : Reader (Option String) :=
  fun s => do
    let s ← readColon s
    let rest ← skipValue s
    .ok (if other = name then (readString s).toOption.map Prod.fst else known, rest)

/-- Of the text of an object this reads what is known of the name in the end. -/
theorem toOption_readLastText (name : String) (inside : Blanks) (members : List Member)
    (rest : List Char) :
    (readMembers (readLastText name) none (inside.chars ++ (membersChars members ++ rest))).toOption
      = (gather? (lastStep name) none members).map (·, '\x7d' :: rest) := by
  refine toOption_readMembers (fun known other behind between v rest hrest => ?_) none inside members
    rest
  have hcolon : readColon (behind.chars ++ ':' :: (between.chars ++ (v.chars ++ rest)))
      = .ok (between.chars ++ (v.chars ++ rest)) := readColon_eq_ok_iff.mpr ⟨behind, rfl⟩
  have htext : (readString (between.chars ++ (v.chars ++ rest))).toOption.map Prod.fst = v.text? := by
    rw [readString_exact between v rest hrest]
    cases v.text? <;> rfl
  simp only [readLastText, hcolon, bind, Except.bind, skipValue_written between v hrest, htext]
  rfl

theorem gather?_lastStep_eq {inside inside' : Blanks} {members members' : List Member}
    {rest rest' : List Char}
    (h : (Value.object inside members).chars ++ rest = (Value.object inside' members').chars ++ rest')
    {name : String} {found : Option String}
    (hfound : gather? (lastStep name) none members = some found) :
    gather? (lastStep name) none members' = some found := by
  rw [Value.object_append, Value.object_append, List.cons.injEq] at h
  have hread := toOption_readLastText name inside members rest
  rw [h.2, toOption_readLastText, hfound] at hread
  obtain ⟨other, hother, heq⟩ := Option.map_eq_some_iff.mp hread
  rw [hother, (Prod.mk.inj heq).1]

/-! ### Looking up -/

theorem exists_shown_of_parse {text : String} {js : List (String × Json)}
    (h : parse text = .ok (.object js)) :
    ∃ (before inside after : Blanks) (members : List Member),
      text = (Document.mk before (.object inside members) after).text ∧ ShowsMembers [] members js := by
  obtain ⟨after, hread⟩ := finish_sound h
  obtain ⟨before, v, hchars, hshows⟩ := readValue_sound hread
  have htext : text = (Document.mk before v after).text := by
    rw [Document.text, ← hchars, String.ofList_toList]
  cases hshows with
  | object hmembers => exact ⟨before, _, after, _, htext, hmembers⟩

/-- What is read as an object was written as one. -/
theorem exists_object_of_parse {text : String} {js : List (String × Json)}
    (h : parse text = .ok (.object js)) : ∃ (before inside after : Blanks) (members : List Member),
      text = (Document.mk before (.object inside members) after).text := by
  obtain ⟨before, inside, after, members, htext, -⟩ := exists_shown_of_parse h
  exact ⟨before, inside, after, members, htext⟩

/-- Looking up a member of an object that was read finds the last one of that name, as the object is
written. -/
theorem text?_memberOf?_of_parse {before inside after : Blanks} {members : List Member}
    {js : List (String × Json)}
    (h : parse (Document.mk before (.object inside members) after).text = .ok (.object js))
    (name : String) : (memberOf? name js).bind Json.text? = lastText? name members := by
  obtain ⟨before', inside', after', members', htext, hmembers⟩ := exists_shown_of_parse h
  have hvalues : (Value.object inside' members').chars ++ after'.chars
      = (Value.object inside members).chars ++ after.chars := by
    have hskipped := congrArg skipBlanks (String.ofList_inj.mp htext)
    rw [skipBlanks_value, skipBlanks_value] at hskipped
    exact hskipped.symm
  have hfound := gather?_lastStep_eq hvalues (hmembers.gather?_lastStep name)
  rw [eq_of_gather?_lastStep hfound, lastText?]
  cases (valuesOf [name] members).getLast? <;> rfl

end PasswordGrant.Json
