import PasswordGrant.Idna.Domain
import PasswordGrant.Proofs.Except
import PasswordGrant.Url.Ipv6

/-!
# Characters of hosts

The name of a host is written with characters that mean nothing else in an address. A name of ASCII
characters is refused if it holds any other; a label that is not ASCII is written with its own ASCII
characters, hyphens and the digits of Punycode. A host in numbers is written with digits, points and
colons.

* `Punycode.mem_encode` : the characters that a label is written with;
* `Idna.not_isForbidden_of_toAscii?` : the name of a host holds no forbidden character;
* `Ipv4.mem_text`, `Ipv6.mem_text` : the characters of hosts in numbers.
-/

namespace PasswordGrant

/-! ### Written labels -/

namespace Punycode

/-- The characters of digits below 36. -/
def IsDigitChar (c : Char) : Prop := ∃ d, d < 36 ∧ c = digitChar d

theorem isDigitChar_of_mem_digits {c : Char} (bias place number : Nat)
    (h : c ∈ digits bias place number) : IsDigitChar c := by
  fun_induction digits bias place number with
  | case1 place number t hlast =>
    have hbound : t ≤ 26 := threshold_le place bias
    rw [List.mem_singleton] at h
    exact ⟨number, by omega, h⟩
  | case2 place number t hmore ih =>
    have hbound : t ≤ 26 := threshold_le place bias
    rcases List.mem_cons.mp h with hfirst | hrest
    · have hdigit : (number - t) % (36 - t) < 36 - t := Nat.mod_lt _ (by omega)
      exact ⟨t + (number - t) % (36 - t), by omega, hfirst⟩
    · exact ih hrest

theorem isDigitChar_of_mem_writePlaces {c : Char} {basic code : Nat} (text : List Char) :
    ∀ w : Writer, c ∈ (writePlaces basic code w text).1 → IsDigitChar c := by
  induction text with
  | nil =>
    intro w h
    simp [writePlaces] at h
  | cons d rest ih =>
    intro w h
    simp only [writePlaces] at h
    split at h
    · exact ih _ h
    split at h
    · rcases List.mem_append.mp h with hhere | hlater
      · exact isDigitChar_of_mem_digits _ _ _ hhere
      · exact ih _ hlater
    · exact ih _ h

theorem isDigitChar_of_mem_writeCodes {c : Char} {text : List Char} {basic : Nat}
    (codes : List Nat) :
    ∀ (code : Nat) (w : Writer), c ∈ writeCodes text basic code w codes → IsDigitChar c := by
  induction codes with
  | nil =>
    intro code w h
    simp [writeCodes] at h
  | cons next more ih =>
    intro code w h
    simp only [writeCodes] at h
    rcases List.mem_append.mp h with hhere | hlater
    · exact isDigitChar_of_mem_writePlaces text _ hhere
    · exact ih _ _ hlater

/-- A text is written with its own ASCII characters, a hyphen and digits. -/
theorem mem_encode {c : Char} {text : List Char} (h : c ∈ encode text) :
    c ∈ text ∨ c = '-' ∨ IsDigitChar c := by
  simp only [encode, List.mem_append] at h
  rcases h with (hbasic | hhyphen) | hdigits
  · exact .inl (List.mem_filter.mp hbasic).1
  · split at hhyphen
    · simp at hhyphen
    · exact .inr (.inl (List.mem_singleton.mp hhyphen))
  · exact .inr (.inr (isDigitChar_of_mem_writeCodes _ _ _ hdigits))

end Punycode

/-! ### Names -/

namespace Idna

theorem not_isForbidden_digitChar {c : Char} (h : Punycode.IsDigitChar c) :
    isForbidden c = false := by
  obtain ⟨d, hd, rfl⟩ := h
  have all : ∀ e : Fin 36, isForbidden (Punycode.digitChar e.val) = false := by decide
  exact all ⟨d, hd⟩

theorem not_isForbidden_of_label? {part label : List Char} (h : label? part = some label) :
    ∀ c ∈ label, isForbidden c = false := by
  have hwell : isWellFormed label = true := (Option.filter_eq_some_iff.mp h).2
  simp only [isWellFormed, Bool.and_eq_true, Bool.not_eq_true'] at hwell
  have hany : label.any isForbidden = false := hwell.1.1
  intro c hc
  exact Bool.eq_false_iff.mpr (List.any_eq_false.mp hany c hc)

theorem not_isForbidden_of_mem_asciiLabel {label : List Char}
    (hlabel : ∀ c ∈ label, isForbidden c = false) :
    ∀ c ∈ asciiLabel label, isForbidden c = false := by
  intro c hc
  simp only [asciiLabel] at hc
  split at hc
  · exact hlabel c hc
  rcases List.mem_append.mp hc with hmark | hcode
  · have hnone : punycodeMark.any isForbidden = false := by decide
    exact Bool.eq_false_iff.mpr (List.any_eq_false.mp hnone c hmark)
  · rcases Punycode.mem_encode hcode with hown | rfl | hdigit
    · exact hlabel c hown
    · decide
    · exact not_isForbidden_digitChar hdigit

theorem not_isForbidden_of_mem_join {labels : List (List Char)}
    (h : ∀ label ∈ labels, ∀ c ∈ label, isForbidden c = false) :
    ∀ c ∈ Text.join '.' labels, isForbidden c = false := by
  fun_induction Text.join '.' labels with
  | case1 => simp
  | case2 label => exact h label List.mem_cons_self
  | case3 label next rest ih =>
    intro c hc
    rcases List.mem_append.mp hc with hfirst | hbehind
    · exact h label List.mem_cons_self c hfirst
    rcases List.mem_cons.mp hbehind with rfl | hrest
    · decide
    · exact ih (fun l hl => h l (List.mem_cons_of_mem label hl)) c hrest

/-- The name of a host holds no forbidden character. -/
theorem not_isForbidden_of_toAscii? {cs name : List Char} (h : toAscii? cs = some name) :
    ∀ c ∈ name, isForbidden c = false := by
  simp only [toAscii?] at h
  split at h
  case isTrue =>
    split at h
    case isTrue => cases h
    case isFalse hany =>
      cases h
      intro c hc
      exact Bool.eq_false_iff.mpr fun hforbidden => hany (List.any_eq_true.mpr ⟨c, hc, hforbidden⟩)
  case isFalse =>
    obtain ⟨replaced, -, hlabels⟩ := Option.bind_eq_some_iff.mp h
    obtain ⟨labels, hparts, hname⟩ := Option.bind_eq_some_iff.mp hlabels
    split at hname
    · cases hname
    cases hname
    refine not_isForbidden_of_mem_join fun ascii hascii => ?_
    obtain ⟨label, hlabel, rfl⟩ := List.mem_map.mp hascii
    obtain ⟨part, -, hpart⟩ := exists_of_mem_mapM hparts hlabel
    exact not_isForbidden_of_mem_asciiLabel (not_isForbidden_of_label? hpart)

end Idna

/-! ### Hosts in numbers -/

theorem exists_digitChar_of_mem_toDigits {b n : Nat} {c : Char} (hb : 1 < b)
    (h : c ∈ Nat.toDigits b n) : ∃ d, d < b ∧ c = Nat.digitChar d := by
  induction n using Nat.strongRecOn with
  | ind n ih =>
    by_cases hn : n < b
    · rw [Nat.toDigits_of_lt_base hn, List.mem_singleton] at h
      exact ⟨n, hn, h⟩
    · rw [Nat.toDigits_of_base_le hb (by omega)] at h
      rcases List.mem_append.mp h with hfront | hlast
      · exact ih (n / b) (Nat.div_lt_self (by omega) hb) hfront
      · exact ⟨n % b, Nat.mod_lt _ (by omega), List.mem_singleton.mp hlast⟩

theorem mem_intercalate {c : Char} {separator : List Char} {texts : List (List Char)}
    (h : c ∈ separator.intercalate texts) : c ∈ separator ∨ ∃ t ∈ texts, c ∈ t := by
  induction texts with
  | nil => cases h
  | cons t texts ih =>
    cases texts with
    | nil =>
      rw [List.intercalate_singleton] at h
      exact .inr ⟨t, List.mem_cons_self, h⟩
    | cons u texts =>
      rw [List.intercalate_cons_cons, List.mem_append, List.mem_append] at h
      rcases h with (hfirst | hseparator) | hlater
      · exact .inr ⟨t, List.mem_cons_self, hfirst⟩
      · exact .inl hseparator
      · rcases ih hlater with hseparator | ⟨v, hv, hc⟩
        · exact .inl hseparator
        · exact .inr ⟨v, List.mem_cons_of_mem t hv, hc⟩

/-- A host of four bytes is written with digits and points. -/
theorem Ipv4.mem_text {address : Nat} {c : Char} (h : c ∈ (Ipv4.text address).toList) :
    c = '.' ∨ ∃ d, d < 16 ∧ c = Nat.digitChar d := by
  rw [Ipv4.text, String.toList_intercalate] at h
  rcases mem_intercalate h with hpoint | ⟨text, htext, hc⟩
  · exact .inl (List.mem_singleton.mp hpoint)
  · obtain ⟨s, hs, rfl⟩ := List.mem_map.mp htext
    have hrepr : ∃ n : Nat, s = n.repr := by
      simp only [List.mem_cons, List.not_mem_nil, or_false] at hs
      rcases hs with hs | hs | hs | hs <;> exact ⟨_, hs⟩
    obtain ⟨n, rfl⟩ := hrepr
    rw [Nat.toList_repr] at hc
    obtain ⟨d, hd, hdigit⟩ := exists_digitChar_of_mem_toDigits (by decide) hc
    exact .inr ⟨d, by omega, hdigit⟩

theorem Ipv6.mem_groupsText {groups : List Nat} {c : Char} (h : c ∈ (groupsText groups).toList) :
    c = ':' ∨ ∃ d, d < 16 ∧ c = Nat.digitChar d := by
  rw [groupsText, String.toList_intercalate, List.map_map] at h
  rcases mem_intercalate h with hcolon | ⟨text, htext, hc⟩
  · exact .inl (List.mem_singleton.mp hcolon)
  · obtain ⟨g, -, rfl⟩ := List.mem_map.mp htext
    rw [Function.comp_apply, String.toList_ofList] at hc
    exact .inr (exists_digitChar_of_mem_toDigits (by decide) hc)

theorem Ipv6.mem_text {groups : List Nat} {c : Char} (h : c ∈ (Ipv6.text groups).toList) :
    c = ':' ∨ ∃ d, d < 16 ∧ c = Nat.digitChar d := by
  unfold Ipv6.text at h
  dsimp only at h
  split at h
  · exact mem_groupsText h
  · rw [String.toList_append, String.toList_append, List.mem_append, List.mem_append] at h
    rcases h with (hfront | hgap) | hback
    · exact mem_groupsText hfront
    · have hall : ("::".toList.all (· == ':')) = true := by decide
      exact .inl (beq_iff_eq.mp (List.all_eq_true.mp hall c hgap))
    · exact mem_groupsText hback

end PasswordGrant
