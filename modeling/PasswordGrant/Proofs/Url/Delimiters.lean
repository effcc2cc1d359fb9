import PasswordGrant.Proofs.Url.HostName
import PasswordGrant.Url.Parser

/-!
# Delimiters of addresses

An address as text is cut into its parts at certain characters. So that a part ends where it was
meant to end, it must not hold a character that ends it. Reading an address leaves parts without such
characters, and a path keeps free of them as it grows, whatever texts are put at its end.

* `Url.isSeparator`, `Url.isDelimiter` : the characters at which an address is cut;
* `Url.Delimited` : no part holds a character that would end it;
* `Path.delimited_push`, `Path.delimited_pushAll` : one segment more, and a list of them;
* `Address.delimited_parse` : every address that was read.
-/

namespace PasswordGrant

namespace Url

/-- The characters that end the authority of an address or a segment of its path. -/
def isSeparator (c : Char) : Bool := c = '/' || c = '\\' || c = '?' || c = '#'

/-- The characters that cut an address: those, and the ones that cut its authority into user
information, host and port. -/
def isDelimiter (c : Char) : Bool := isSeparator c || c = '@' || c = ':' || c = '[' || c = ']'

/-- A text holds no character of a set. -/
def FreeOf (cut : Char → Bool) (s : String) : Prop := ∀ c ∈ s.toList, cut c = false

theorem isDelimiter_of_isSeparator {c : Char} (h : isSeparator c = true) : isDelimiter c = true := by
  simp [isDelimiter, h]

theorem not_isDelimiter_digit {n : Nat} (h : n < 16) : isDelimiter (Hex.digit n) = false := by
  have all : ∀ m : Fin 16, isDelimiter (Hex.digit m.val) = false := by decide
  exact all ⟨n, h⟩

/-- An encoded text is free of the delimiters that are encoded or do not stand in the text. -/
theorem freeOf_encode {cut set : Char → Bool} {cs : List Char}
    (hcut : ∀ c, cut c = true → isDelimiter c = true)
    (hset : ∀ c ∈ cs, cut c = true → set c = true) :
    FreeOf cut (String.ofList (Percent.encode set cs)) := by
  have hfree : ∀ c, isDelimiter c = false → cut c = false := by
    intro c hc
    refine Bool.eq_false_iff.mpr fun hne => ?_
    rw [hcut c hne] at hc
    cases hc
  intro d hd
  rw [String.toList_ofList] at hd
  obtain ⟨c, hc, hd⟩ := List.mem_flatMap.mp hd
  by_cases hencoded : set c = true
  · -- a percent sign or one of its digits
    simp only [Percent.encodeChar, hencoded, if_true] at hd
    obtain ⟨b, -, hd⟩ := List.mem_flatMap.mp hd
    have hb : b.toNat < 256 := b.toNat_lt
    simp only [Percent.encodeByte, List.mem_cons, List.not_mem_nil, or_false] at hd
    rcases hd with rfl | rfl | rfl
    · exact hfree _ (by decide)
    · exact hfree _ (not_isDelimiter_digit (by omega))
    · exact hfree _ (not_isDelimiter_digit (by omega))
  · -- the character itself
    simp only [Percent.encodeChar, hencoded, Bool.false_eq_true, if_false, List.mem_singleton] at hd
    subst hd
    exact Bool.eq_false_iff.mpr fun hne => hencoded (hset d hc hne)

end Url

/-! ### Paths -/

namespace Path

open Url

/-- No segment of a path holds a separator. -/
def Delimited (p : Path) : Prop := ∀ s ∈ p.segments, FreeOf isSeparator s

theorem delimited_mk {init : List String} {last : String}
    (hinit : ∀ s ∈ init, FreeOf isSeparator s) (hlast : FreeOf isSeparator last) :
    Delimited ⟨init, last⟩ := by
  intro s hs
  rcases List.mem_append.mp hs with h | h
  · exact hinit s h
  · rw [List.mem_singleton.mp h]
    exact hlast

theorem freeOf_empty : FreeOf isSeparator "" := by
  intro c hc
  simp at hc

theorem mem_of_mem_shorten {segments : List String} {s : String} (h : s ∈ shorten segments) :
    s ∈ segments := by
  simp only [shorten] at h
  split at h
  · cases h
  split at h
  · exact h
  · exact (List.dropLast_sublist segments).subset h

theorem mem_of_mem_base {p : Path} {s : String} (h : s ∈ p.base) : s ∈ p.segments := by
  simp only [base] at h
  split at h
  · cases h
  · exact h

/-- Separators in a raw segment are encoded, or there are none. -/
theorem delimited_resolve {set : Char → Bool} {done : List String} {parts : List (List Char)}
    (hdone : ∀ s ∈ done, FreeOf isSeparator s)
    (hparts : ∀ part ∈ parts, ∀ c ∈ part, isSeparator c = true → set c = true) :
    (resolve set done parts).Delimited := by
  have hencode : ∀ part ∈ parts, FreeOf isSeparator (String.ofList (Percent.encode set part)) :=
    fun part hpart => freeOf_encode (fun _ => isDelimiter_of_isSeparator) (hparts part hpart)
  have hshorten : ∀ s ∈ shorten done, FreeOf isSeparator s :=
    fun s hs => hdone s (mem_of_mem_shorten hs)
  fun_induction resolve set done parts with
  | case1 done => exact delimited_mk hdone freeOf_empty
  | case2 done s hdouble => exact delimited_mk hshorten freeOf_empty
  | case3 done s _ hsingle => exact delimited_mk hdone freeOf_empty
  | case4 done s _ _ => exact delimited_mk hdone (hencode s List.mem_cons_self)
  | case5 done s t rest hdouble ih =>
    rw [List.forall_mem_cons] at hparts hencode
    exact ih hshorten hparts.2 hencode.2
      fun u hu => hshorten u (mem_of_mem_shorten hu)
  | case6 done s t rest _ hsingle ih =>
    rw [List.forall_mem_cons] at hparts hencode
    exact ih hdone hparts.2 hencode.2 hshorten
  | case7 done s t rest _ _ ih =>
    rw [List.forall_mem_cons] at hparts hencode
    have hgrown : ∀ u ∈ done ++ [String.ofList (Percent.encode set s)], FreeOf isSeparator u := by
      intro u hu
      rcases List.mem_append.mp hu with h | h
      · exact hdone u h
      · rw [List.mem_singleton.mp h]
        exact hencode.1
    exact ih hgrown hparts.2 hencode.2 fun u hu => hgrown u (mem_of_mem_shorten hu)

theorem freeOf_encode_inSegment (cs : List Char) :
    FreeOf isSeparator (String.ofList (Percent.encode Percent.inSegment cs)) := by
  refine freeOf_encode (fun _ => isDelimiter_of_isSeparator) fun c _ hc => ?_
  simp only [isSeparator, Bool.or_eq_true, decide_eq_true_eq] at hc
  rcases hc with ((rfl | rfl) | rfl) | rfl <;> decide

/-- A delimited path is delimited after any text was put at its end as a segment. -/
theorem delimited_push {p : Path} (h : p.Delimited) (segment : String) :
    (p.push segment).Delimited := by
  have hbase : ∀ s ∈ p.base, FreeOf isSeparator s := fun s hs => h s (mem_of_mem_base hs)
  simp only [push]
  split
  · exact h
  split
  · exact delimited_mk (fun s hs => hbase s (mem_of_mem_shorten hs)) freeOf_empty
  split
  · exact delimited_mk hbase freeOf_empty
  · exact delimited_mk hbase (freeOf_encode_inSegment _)

theorem delimited_pushAll {p : Path} (h : p.Delimited) (segments : List String) :
    (p.pushAll segments).Delimited := by
  induction segments generalizing p with
  | nil => exact h
  | cons s segments ih => exact ih (delimited_push h s)

theorem delimited_dropFinalSlash {p : Path} (h : p.Delimited) : p.dropFinalSlash.Delimited := by
  simp only [dropFinalSlash]
  split
  case h_1 s _ hlast =>
    obtain ⟨init, hinit⟩ := List.getLast?_eq_some_iff.mp hlast
    have hmem : ∀ t ∈ init ++ [s], FreeOf isSeparator t := by
      intro t ht
      rw [← hinit] at ht
      exact h t (List.mem_append_left _ ht)
    rw [hinit, List.dropLast_concat]
    exact hmem
  case h_2 => exact h

end Path

/-! ### Addresses that were read -/

namespace Url

/-- No part of an address holds a character that would end it. -/
structure Delimited (u : Url) : Prop where
  username : FreeOf isDelimiter u.username
  password : ∀ p, u.password = some p → FreeOf isDelimiter p
  host : ∀ name, u.host = .domain name → FreeOf isDelimiter name
  path : u.path.Delimited
  query : ∀ q, u.query = some q → FreeOf (· == '#') q

end Url

open Url

theorem eq_of_isDelimiter {c : Char} (h : isDelimiter c = true) :
    c ∈ ['/', '\\', '?', '#', '@', ':', '[', ']'] := by
  simp only [isDelimiter, isSeparator, Bool.or_eq_true, decide_eq_true_eq] at h
  rcases h with ((((((rfl | rfl) | rfl) | rfl) | rfl) | rfl) | rfl) | rfl <;> decide

theorem isForbidden_of_isDelimiter {c : Char} (h : isDelimiter c = true) :
    Idna.isForbidden c = true := by
  have hall : ['/', '\\', '?', '#', '@', ':', '[', ']'].all Idna.isForbidden = true := by decide
  exact List.all_eq_true.mp hall c (eq_of_isDelimiter h)

theorem freeOf_encode_inUserInfo (cs : List Char) :
    FreeOf isDelimiter (String.ofList (Percent.encode Percent.inUserInfo cs)) := by
  have hall : ['/', '\\', '?', '#', '@', ':', '[', ']'].all Percent.inUserInfo = true := by decide
  exact freeOf_encode (fun _ h => h) fun c _ hc => List.all_eq_true.mp hall c (eq_of_isDelimiter hc)

theorem freeOf_readUserInfo (cs : List Char) :
    FreeOf isDelimiter (readUserInfo cs).1 ∧ ∀ p, (readUserInfo cs).2 = some p → FreeOf isDelimiter p := by
  refine ⟨freeOf_encode_inUserInfo _, fun p hp => ?_⟩
  simp only [readUserInfo] at hp
  split at hp
  · cases hp
  · cases hp
    exact freeOf_encode_inUserInfo _

/-- A host that is a domain is a name in ASCII form. -/
theorem Host.freeOf_parse {cs : List Char} {name : String}
    (h : Host.parse cs = .ok (.domain name)) : FreeOf isDelimiter name := by
  unfold Host.parse at h
  split at h
  · -- in brackets
    unfold Host.parseBracketed at h
    split at h
    · split at h <;> cases h
    · cases h
  split at h
  · cases h
  · cases h
  case h_3 ascii hascii =>
    split at h
    · split at h <;> cases h
    cases h
    obtain ⟨decoded, -, hname⟩ := Option.bind_eq_some_iff.mp hascii
    intro c hc
    rw [String.toList_ofList] at hc
    refine Bool.eq_false_iff.mpr fun hdelimiter => ?_
    have hforbidden := isForbidden_of_isDelimiter hdelimiter
    rw [Idna.not_isForbidden_of_toAscii? hname c hc] at hforbidden
    cases hforbidden

namespace Authority

/-- Reads host and port behind the user information. -/
def ofParts {α : Type} (readHost : List Char → Except UrlError α) (kind : SchemeKind)
    (user rest : List Char) : Except UrlError (Authority α) := do
  let (username, password) := readUserInfo user
  let (hostText, rest) := takeHost false rest
  if hostText.isEmpty && kind.isSpecial then throw .emptyHost
  let host ← readHost hostText
  if hostText.isEmpty && rest.head? == some ':' then throw .emptyHost
  let port ← readPort kind.defaultPort? ((rest.drop 1).takeWhile (· != '\\'))
  if hostText.isEmpty && (!username.isEmpty || password.isSome) then throw .emptyHost
  pure ⟨username, password, host, port⟩

variable {α : Type} {readHost : List Char → Except UrlError α} {kind : SchemeKind} {cs : List Char}
  {more : Bool} {a : Authority α}

theorem ofParts_of_parse (h : parse readHost kind cs more = .ok a) :
    ∃ user rest, ofParts readHost kind user rest = .ok a := by
  unfold parse at h
  split at h
  · exact ⟨_, _, h⟩
  · split at h
    · cases h
    · exact ⟨_, _, h⟩
  · exact ⟨_, _, h⟩

theorem parse_ok (h : parse readHost kind cs more = .ok a) :
    (∃ user, readUserInfo user = (a.username, a.password)) ∧
      ∃ host, readHost host = .ok a.host := by
  obtain ⟨user, rest, h⟩ := ofParts_of_parse h
  unfold ofParts at h
  dsimp only at h
  split at h
  · cases h
  obtain ⟨host, hhost, h⟩ := bind_eq_ok.mp h
  split at h
  · cases h
  obtain ⟨port, -, h⟩ := bind_eq_ok.mp h
  split at h
  · cases h
  cases h
  exact ⟨⟨user, rfl⟩, ⟨_, hhost⟩⟩

end Authority

namespace Address

theorem delimited_readPath (cs : List Char) : (readPath cs).Delimited := by
  unfold readPath
  dsimp only
  split
  · exact Path.delimited_mk (fun s hs => by cases hs) Path.freeOf_empty
  · refine Path.delimited_resolve (fun s hs => by cases hs) fun part hpart c hc hseparator => ?_
    have hslash := Text.not_isSeparator_of_mem_splitOn part hpart c hc
    simp only [Bool.or_eq_false_iff, beq_eq_false_iff_ne] at hslash
    simp only [isSeparator, Bool.or_eq_true, decide_eq_true_eq] at hseparator
    rcases hseparator with ((rfl | rfl) | rfl) | rfl
    · exact absurd rfl hslash.1
    · exact absurd rfl hslash.2
    · decide
    · decide

theorem freeOf_readQuery {cs : List Char} {q : String} (h : readQuery cs = some q) :
    FreeOf (· == '#') q := by
  unfold readQuery at h
  split at h
  · cases h
  · cases h
    refine freeOf_encode (fun c hc => ?_) fun c _ hc => ?_
    · rw [beq_iff_eq.mp hc]
      decide
    · rw [beq_iff_eq.mp hc]
      decide

theorem parseSpecial_of_parse {s : String} {u : Url} (h : parse s = .ok (.web u)) :
    ∃ scheme port rest, parseSpecial scheme port rest = .ok (.web u) := by
  unfold parse at h
  split at h
  · cases h
  split at h
  · exact ⟨_, _, _, h⟩
  · obtain ⟨_, -, hother⟩ := map_eq_ok.mp h
    cases hother
  · obtain ⟨_, -, hother⟩ := map_eq_ok.mp h
    cases hother

/-- No part of an address that was read holds a character that would end it. -/
theorem delimited_parse {s : String} {u : Url} (h : parse s = .ok (.web u)) : u.Delimited := by
  obtain ⟨scheme, port, rest, h⟩ := parseSpecial_of_parse h
  unfold parseSpecial at h
  dsimp only at h
  obtain ⟨authority, hauthority, h⟩ := bind_eq_ok.mp h
  obtain ⟨⟨user, huser⟩, ⟨host, hhost⟩⟩ := Authority.parse_ok hauthority
  have hfree := freeOf_readUserInfo user
  rw [huser] at hfree
  split at h
  · cases h
    refine ⟨hfree.1, hfree.2, fun name hname => ?_, delimited_readPath _,
      fun q hq => freeOf_readQuery hq⟩
    have hdomain : authority.host = .domain name := hname
    rw [hdomain] at hhost
    exact Host.freeOf_parse hhost
  · cases h

end Address

end PasswordGrant
