import PasswordGrant.Proofs.Url.Delimiters

/-!
# The parts of an address as text

Whoever receives an address gets a text and cuts it at its delimiters. Cutting the text of an address
gives the parts that it was made of, so that none of them can pass for another.

* `Url.Parts` : the parts of a text with their marks; `Url.Parts.ofText` : cutting a text;
* `Url.parts` : the parts that an address is made of;
* `Url.ofText_text` : cutting the text of an address gives its parts;
* `Path.segments_eq_of_text_eq` : the text of a path tells its segments.
-/

namespace PasswordGrant

/-! ### Cutting a text -/

/-- The parts of an address as texts. Each has the mark that tells it: user information ends with its
at sign, port, query and fragment begin with theirs; a part that is not there is empty. -/
structure Url.Parts where
  scheme : List Char
  userInfo : List Char
  host : List Char
  port : List Char
  path : List Char
  query : List Char
  fragment : List Char
  deriving DecidableEq, Repr

namespace Url.Parts

/-- The user information of an authority, up to its last at sign, and what is behind it. -/
def splitUserInfo (authority : List Char) : List Char × List Char :=
  match splitLastAt authority with
  | none => ([], authority)
  | some (user, place) => (user ++ ['@'], place)

/-- Cuts a text: the scheme ends at the first colon, the authority behind the two slashes at the next
separator, the path at a question mark or a number sign, and the query at a number sign. -/
def ofText (s : String) : Parts :=
  let behind := (s.toList.dropWhile (· != ':')).drop 3
  let authority := splitUserInfo (behind.takeWhile fun c => !isSeparator c)
  let rest := behind.dropWhile fun c => !isSeparator c
  { scheme := s.toList.takeWhile (· != ':')
    userInfo := authority.1
    host := (takeHost false authority.2).1
    port := (takeHost false authority.2).2
    path := rest.takeWhile fun c => c != '?' && c != '#'
    query := (rest.takeWhile (· != '#')).dropWhile (· != '?')
    fragment := rest.dropWhile (· != '#') }

end Url.Parts

theorem span_append {ends : Char → Bool} {part rest : List Char}
    (hpart : ∀ c ∈ part, ends c = true) (hrest : ∀ c, rest.head? = some c → ends c = false) :
    (part ++ rest).takeWhile ends = part ∧ (part ++ rest).dropWhile ends = rest := by
  rw [List.takeWhile_append_of_pos hpart, List.dropWhile_append_of_pos hpart]
  cases rest with
  | nil => simp
  | cons c rest => simp [hrest c rfl]

theorem splitLastAt_append {user place : List Char} (h : '@' ∉ place) :
    splitLastAt (user ++ '@' :: place) = some (user, place) := by
  have hpart : ∀ c ∈ place.reverse, (c != '@') = true := by
    intro c hc
    refine bne_iff_ne.mpr ?_
    rintro rfl
    exact h (List.mem_reverse.mp hc)
  have hafter : (place.reverse ++ '@' :: user.reverse).takeWhile (· != '@') = place.reverse :=
    (span_append hpart (by simp)).1
  have hlength : user.length + (place.length + 1) - place.length - 1 = user.length := by omega
  simp [splitLastAt, hafter, hlength]

theorem splitLastAt_eq_none {cs : List Char} (h : '@' ∉ cs) : splitLastAt cs = none := by
  simp [splitLastAt, h]

/-! ### Hosts -/

open Url

theorem takeHost_of_free {host rest : List Char} (hhost : ∀ c ∈ host, isDelimiter c = false)
    (hrest : ∀ c, rest.head? = some c → c = ':') : takeHost false (host ++ rest) = (host, rest) := by
  induction host with
  | nil =>
    cases rest with
    | nil => rfl
    | cons c rest => simp [takeHost, hrest c rfl]
  | cons c host ih =>
    rw [List.forall_mem_cons] at hhost
    have hne : ∀ d, isDelimiter d = true → c ≠ d := by
      rintro d hd rfl
      rw [hhost.1] at hd
      cases hd
    rw [List.cons_append, takeHost]
    simp [hne ':' (by decide), hne '[' (by decide), hne ']' (by decide), ih hhost.2]

theorem takeHost_of_bracketed {inside rest : List Char} (hinside : ∀ c ∈ inside, c ≠ '[' ∧ c ≠ ']')
    (hrest : ∀ c, rest.head? = some c → c = ':') :
    takeHost true (inside ++ ']' :: rest) = (inside ++ [']'], rest) := by
  induction inside with
  | nil =>
    have hbehind : takeHost false ([] ++ rest) = ([], rest) := takeHost_of_free (by simp) hrest
    rw [List.nil_append] at hbehind
    simp [takeHost, hbehind]
  | cons c inside ih =>
    rw [List.forall_mem_cons] at hinside
    simp [takeHost, hinside.1.1, hinside.1.2, ih hinside.2]

theorem not_isDelimiter_digitChar {d : Nat} (h : d < 16) : isDelimiter (Nat.digitChar d) = false := by
  have all : ∀ e : Fin 16, isDelimiter (Nat.digitChar e.val) = false := by decide
  exact all ⟨d, h⟩

theorem Ipv6.eq_colon_or_free {groups : List Nat} {c : Char} (h : c ∈ (Ipv6.text groups).toList) :
    c = ':' ∨ isDelimiter c = false := by
  rcases Ipv6.mem_text h with hcolon | ⟨d, hd, rfl⟩
  · exact .inl hcolon
  · exact .inr (not_isDelimiter_digitChar hd)

theorem Ipv4.freeOf_text (address : Nat) : FreeOf isDelimiter (Ipv4.text address) := by
  intro c hc
  rcases Ipv4.mem_text hc with rfl | ⟨d, hd, rfl⟩
  · decide
  · exact not_isDelimiter_digitChar hd

namespace Host

theorem takeHost_text {h : Host} (hname : ∀ name, h = .domain name → FreeOf isDelimiter name)
    {rest : List Char} (hrest : ∀ c, rest.head? = some c → c = ':') :
    takeHost false (h.text.toList ++ rest) = (h.text.toList, rest) := by
  cases h with
  | domain name => exact takeHost_of_free (hname name rfl) hrest
  | ipv4 address => exact takeHost_of_free (Ipv4.freeOf_text address) hrest
  | ipv6 groups =>
    have hinside : ∀ c ∈ (Ipv6.text groups).toList, c ≠ '[' ∧ c ≠ ']' := by
      intro c hc
      rcases Ipv6.eq_colon_or_free hc with rfl | hfree
      · decide
      · constructor <;> rintro rfl <;> cases hfree
    have htext : (Host.ipv6 groups).text.toList = '[' :: ((Ipv6.text groups).toList ++ [']']) := by
      simp [text]
    rw [htext, List.cons_append, List.append_assoc, List.singleton_append, takeHost]
    simp [takeHost_of_bracketed hinside hrest]

/-- A host as text holds neither separators nor at signs. -/
theorem free_text {h : Host} (hname : ∀ name, h = .domain name → FreeOf isDelimiter name) :
    ∀ c ∈ h.text.toList, isSeparator c = false ∧ c ≠ '@' := by
  have hplain : ∀ c, isDelimiter c = false → isSeparator c = false ∧ c ≠ '@' := by
    intro c hc
    simp only [isDelimiter, Bool.or_eq_false_iff, decide_eq_false_iff_not] at hc
    exact ⟨hc.1.1.1.1, hc.1.1.1.2⟩
  intro c hc
  cases h with
  | domain name => exact hplain c (hname name rfl c hc)
  | ipv4 address => exact hplain c (Ipv4.freeOf_text address c hc)
  | ipv6 groups =>
    simp only [text, String.toList_append, List.mem_append] at hc
    rcases hc with (hopen | hinside) | hclose
    · rw [List.mem_singleton.mp hopen]
      decide
    · rcases Ipv6.eq_colon_or_free hinside with rfl | hfree
      · decide
      · exact hplain c hfree
    · rw [List.mem_singleton.mp hclose]
      decide

end Host

/-! ### Addresses -/

namespace Path

variable {p q : Path}

theorem toList_text (p : Path) : p.text.toList = p.segments.flatMap fun s => '/' :: s.toList := by
  simp [text, List.flatMap_map]

theorem head?_text (p : Path) (rest : List Char) : (p.text.toList ++ rest).head? = some '/' := by
  rw [toList_text, segments]
  cases p.init with
  | nil => rfl
  | cons s init => rfl

/-- Segments without slashes are the parts of their text between the slashes. -/
theorem splitOn_flatMap {segments : List String} (h : ∀ s ∈ segments, FreeOf isSeparator s) :
    ∀ front : List Char, (∀ c ∈ front, (c == '/') = false) →
      Text.splitOn (· == '/') (front ++ segments.flatMap fun s => '/' :: s.toList)
        = front :: segments.map String.toList := by
  induction segments with
  | nil =>
    intro front hfront
    rw [List.flatMap_nil, List.append_nil]
    exact Text.splitOn_eq_singleton hfront
  | cons s segments ih =>
    intro front hfront
    rw [List.forall_mem_cons] at h
    have hs : ∀ c ∈ s.toList, (c == '/') = false := by
      intro c hc
      refine beq_eq_false_iff_ne.mpr ?_
      rintro rfl
      have hfree := h.1 _ hc
      cases hfree
    rw [List.flatMap_cons, List.cons_append, Text.splitOn_append_cons _ hfront (by decide),
      ih h.2 s.toList hs]
    rfl

/-- The text of a delimited path tells its segments. -/
theorem segments_eq_of_text_eq (hp : p.Delimited) (hq : q.Delimited) (h : p.text = q.text) :
    p.segments = q.segments := by
  have hparts := splitOn_flatMap hp [] (by simp)
  have hother := splitOn_flatMap hq [] (by simp)
  rw [List.nil_append, ← toList_text] at hparts hother
  rw [h, hother] at hparts
  have hsame : q.segments.map String.toList = p.segments.map String.toList := (List.cons.inj hparts).2
  exact ((List.map_inj_right fun _ _ => String.toList_inj.mp).mp hsame).symm

theorem free_text (h : p.Delimited) : ∀ c ∈ p.text.toList, (c != '?' && c != '#') = true := by
  intro c hc
  rw [toList_text] at hc
  obtain ⟨s, hs, hc⟩ := List.mem_flatMap.mp hc
  rcases List.mem_cons.mp hc with rfl | hc
  · decide
  · have hfree := h s hs c hc
    simp only [isSeparator, Bool.or_eq_false_iff, decide_eq_false_iff_not] at hfree
    simp [hfree.1.2, hfree.2]

end Path

namespace Url

/-- The port as text, behind its colon; empty if it is the usual one. -/
def portText (u : Url) : String :=
  match u.port with
  | some p => ":" ++ p.repr
  | none => ""

theorem toList_hostText (u : Url) :
    u.hostText.toList = u.host.text.toList ++ u.portText.toList := by
  have hparts : u.hostText = u.host.text ++ u.portText := by
    unfold hostText portText
    cases u.port <;> rfl
  rw [hparts, String.toList_append]

/-- The parts that an address is made of. -/
def parts (u : Url) : Parts where
  scheme := u.scheme.toList
  userInfo := u.userInfoText.toList
  host := u.host.text.toList
  port := u.portText.toList
  path := u.path.text.toList
  query := (marked "?" u.query).toList
  fragment := (marked "#" u.fragment).toList

variable {u : Url}

/-- User information ends with its at sign and holds no separator. -/
theorem userInfoText_cases (h : u.Delimited) :
    u.userInfoText.toList = [] ∨
      ∃ user, u.userInfoText.toList = user ++ ['@'] ∧ ∀ c ∈ user, isSeparator c = false := by
  have hplain : ∀ s, FreeOf isDelimiter s → ∀ c ∈ s.toList, isSeparator c = false := by
    intro s hs c hc
    exact Bool.eq_false_iff.mpr fun hsep =>
      Bool.eq_false_iff.mp (hs c hc) (isDelimiter_of_isSeparator hsep)
  unfold userInfoText
  split
  case h_1 p hp =>
    refine .inr ⟨u.username.toList ++ ':' :: p.toList, by simp, fun c hc => ?_⟩
    rcases List.mem_append.mp hc with hname | hbehind
    · exact hplain _ h.username c hname
    rcases List.mem_cons.mp hbehind with rfl | hpassword
    · decide
    · exact hplain _ (h.password p hp) c hpassword
  case h_2 =>
    split
    · exact .inl rfl
    · exact .inr ⟨u.username.toList, by simp, hplain _ h.username⟩

theorem free_portText : ∀ c ∈ u.portText.toList, isSeparator c = false ∧ c ≠ '@' := by
  intro c hc
  unfold portText at hc
  split at hc
  · rw [String.toList_append, List.mem_append] at hc
    rcases hc with hcolon | hdigit
    · rw [List.mem_singleton.mp hcolon]
      decide
    · rw [Nat.toList_repr] at hdigit
      obtain ⟨d, hd, rfl⟩ := exists_digitChar_of_mem_toDigits (by decide) hdigit
      have all : ∀ e : Fin 10, isSeparator (Nat.digitChar e.val) = false ∧ Nat.digitChar e.val ≠ '@' := by
        decide
      exact all ⟨d, hd⟩
  · cases hc

theorem head?_portText {c : Char} (h : u.portText.toList.head? = some c) : c = ':' := by
  unfold portText at h
  split at h
  · simpa [eq_comm] using h
  · cases h

/-- The authority of an address: user information, host and port. -/
def authorityText (u : Url) : List Char :=
  u.userInfoText.toList ++ (u.host.text.toList ++ u.portText.toList)

theorem free_authorityText (h : u.Delimited) :
    ∀ c ∈ u.authorityText, (!isSeparator c) = true := by
  intro c hc
  have hfree : isSeparator c = false := by
    simp only [authorityText, List.mem_append] at hc
    rcases hc with huser | hhost | hport
    · rcases userInfoText_cases h with hnone | ⟨user, huserText, huserFree⟩
      · rw [hnone] at huser
        cases huser
      · rw [huserText] at huser
        rcases List.mem_append.mp huser with hmem | hat
        · exact huserFree c hmem
        · rw [List.mem_singleton.mp hat]
          decide
    · exact (Host.free_text h.host c hhost).1
    · exact (free_portText c hport).1
  rw [hfree]
  rfl

theorem split_authorityText (h : u.Delimited) :
    Parts.splitUserInfo u.authorityText
        = (u.userInfoText.toList, u.host.text.toList ++ u.portText.toList) ∧
      takeHost false (u.host.text.toList ++ u.portText.toList)
        = (u.host.text.toList, u.portText.toList) := by
  have hplace : '@' ∉ u.host.text.toList ++ u.portText.toList := by
    intro hat
    rcases List.mem_append.mp hat with hhost | hport
    · exact (Host.free_text h.host _ hhost).2 rfl
    · exact (free_portText _ hport).2 rfl
  refine ⟨?_, Host.takeHost_text h.host fun c hc => head?_portText hc⟩
  rcases userInfoText_cases h with hnone | ⟨user, huser, -⟩
  · rw [authorityText, hnone, List.nil_append, Parts.splitUserInfo, splitLastAt_eq_none hplace]
  · rw [authorityText, huser, List.append_assoc, List.singleton_append, Parts.splitUserInfo,
      splitLastAt_append hplace]

theorem query_cases (h : u.Delimited) : (marked "?" u.query).toList = [] ∨
    ∃ q : List Char, (marked "?" u.query).toList = '?' :: q ∧ '#' ∉ q := by
  cases hquery : u.query with
  | none => exact .inl rfl
  | some q =>
    refine .inr ⟨q.toList, by simp [marked], fun hnumber => ?_⟩
    have hfree := h.query q hquery _ hnumber
    cases hfree

theorem head?_fragment {c : Char} (h : (marked "#" u.fragment).toList.head? = some c) :
    c = '#' := by
  cases hfragment : u.fragment with
  | none => simp [hfragment, marked] at h
  | some f => simpa [hfragment, marked, eq_comm] using h

/-- Behind the authority, path, query and fragment are cut at their marks. -/
theorem split_behind_authority (h : u.Delimited) {rest : List Char}
    (hrest : rest = u.path.text.toList
      ++ ((marked "?" u.query).toList ++ (marked "#" u.fragment).toList)) :
    rest.takeWhile (fun c => c != '?' && c != '#') = u.path.text.toList ∧
      (rest.takeWhile (· != '#')).dropWhile (· != '?') = (marked "?" u.query).toList ∧
      rest.dropWhile (· != '#') = (marked "#" u.fragment).toList := by
  have hpath : ∀ c ∈ u.path.text.toList, (c != '?' && c != '#') = true := Path.free_text h.path
  have hquestion : ∀ c ∈ u.path.text.toList, (c != '?') = true := fun c hc =>
    (Bool.and_eq_true _ _ ▸ hpath c hc).1
  have hnumber : ∀ c ∈ u.path.text.toList ++ (marked "?" u.query).toList, (c != '#') = true := by
    intro c hc
    rcases List.mem_append.mp hc with hc | hc
    · exact (Bool.and_eq_true _ _ ▸ hpath c hc).2
    · rcases query_cases h with hnone | ⟨q, hq, hfree⟩
      · rw [hnone] at hc
        cases hc
      · rw [hq] at hc
        refine bne_iff_ne.mpr ?_
        rintro rfl
        rcases List.mem_cons.mp hc with hmark | hmem
        · cases hmark
        · exact hfree hmem
  have hfragment : ∀ c, (marked "#" u.fragment).toList.head? = some c → (c != '#') = false := by
    intro c hc
    rw [head?_fragment hc]
    rfl
  have hmarks : ∀ c, ((marked "?" u.query).toList ++ (marked "#" u.fragment).toList).head? = some c →
      (c != '?' && c != '#') = false := by
    intro c hc
    rcases query_cases h with hnone | ⟨q, hq, -⟩
    · rw [hnone, List.nil_append] at hc
      simp [hfragment c hc]
    · rw [hq] at hc
      cases hc
      rfl
  have hquery : ∀ c, (marked "?" u.query).toList.head? = some c → (c != '?') = false := by
    intro c hc
    rcases query_cases h with hnone | ⟨q, hq, -⟩
    · rw [hnone] at hc
      cases hc
    · rw [hq] at hc
      cases hc
      rfl
  refine ⟨?_, ?_, ?_⟩
  · rw [hrest]
    exact (span_append hpath hmarks).1
  · rw [hrest, ← List.append_assoc, (span_append hnumber hfragment).1]
    exact (span_append hquestion hquery).2
  · rw [hrest, ← List.append_assoc]
    exact (span_append hnumber hfragment).2

theorem split_scheme (u : Url) (behind : List Char) :
    (u.scheme.toList ++ ':' :: behind).takeWhile (· != ':') = u.scheme.toList ∧
      (u.scheme.toList ++ ':' :: behind).dropWhile (· != ':') = ':' :: behind := by
  have hscheme : u.scheme.toList.all (· != ':') = true := by
    unfold scheme
    split <;> decide
  refine span_append (List.all_eq_true.mp hscheme) fun c hc => ?_
  cases hc
  rfl

/-- Cutting the text of an address gives the parts that it was made of. -/
theorem ofText_text (h : u.Delimited) : Parts.ofText u.text = u.parts := by
  have htext : u.text.toList = u.scheme.toList ++ ':' :: '/' :: '/' :: (u.authorityText
      ++ (u.path.text.toList ++ ((marked "?" u.query).toList ++ (marked "#" u.fragment).toList))) := by
    simp [text, toList_hostText, authorityText]
  have hslash : ∀ c, (u.path.text.toList
      ++ ((marked "?" u.query).toList ++ (marked "#" u.fragment).toList)).head? = some c →
      (!isSeparator c) = false := by
    intro c hc
    rw [Path.head?_text] at hc
    cases hc
    rfl
  obtain ⟨hauthority, hrest⟩ := span_append (free_authorityText h) hslash
  obtain ⟨hsplit, hhost⟩ := split_authorityText h
  obtain ⟨hpath, hquery, hfragment⟩ := split_behind_authority h rfl
  simp only [Parts.ofText, htext, split_scheme, List.drop_succ_cons, List.drop_zero, hauthority,
    hrest, hsplit, hhost, hpath, hquery, hfragment, parts]

end Url

end PasswordGrant
