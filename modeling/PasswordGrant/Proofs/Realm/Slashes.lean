import PasswordGrant.Proofs.Realm.Frame

/-!
# Slashes in settings

Whoever writes down a server and a context path need not count slashes. The address of the server may
end in a slash behind its path or not, and the context path may have any number of them before, behind
and between its names: the addresses of the realm are the same. Slashes at the ends of a context path
are cut off when it is set, those between its names when it is split, and the one behind a path when
segments are put at its end.

* `Text.names` : the names that a text has between its slashes;
* `RealmClient.contextSegments_withContextPath` : they are the segments of a context path;
* `Path.dropFinalSlash_eq_of_slash` : a path with a slash behind it;
* `RealmClient.endpointUrl_eq_of_slashes` : the addresses of a realm.
-/

namespace PasswordGrant

/-! ### Names between slashes -/

namespace Text

/-- The parts of a text between slashes that are not empty. -/
def names (cs : List Char) : List (List Char) := (splitOn (· == '/') cs).filter fun s => !s.isEmpty

theorem splitOn_concat {isSeparator : Char → Bool} {d : Char} (hd : isSeparator d = true)
    (cs : List Char) : splitOn isSeparator (cs ++ [d]) = splitOn isSeparator cs ++ [[]] := by
  induction cs with
  | nil => simp [splitOn, hd]
  | cons c cs ih =>
    rw [List.cons_append, splitOn, splitOn, ih]
    by_cases hc : isSeparator c = true
    · rw [if_pos hc, if_pos hc, List.cons_append]
    · rw [if_neg hc, if_neg hc]
      cases hparts : splitOn isSeparator cs with
      | nil => exact absurd hparts (splitOn_ne_nil isSeparator cs)
      | cons part parts => rfl

theorem names_cons_slash (cs : List Char) : names ('/' :: cs) = names cs := by
  simp [names, splitOn]

theorem names_concat_slash (cs : List Char) : names (cs ++ ['/']) = names cs := by
  rw [names, splitOn_concat (by decide), List.filter_append]
  exact List.append_nil _

theorem names_dropWhile (cs : List Char) : names (cs.dropWhile (· == '/')) = names cs := by
  induction cs with
  | nil => rfl
  | cons c cs ih =>
    by_cases hc : c = '/'
    · subst hc
      rw [List.dropWhile_cons_of_pos (by decide), ih, names_cons_slash]
    · rw [List.dropWhile_cons_of_neg (by simpa using hc)]

theorem names_reverse_dropWhile (cs : List Char) :
    names (cs.dropWhile (· == '/')).reverse = names cs.reverse := by
  induction cs with
  | nil => rfl
  | cons c cs ih =>
    by_cases hc : c = '/'
    · subst hc
      rw [List.dropWhile_cons_of_pos (by decide), ih, List.reverse_cons, names_concat_slash]
    · rw [List.dropWhile_cons_of_neg (by simpa using hc)]

end Text

namespace RealmClient

/-- Cutting the slashes off the ends of a context path keeps its names, which are its segments. -/
theorem contextSegments_withContextPath (contextPath : String) (c : RealmClient) :
    (c.withContextPath contextPath).contextSegments
      = (Text.names contextPath.toList).map String.ofList := by
  have htrim : Text.names (trimSlashes contextPath).toList = Text.names contextPath.toList := by
    rw [trimSlashes, String.toList_ofList, Text.names_reverse_dropWhile, List.reverse_reverse,
      Text.names_dropWhile]
  rw [← htrim]
  rfl

theorem parsedBaseUrl_withContextPath (contextPath : String) (c : RealmClient) :
    (c.withContextPath contextPath).parsedBaseUrl = c.parsedBaseUrl := by
  simp only [parsedBaseUrl, withContextPath]

end RealmClient

/-! ### A slash behind a path -/

namespace Path

variable {p q : Path}

theorem eq_of_segments_eq (h : p.segments = q.segments) : p = q := by
  obtain ⟨init, last⟩ := p
  obtain ⟨init', last'⟩ := q
  obtain ⟨rfl, hlast⟩ := List.append_inj' h rfl
  obtain rfl := List.singleton_inj.mp hlast
  rfl

def withFinalSlash (p : Path) : Path := ⟨p.segments, ""⟩

theorem text_withFinalSlash (p : Path) : p.withFinalSlash.text = p.text ++ "/" := by
  apply String.toList_inj.mp
  rw [String.toList_append, toList_text, toList_text, withFinalSlash, segments, List.flatMap_append]
  rfl

theorem delimited_withFinalSlash (h : p.Delimited) : p.withFinalSlash.Delimited :=
  delimited_mk h freeOf_empty

theorem dropFinalSlash_withFinalSlash (p : Path) : p.withFinalSlash.dropFinalSlash = p := by
  have hlast : (p.init ++ [p.last]).getLast? = some p.last := List.getLast?_concat
  have hinit : (p.init ++ [p.last]).dropLast = p.init := List.dropLast_concat
  rw [dropFinalSlash, withFinalSlash, segments]
  dsimp only
  rw [hlast, hinit]
  rfl

theorem dropFinalSlash_of_last_ne (h : p.last ≠ "") : p.dropFinalSlash = p := by
  have hlast : p.last.isEmpty = false := by simpa using h
  rw [dropFinalSlash, hlast]

theorem getLast?_text_of_last (h : p.last = "") : p.text.toList.getLast? = some '/' := by
  rw [toList_text, segments, h, List.flatMap_append]
  exact List.getLast?_concat

/-- A path whose text is that of another one with one slash more behind it, and the other has none, is
the other one once the slash is cut off. -/
theorem dropFinalSlash_eq_of_slash (hp : p.Delimited) (hq : q.Delimited)
    (hnone : p.text.toList.getLast? ≠ some '/') (hslash : q.text = p.text ++ "/") :
    q.dropFinalSlash = p.dropFinalSlash := by
  have hlast : p.last ≠ "" := fun hempty => hnone (getLast?_text_of_last hempty)
  have hsegments : q.segments = p.withFinalSlash.segments :=
    segments_eq_of_text_eq hq (delimited_withFinalSlash hp) (hslash.trans (text_withFinalSlash p).symm)
  have hq : q = p.withFinalSlash := eq_of_segments_eq hsegments
  rw [hq, dropFinalSlash_withFinalSlash, dropFinalSlash_of_last_ne hlast]

end Path

/-- An address that is another one with one slash more behind its path, which has none there. -/
structure Url.SlashBehind (u v : Url) : Prop where
  rest : v = { u with path := v.path }
  none : u.path.text.toList.getLast? ≠ some '/'
  slash : v.path.text = u.path.text ++ "/"

/-! ### The addresses of a realm -/

namespace RealmClient

variable {c d : RealmClient} {u v : Url} {a b : String}

/-- Into the path of a realm go the names of the context path, and what is left of the path of the
server without a slash behind it. -/
theorem realmPath_eq_of_slashes (hrealm : c.realm = d.realm) {p q : Path}
    (hbase : q.dropFinalSlash = p.dropFinalSlash)
    (hcontext : Text.names a.toList = Text.names b.toList) :
    (c.withContextPath a).realmPath p = (d.withContextPath b).realmPath q := by
  have hc : (c.withContextPath a).realm = (d.withContextPath b).realm := hrealm
  rw [realmPath, realmPath, contextSegments_withContextPath, contextSegments_withContextPath,
    hcontext, hbase, hc]

/-- Clients of one realm whose servers differ in a slash behind the path, and whose context paths have
the same names between their slashes, have the same addresses. -/
theorem endpointUrl_eq_of_slashes (hrealm : c.realm = d.realm) (hc : c.parsedBaseUrl = .ok u)
    (hd : d.parsedBaseUrl = .ok v) (hbase : u.SlashBehind v)
    (hcontext : Text.names a.toList = Text.names b.toList) :
    (∃ url, (c.withContextPath a).realmUrl = .ok url ∧ (d.withContextPath b).realmUrl = .ok url) ∧
    ∀ e, ∃ url, (c.withContextPath a).endpointUrl e = .ok url ∧
      (d.withContextPath b).endpointUrl e = .ok url := by
  have hleft : (c.withContextPath a).parsedBaseUrl = .ok u :=
    (parsedBaseUrl_withContextPath a c).trans hc
  have hright : (d.withContextPath b).parsedBaseUrl = .ok v :=
    (parsedBaseUrl_withContextPath b d).trans hd
  have hpath : (c.withContextPath a).realmPath u.path = (d.withContextPath b).realmPath v.path :=
    realmPath_eq_of_slashes hrealm
      (Path.dropFinalSlash_eq_of_slash (delimited_parsedBaseUrl hc).path
        (delimited_parsedBaseUrl hd).path hbase.none hbase.slash) hcontext
  have hurl : ∀ path : Path, { v with path := path } = { u with path := path } := by
    intro path
    rw [hbase.rest]
  refine ⟨⟨_, realmUrl_eq hleft, ?_⟩, fun e => ⟨_, endpointUrl_eq hleft e, ?_⟩⟩
  · rw [realmUrl_eq hright, hpath, hurl]
  · rw [endpointUrl_eq hright e, hpath, hurl]

/-- Two ways to write down one server and one context path of two names. -/
theorem endpointUrl_eq_of_odd_slashes :
    let c := ofPublic "http://host/sso" "r" "web"
    let d := ofPublic "http://host/sso/ " "r" "app"
    ∃ url, (c.withContextPath "a/b").endpointUrl .token = .ok url ∧
      (d.withContextPath "//a///b/").endpointUrl .token = .ok url := by
  intro c d
  have hc : c.parsedBaseUrl
      = .ok ⟨false, "", none, .domain "host", none, ⟨[], "sso"⟩, none, none⟩ :=
    eq_ok_of_toOption (by decide +kernel)
  have hd : d.parsedBaseUrl
      = .ok ⟨false, "", none, .domain "host", none, ⟨["sso"], ""⟩, none, none⟩ :=
    eq_ok_of_toOption (by decide +kernel)
  have hbase : Url.SlashBehind ⟨false, "", none, .domain "host", none, ⟨[], "sso"⟩, none, none⟩
      ⟨false, "", none, .domain "host", none, ⟨["sso"], ""⟩, none, none⟩ :=
    ⟨rfl, by decide, by decide⟩
  have hrealm : c.realm = d.realm := rfl
  have hcontext : Text.names "a/b".toList = Text.names "//a///b/".toList := by decide
  exact (endpointUrl_eq_of_slashes hrealm hc hd hbase hcontext).2 .token

end RealmClient

end PasswordGrant
