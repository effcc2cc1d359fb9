import PasswordGrant.Proofs.Operation
import PasswordGrant.Proofs.Realm.Frame

/-!
# Realms by their addresses

Which realm a request is for is told by its address. Two realms that can be used have the same
endpoints exactly if the same is kept of their names: tabs and line ends are dropped from a name, and
of the names `.` and `..` nothing is kept at all. So names without these have endpoints of their own.

* `RealmClient.keptOf` : what is kept of a realm, read off the segments of its path;
* `RealmClient.keptOf_base` : nothing else is lost on the way from a realm to its path;
* `RealmClient.endpointUrl_eq_of_kept` : realms of which the same is kept share their addresses;
* `RealmClient.endpointUrl_text_eq_iff` : and no others do.
-/

namespace PasswordGrant

/-! ### What is kept of a name -/

namespace Path

theorem isBlank_of_isDropped {c : Char} (h : isDropped c = true) : Text.isBlank c = true := by
  simp only [isDropped, Bool.or_eq_true, decide_eq_true_eq] at h
  rcases h with (rfl | rfl) | rfl <;> decide

theorem kept_ne_nil {s : String} (h : Text.isBlankText s = false) : kept s ≠ some [] := by
  intro hkept
  unfold kept at hkept
  split at hkept
  · cases hkept
  have hempty : (s.toList.filter fun c => !isDropped c) = [] := Option.some.inj hkept
  have hall : s.toList.all Text.isBlank = true := by
    refine List.all_eq_true.mpr fun c hc => isBlank_of_isDropped ?_
    simpa using List.filter_eq_nil_iff.mp hempty c hc
  rw [Text.isBlankText, hall] at h
  cases h

end Path

namespace RealmClient

variable {c : RealmClient} {r s : String} {base : Url}

/-! ### From a realm to its path and back -/

/-- The path that the realm is put behind. -/
def realmParent (c : RealmClient) (base : Path) : Path :=
  base.dropFinalSlash.pushAll (c.contextSegments ++ ["realms"])

theorem realmPath_eq (c : RealmClient) (base : Path) :
    c.realmPath base = (c.realmParent base).push c.realm := by
  simp [realmPath, realmParent, Path.pushAll, List.foldl_append]

theorem realmParent_eq (c : RealmClient) (base : Path) :
    c.realmParent base = ⟨(base.dropFinalSlash.pushAll c.contextSegments).base, "realms"⟩ := by
  have hplain : Path.Plain "realms" := by decide
  rw [realmParent, Path.pushAll, List.foldl_append, List.foldl_cons, List.foldl_nil,
    Path.push_plain hplain]
  rfl

/-- The segments that are left below a realm, by what is kept of it. The double dot takes away the
word for realms; then an empty segment remains, unless there is nothing in front of it. -/
theorem base_push_realm (front : List String) (realm : String) :
    ((⟨front, "realms"⟩ : Path).push realm).base =
      match Path.kept realm with
      | none => front ++ ["realms"]
      | some cs =>
        if cs = ['.', '.'] then (if front = [] then [] else front ++ [""])
        else if cs = ['.'] then front ++ ["realms", ""]
        else front ++ ["realms", String.ofList (Percent.encode Percent.inSegment cs)] := by
  have hparent : (⟨front, "realms"⟩ : Path).base = front ++ ["realms"] :=
    Path.base_eq_segments (by decide : "realms" ≠ "")
  have hshorten : Path.shorten (front ++ ["realms"]) = front := by
    have hdrive : Path.isDrive "realms" = false := by decide
    simp [Path.shorten, hdrive]
  have hbelow : ∀ last : String,
      (⟨front ++ ["realms"], last⟩ : Path).base = front ++ ["realms", last] := by
    intro last
    rw [Path.base_of_ne_root (by simp [Path.root]), Path.segments, List.append_assoc]
    rfl
  rw [Path.push_eq]
  cases Path.kept realm with
  | none => exact hparent
  | some cs =>
    dsimp only
    rw [hparent, hshorten]
    by_cases hdouble : cs = ['.', '.']
    · rw [if_pos hdouble, if_pos hdouble]
      by_cases hfront : front = []
      · rw [if_pos hfront, hfront]
        rfl
      · rw [if_neg hfront, Path.base_of_ne_root (by simp [Path.root, hfront])]
        rfl
    · rw [if_neg hdouble, if_neg hdouble]
      by_cases hsingle : cs = ['.']
      · rw [if_pos hsingle, if_pos hsingle, hbelow]
      · rw [if_neg hsingle, if_neg hsingle, hbelow]

/-- What is kept of a realm, read off the segments behind those of the context. -/
def keptOf : List String → Option (List Char)
  | ["realms"] => none
  | ["realms", last] =>
    if last = "" then some ['.'] else some (Utf8.decodeLossy (Percent.decode last.toList))
  | _ => some ['.', '.']

theorem keptOf_base (front : List String) (h : Path.kept r ≠ some []) :
    keptOf (((⟨front, "realms"⟩ : Path).push r).base.drop front.length) = Path.kept r := by
  rw [base_push_realm]
  cases hkept : Path.kept r with
  | none => simp [keptOf]
  | some cs =>
    dsimp only
    by_cases hdouble : cs = ['.', '.']
    · by_cases hfront : front = []
      · simp [hdouble, hfront, keptOf]
      · simp [hdouble, hfront, keptOf]
    by_cases hsingle : cs = ['.']
    · simp [hsingle, keptOf]
    · have hne : cs ≠ [] := by
        rintro rfl
        exact h hkept
      have hencoded : Percent.encode Percent.inSegment cs ≠ [] := by
        intro hempty
        have hnil : Percent.encode Percent.inSegment cs = Percent.encode Percent.inSegment [] := hempty
        exact hne (Percent.encode_injective (by decide) hnil)
      have hbytes : Percent.decode (Percent.encode Percent.inSegment cs) = Utf8.encode cs :=
        Percent.decode_encode (by decide) cs
      simp [hdouble, hsingle, keptOf, hencoded, hbytes, Utf8.decodeLossy_encode]

/-! ### Addresses -/

def atRealm (c : RealmClient) (realm : String) : RealmClient := { c with realm := realm }

theorem realm_atRealm : (c.atRealm r).realm = r := rfl

theorem parsedBaseUrl_atRealm : (c.atRealm r).parsedBaseUrl = c.parsedBaseUrl := by
  simp only [parsedBaseUrl, atRealm]

theorem realmParent_atRealm (p : Path) : (c.atRealm r).realmParent p = c.realmParent p := by
  simp only [realmParent, contextSegments, atRealm]

theorem parsedBaseUrl_of_validate (h : c.validate = .ok ()) :
    ∃ base, c.parsedBaseUrl = .ok base ∧ Text.isBlankText c.realm = false := by
  obtain ⟨base, hbase⟩ := validate_ok h
  refine ⟨base, hbase, ?_⟩
  rw [validate, hbase] at h
  dsimp only at h
  split at h
  · cases h
  case isFalse hblank => exact Bool.eq_false_iff.mpr hblank

theorem segments_endpoint (c : RealmClient) (base : Path) (e : Endpoint) :
    ((c.realmPath base).pushAll e.segments).segments
      = ((c.realmParent base).push c.realm).base ++ e.segments := by
  have hne : e.segments ≠ [] := by cases e <;> decide
  rw [Path.segments_pushAll e.plain_segments hne, realmPath_eq]

/-- Realms of which the same is kept have the same addresses. -/
theorem endpointUrl_eq_of_kept (c : RealmClient) (h : Path.kept r = Path.kept s) (e : Endpoint) :
    (c.atRealm r).endpointUrl e = (c.atRealm s).endpointUrl e := by
  have hpath : ∀ p : Path, (c.atRealm r).realmPath p = (c.atRealm s).realmPath p := by
    intro p
    rw [realmPath_eq, realmPath_eq, realmParent_atRealm, realmParent_atRealm, realm_atRealm,
      realm_atRealm, Path.push_eq, Path.push_eq, h]
  simp only [endpointUrl_eq_map, parsedBaseUrl_atRealm, hpath]

theorem kept_eq_of_path_text (h : base.Delimited) (hr : Text.isBlankText r = false)
    (hs : Text.isBlankText s = false) {e : Endpoint}
    (htext : (((c.atRealm r).realmPath base.path).pushAll e.segments).text
      = (((c.atRealm s).realmPath base.path).pushAll e.segments).text) :
    Path.kept r = Path.kept s := by
  have hdelimited : ∀ realm, (((c.atRealm realm).realmPath base.path).pushAll e.segments).Delimited :=
    fun _ => Path.delimited_pushAll (delimited_realmPath h) _
  have hsegments := Path.segments_eq_of_text_eq (hdelimited r) (hdelimited s) htext
  -- the endpoint ends alike at both realms
  rw [segments_endpoint, segments_endpoint] at hsegments
  have hbelow := List.append_cancel_right hsegments
  rw [realmParent_atRealm, realmParent_atRealm, realm_atRealm, realm_atRealm, realmParent_eq] at hbelow
  have hread := congrArg
    (fun below => keptOf (below.drop (base.path.dropFinalSlash.pushAll c.contextSegments).base.length))
    hbelow
  rwa [keptOf_base _ (Path.kept_ne_nil hr), keptOf_base _ (Path.kept_ne_nil hs)] at hread

/-- Two clients that can be used and differ only in their realms share the address of an endpoint
exactly if the same is kept of their realms. -/
theorem endpointUrl_text_eq_iff (c : RealmClient) (hr : (c.atRealm r).validate = .ok ())
    (hs : (c.atRealm s).validate = .ok ()) (e : Endpoint) :
    ∃ u v, (c.atRealm r).endpointUrl e = .ok u ∧ (c.atRealm s).endpointUrl e = .ok v ∧
      (u.text = v.text ↔ Path.kept r = Path.kept s) := by
  obtain ⟨base, hbase, hrblank⟩ := parsedBaseUrl_of_validate hr
  obtain ⟨-, -, hsblank⟩ := parsedBaseUrl_of_validate hs
  rw [parsedBaseUrl_atRealm] at hbase
  have hu := endpointUrl_eq (parsedBaseUrl_atRealm.trans hbase : (c.atRealm r).parsedBaseUrl = _) e
  have hv := endpointUrl_eq (parsedBaseUrl_atRealm.trans hbase : (c.atRealm s).parsedBaseUrl = _) e
  refine ⟨_, _, hu, hv, fun htext => ?_, fun hkept => ?_⟩
  · have hdelimited : base.Delimited := delimited_parsedBaseUrl hbase
    have hsame : ∀ realm, base.SameButPath
        { base with path := ((c.atRealm realm).realmPath base.path).pushAll e.segments } :=
      fun _ => Url.sameButPath_withPath hdelimited
        (Path.delimited_pushAll (delimited_realmPath hdelimited) _)
    -- equal texts are cut into equal paths
    have hpaths := congrArg (fun text => (Url.Parts.ofText text).path) htext
    rw [(hsame r).text, (hsame s).text] at hpaths
    exact kept_eq_of_path_text hdelimited hrblank hsblank (String.toList_inj.mp hpaths)
  · have heq := endpointUrl_eq_of_kept c hkept e
    rw [hu, hv] at heq
    rw [Except.ok.inj heq]

/-- A slash and the three characters that encode it are kept apart. -/
theorem endpointUrl_text_ne_of_encoded_slash :
    let c := ofPublic "http://host" "" "web"
    ∀ e, ∃ u v, (c.atRealm "a/b").endpointUrl e = .ok u ∧
      (c.atRealm "a%2Fb").endpointUrl e = .ok v ∧ u.text ≠ v.text := by
  intro c e
  have hslash : (c.atRealm "a/b").validate = .ok () := eq_ok_of_toOption (by decide +kernel)
  have hencoded : (c.atRealm "a%2Fb").validate = .ok () := eq_ok_of_toOption (by decide +kernel)
  obtain ⟨u, v, hu, hv, hiff⟩ := endpointUrl_text_eq_iff c hslash hencoded e
  have hkept : Path.kept "a/b" ≠ Path.kept "a%2Fb" := by decide +kernel
  exact ⟨u, v, hu, hv, fun htext => hkept (hiff.mp htext)⟩

/-- A realm with a tab in its name can be used, and has the addresses of the realm without. -/
theorem endpointUrl_shared_of_tab :
    let c := ofPublic "http://host" "" "web"
    "my\tapp" ≠ "myapp" ∧
      (c.atRealm "my\tapp").validate = .ok () ∧ (c.atRealm "myapp").validate = .ok () ∧
      ∀ e, ∃ u, (c.atRealm "my\tapp").endpointUrl e = .ok u ∧
        (c.atRealm "myapp").endpointUrl e = .ok u := by
  intro c
  have hbase : (c.atRealm "myapp").parsedBaseUrl
      = .ok ⟨false, "", none, .domain "host", none, ⟨[], ""⟩, none, none⟩ :=
    eq_ok_of_toOption (by decide +kernel)
  have hkept : Path.kept "my\tapp" = Path.kept "myapp" := by decide +kernel
  refine ⟨by decide, eq_ok_of_toOption (by decide +kernel), eq_ok_of_toOption (by decide +kernel), ?_⟩
  intro e
  refine ⟨_, ?_, endpointUrl_eq hbase e⟩
  rw [endpointUrl_eq_of_kept c hkept e]
  exact endpointUrl_eq hbase e

end RealmClient

end PasswordGrant
