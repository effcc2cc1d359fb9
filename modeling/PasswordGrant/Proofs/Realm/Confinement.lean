import PasswordGrant.Proofs.Realm.Isolation
import PasswordGrant.Proofs.Url.Climbing

/-!
# How far a realm reaches

The endpoints of a realm lie below the address of its server: context path and realm say where, and
neither is meant to lead out. Dot segments in them are skipped for that reason. A name that becomes a
double dot only when tabs and line ends are dropped is not skipped, though. First in a context path it
takes away the last segment of the server, and as a realm it takes away the word for realms. Nothing takes
away more than that, and without such a name everything stays where it is.

* `Path.LeadsToRealms` : a path goes on behind that of a server, and through the word for realms;
* `RealmClient.standing`, `RealmClient.segmentsAt` : what is left below a context path and a realm;
* `RealmClient.endpointUrl_confined` : where the endpoints of a realm are.
-/

namespace PasswordGrant

/-- A path goes on behind that of a server, but for one slash at its end, and the word for realms is one
of the segments that follow. -/
def Path.LeadsToRealms (server p : Path) : Prop :=
  ∃ between behind, p.text.toList = server.stem ++ slashed (between ++ "realms" :: behind)

namespace RealmClient

variable {c : RealmClient}

/-- The segments of a realm below the word for realms. -/
def realmSegments (realm : String) : List String :=
  match Path.kept realm with
  | none => []
  | some cs => if cs = ['.'] then [""] else [String.ofList (Percent.encode Percent.inSegment cs)]

/-- The segments that are left of those above a realm, and its own. -/
def segmentsAt (above : List String) (realm : String) : List String :=
  if Path.Climbs realm then Path.closed above else above ++ "realms" :: realmSegments realm

theorem base_push_realm_eq (above : List String) (realm : String) :
    ((⟨above, "realms"⟩ : Path).push realm).base = segmentsAt above realm := by
  rw [base_push_realm, segmentsAt]
  by_cases hclimbs : Path.Climbs realm
  · rw [if_pos hclimbs, hclimbs]
    rfl
  · rw [if_neg hclimbs, realmSegments]
    cases hkept : Path.kept realm with
    | none => rfl
    | some cs =>
      have hdouble : cs ≠ ['.', '.'] := by
        rintro rfl
        exact hclimbs hkept
      dsimp only
      rw [if_neg hdouble]
      split
      · rfl
      · rfl

theorem prefix_segmentsAt (above : List String) (realm : String) :
    above <+: segmentsAt above realm := by
  rw [segmentsAt]
  split
  · exact Path.prefix_closed above
  · exact List.prefix_append _ _

/-- The segments of a server that are left below a context path. -/
def standing (front context : List String) : List String :=
  if Path.Leaves context then Path.closed (Path.shorten front) else front

theorem dropLast_prefix_standing (front context : List String) :
    front.dropLast <+: standing front context := by
  rw [standing]
  split
  · exact Path.dropLast_prefix_closed_shorten front
  · exact List.dropLast_prefix front

theorem leadsToRealms {server p : Path} {between behind : List String} (hserver : server.Delimited)
    (hslashes : server.text ≠ "//")
    (h : p.segments = server.front ++ (between ++ "realms" :: behind)) : server.LeadsToRealms p := by
  have hstem : server.stem = Path.slashed server.front := by
    apply Path.stem_eq hserver
    rintro rfl
    exact hslashes (by decide)
  refine ⟨between, behind, ?_⟩
  rw [Path.toList_text, h, hstem]
  exact Path.slashed_append _ _

/-- The endpoints of a client that can be used. Above the realm stand the segments of the server, less one
if the context path begins with a name that climbs, and those that the context path adds. Then come the
word for realms and the realm, unless the realm climbs, and those of the endpoint. So nothing but the last
segment of a server can be taken away, and if no name climbs, every endpoint is reached through the whole
path of the server and the word for realms. Of two slashes alone nothing is left in any case. -/
theorem endpointUrl_confined (h : c.validate = .ok ()) :
    ∃ base own, c.parsedBaseUrl = .ok base ∧ ∀ e, ∃ url, c.endpointUrl e = .ok url ∧
      url.path.segments
        = segmentsAt (standing base.path.front c.contextSegments ++ own) c.realm ++ e.segments ∧
      base.path.front.dropLast <+: url.path.segments ∧
      (base.path.text ≠ "//" → ¬Path.Leaves c.contextSegments → ¬Path.Climbs c.realm →
        base.path.LeadsToRealms url.path) := by
  obtain ⟨base, hbase⟩ := validate_ok h
  obtain ⟨own, hown⟩ := Path.exists_base_pushAll base.path.dropFinalSlash c.contextSegments
  refine ⟨base, own, hbase, fun e => ⟨_, endpointUrl_eq hbase e, ?_⟩⟩
  have hsegments : ((c.realmPath base.path).pushAll e.segments).segments
      = segmentsAt (standing base.path.front c.contextSegments ++ own) c.realm ++ e.segments := by
    rw [segments_endpoint, realmParent_eq, base_push_realm_eq, hown]
    rfl
  refine ⟨hsegments, ?_, fun hslashes hstays hrealm => ?_⟩
  · show base.path.front.dropLast <+: ((c.realmPath base.path).pushAll e.segments).segments
    rw [hsegments]
    exact (dropLast_prefix_standing _ _).trans ((List.prefix_append _ own).trans
      ((prefix_segmentsAt _ _).trans (List.prefix_append _ _)))
  · rw [standing, if_neg hstays, segmentsAt, if_neg hrealm, List.append_assoc, List.append_assoc,
      List.cons_append] at hsegments
    exact leadsToRealms (delimited_parsedBaseUrl hbase).path hslashes hsegments

/-- A context path that climbs back to the server, and a realm with a slash in it. -/
theorem leadsToRealms_of_climbing_context :
    let c : RealmClient := ⟨"http://h/sso/", "../b", .isPublic, "web", "", "a/\t.."⟩
    ∃ base url, c.parsedBaseUrl = .ok base ∧ c.endpointUrl .token = .ok url ∧
      base.path.LeadsToRealms url.path ∧
      url.text = "http://h/sso//realms/..%2Fb/protocol/openid-connect/token" := by
  intro c
  have hclient : c.validate = .ok () := eq_ok_of_toOption (by decide +kernel)
  have hvalue : c.parsedBaseUrl = .ok ⟨false, "", none, .domain "h", none, ⟨["sso"], ""⟩, none, none⟩ :=
    eq_ok_of_toOption (by decide +kernel)
  obtain ⟨base, own, hbase, hendpoint⟩ := endpointUrl_confined hclient
  obtain ⟨url, hurl, -, -, hleads⟩ := hendpoint .token
  rw [hvalue] at hbase
  cases hbase
  refine ⟨_, url, hvalue, hurl, hleads (by decide) (by decide +kernel) (by decide +kernel), ?_⟩
  rw [endpointUrl_eq hvalue] at hurl
  cases hurl
  decide +kernel

/-- A tab in front of a double dot leads out of the path of the server, or past the word for realms. -/
theorem endpointUrl_outside_of_tab :
    let byContext : RealmClient := ⟨"http://host/sso", "r", .isPublic, "web", "", "\t.."⟩
    let byRealm : RealmClient := ⟨"http://host/sso", "\t..", .isPublic, "web", "", "auth"⟩
    byContext.validate = .ok () ∧ byRealm.validate = .ok () ∧
      ∃ base, byContext.parsedBaseUrl = .ok base ∧ byRealm.parsedBaseUrl = .ok base ∧
        base.path.text = "/sso" ∧
        (∀ e, ∃ url, byContext.endpointUrl e = .ok url ∧
          ¬ "/sso/".toList <+: url.path.text.toList) ∧
        ∀ e, ∃ url, byRealm.endpointUrl e = .ok url ∧ "realms" ∉ url.path.segments := by
  intro byContext byRealm
  have hcontext : byContext.parsedBaseUrl
      = .ok ⟨false, "", none, .domain "host", none, ⟨[], "sso"⟩, none, none⟩ :=
    eq_ok_of_toOption (by decide +kernel)
  have hrealm : byRealm.parsedBaseUrl
      = .ok ⟨false, "", none, .domain "host", none, ⟨[], "sso"⟩, none, none⟩ :=
    eq_ok_of_toOption (by decide +kernel)
  refine ⟨eq_ok_of_toOption (by decide +kernel), eq_ok_of_toOption (by decide +kernel), _, hcontext,
    hrealm, by decide, ?_, ?_⟩
  · intro e
    refine ⟨_, endpointUrl_eq hcontext e, ?_⟩
    cases e <;> decide +kernel
  · intro e
    refine ⟨_, endpointUrl_eq hrealm e, ?_⟩
    cases e <;> decide +kernel

end RealmClient

end PasswordGrant
