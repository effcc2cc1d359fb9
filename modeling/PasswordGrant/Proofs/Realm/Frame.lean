import PasswordGrant.Proofs.Url.Growth
import PasswordGrant.Proofs.Url.Parts
import PasswordGrant.RealmClient

/-!
# What the addresses of a realm keep

The addresses of a realm are those of its server with a longer path. Whatever texts the realm and the
context path are, they change nothing else: neither where a request goes nor what is asked along with
it. This holds of the address as a value and of its text as others cut it.

* `Url.SameButPath` : an address that differs from another in its path at most;
* `RealmClient.delimited_parsedBaseUrl` : the address of a server is cut into the parts it was made of;
* `RealmClient.endpointUrl_sameButPath` : the addresses of a realm and of its endpoints.
-/

namespace PasswordGrant

namespace Url

/-- An address has scheme, user information, host, port, query and fragment of another one, and
whoever cuts its text finds the same as in the text of the other one, except for the path. -/
structure SameButPath (base u : Url) : Prop where
  scheme : u.scheme = base.scheme
  username : u.username = base.username
  password : u.password = base.password
  host : u.host = base.host
  port : u.port = base.port
  query : u.query = base.query
  fragment : u.fragment = base.fragment
  text : Parts.ofText u.text = { Parts.ofText base.text with path := u.path.text.toList }

theorem sameButPath_withPath {base : Url} {p : Path} (hbase : base.Delimited) (hp : p.Delimited) :
    base.SameButPath { base with path := p } := by
  have hu : Delimited { base with path := p } :=
    ⟨hbase.username, hbase.password, hbase.host, hp, hbase.query⟩
  refine ⟨rfl, rfl, rfl, rfl, rfl, rfl, rfl, ?_⟩
  rw [ofText_text hu, ofText_text hbase]
  rfl

end Url

theorem Endpoint.plain_segments (e : Endpoint) : ∀ s ∈ e.segments, Path.Plain s := by
  cases e <;> decide

namespace RealmClient

variable {c : RealmClient} {base : Url}

/-- The address of a server was read, so that no part of it holds a character that ends it. -/
theorem delimited_parsedBaseUrl (h : c.parsedBaseUrl = .ok base) : base.Delimited := by
  unfold parsedBaseUrl at h
  split at h
  · cases h
  · cases h
  case h_3 url hparse =>
    cases h
    exact Address.delimited_parse hparse

theorem realmUrl_eq (h : c.parsedBaseUrl = .ok base) :
    c.realmUrl = .ok { base with path := c.realmPath base.path } := by
  rw [realmUrl_eq_map, h]
  rfl

theorem endpointUrl_eq (h : c.parsedBaseUrl = .ok base) (e : Endpoint) :
    c.endpointUrl e
      = .ok { base with path := (c.realmPath base.path).pushAll e.segments } := by
  rw [endpointUrl_eq_map, h]
  rfl

theorem delimited_realmPath (h : base.Delimited) : (c.realmPath base.path).Delimited :=
  Path.delimited_pushAll (Path.delimited_dropFinalSlash h.path) _

theorem text_introspection (p : Path) :
    (p.pushAll Endpoint.introspection.segments).text
      = (p.pushAll Endpoint.token.segments).text ++ "/introspect" := by
  have htoken := Path.segments_pushAll (p := p) Endpoint.token.plain_segments (by decide)
  have hintrospection := Path.segments_pushAll (p := p) Endpoint.introspection.plain_segments (by decide)
  have hsegments : Endpoint.introspection.segments = Endpoint.token.segments ++ ["introspect"] := rfl
  apply String.toList_inj.mp
  rw [String.toList_append, Path.toList_text, Path.toList_text, htoken, hintrospection, hsegments,
    ← List.append_assoc, List.flatMap_append]
  rfl

/-- The addresses of a realm and of its endpoints have scheme, user information, host, port, query and
fragment of the address of the server, which are what others cut out of its text; realm and context
path change the path alone. The introspection endpoint lies directly below the token endpoint. -/
theorem endpointUrl_sameButPath (h : c.parsedBaseUrl = .ok base) :
    Url.Parts.ofText base.text = base.parts ∧
    (∃ url, c.realmUrl = .ok url ∧ base.SameButPath url) ∧
    (∀ e, ∃ url, c.endpointUrl e = .ok url ∧ base.SameButPath url) ∧
    ∃ token introspection, c.endpointUrl .token = .ok token ∧
      c.endpointUrl .introspection = .ok introspection ∧
      introspection.path.text = token.path.text ++ "/introspect" := by
  have hbase : base.Delimited := delimited_parsedBaseUrl h
  have hrealm : (c.realmPath base.path).Delimited := delimited_realmPath hbase
  refine ⟨Url.ofText_text hbase, ⟨_, realmUrl_eq h, Url.sameButPath_withPath hbase hrealm⟩, ?_, ?_⟩
  · intro e
    exact ⟨_, endpointUrl_eq h e,
      Url.sameButPath_withPath hbase (Path.delimited_pushAll hrealm e.segments)⟩
  · exact ⟨_, _, endpointUrl_eq h .token, endpointUrl_eq h .introspection,
      text_introspection (c.realmPath base.path)⟩

/-- A server with user information, a port, a query and a fragment, a context path that climbs, and a
realm of delimiters. -/
theorem sameButPath_of_delimiters :
    let c : RealmClient := ⟨"http://u:p@h:81/x/?q=1#f", "a/../?#@:%\\é\t", .isPublic, "web", "",
      "\t../b?c#d"⟩
    ∃ base url, c.parsedBaseUrl = .ok base ∧ c.endpointUrl .userinfo = .ok url ∧
      base.SameButPath url ∧ url.text = "http://u:p@h:81/b%3Fc%23d/realms/a%2F..%2F%3F%23@:%25%5C%C3%A9"
        ++ "/protocol/openid-connect/userinfo?q=1#f" := by
  intro c
  have hbase : c.parsedBaseUrl = .ok ⟨false, "u", some "p", .domain "h", some 81, ⟨["x"], ""⟩,
      some "q=1", some "f"⟩ := eq_ok_of_toOption (by decide +kernel)
  obtain ⟨url, hurl, hsame⟩ := (endpointUrl_sameButPath hbase).2.2.1 .userinfo
  refine ⟨_, url, hbase, hurl, hsame, ?_⟩
  have hvalue := endpointUrl_eq hbase .userinfo
  rw [hurl] at hvalue
  cases hvalue
  decide +kernel

end RealmClient

end PasswordGrant
