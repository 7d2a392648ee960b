import BlockingQuery.Proofs.Cache.Entries
import BlockingQuery.Proofs.Cache.Asking
import BlockingQuery.Proofs.Http.Path

/-!
# Where a cache asks

A cache of the entries below a root, or of the instances of a service, asks at a site of its own:
the endpoint of the resource, and its name behind it (`Resource.site?`). The name is escaped for the
path that is polled, and so is read as it was, whatever characters it has
(`Resource.polledPath_of_site`). But dots are not escaped, and the path is merged with that of the
client's URL, where dot segments are resolved. So a request asks at the site of its resource just if
the name has no dot segments and the client's URL no query, and then at that of no other resource
(`Resource.site_of_polled`).
-/

namespace BlockingQuery

/-- Something that servers have a path for: an endpoint, and a name behind it. -/
structure Site where
  /-- The path of the endpoint, with a slash at its end. -/
  endpoint : String
  name : List Char
  deriving DecidableEq, Repr

/-- The path of a site, as a server has to read it. -/
def Site.bytes (p : Site) : List UInt8 :=
  (p.endpoint.toList ++ p.name).flatMap String.utf8EncodeChar

namespace Site

/-- The endpoints that there are resources of. -/
def endpoints : List String :=
  ["/v1/kv/", "/v1/catalog/service/", "/v1/health/service/"]

/-- What an endpoint has between the first slash and the last one. -/
def inner (endpoint : String) : List Char :=
  (endpoint.toList.drop 1).dropLast

/-- The path of an endpoint needs no escapes and has no dot segments. -/
theorem plain_of_mem_endpoints : ∀ e ∈ endpoints,
    e.toList = '/' :: (inner e ++ ['/']) ∧
      (inner e).all (fun c => decide (c ≠ '%' ∧ Percent.IsPlain c)) = true ∧
      (inner e).head?.isSome = true ∧ (inner e).head? ≠ some '/' ∧ Url.Dotless (inner e) := by
  decide +kernel

/-- Endpoints differ in their fifth character. -/
theorem fifth_of_endpoints :
    (∀ e ∈ endpoints, 4 < e.toList.length) ∧ (endpoints.map fun e => e.toList[4]?).Nodup := by
  decide +kernel

/-- A path behind that of an endpoint is read as a site. -/
theorem path_behind {safe : Char → Bool} {e : String} (he : e ∈ endpoints)
    (hsafe : ∀ c, safe c = true → Percent.isUnreserved c = true ∨ c = '/') (name : List Char) :
    ∃ rest, e ++ String.ofList (Percent.encode safe name) = String.ofList ('/' :: rest) ∧
      (∀ c ∈ rest, Percent.IsPlain c) ∧ rest.head? ≠ some '/' ∧ Percent.bytes rest ≠ [] ∧
      0x2F :: Percent.bytes rest = bytes ⟨e, name⟩ ∧
      (Url.Dotless rest ↔ Url.Dotless (Percent.encode safe name)) := by
  obtain ⟨heq, hall, hsome, hhead, hdotless⟩ := plain_of_mem_endpoints e he
  have hplain (c : Char) (hc : c ∈ inner e) : c ≠ '%' ∧ Percent.IsPlain c :=
    of_decide_eq_true (List.all_eq_true.1 hall c hc)
  have hpercent : safe '%' = false := by
    cases hsafed : safe '%' with
    | false => rfl
    | true => rcases hsafe _ hsafed with h | h <;> cases h
  refine ⟨inner e ++ '/' :: Percent.encode safe name, ?_, fun c hc => ?_, ?_, ?_, ?_, ?_⟩
  · conv_lhs => rw [← String.ofList_toList (s := e), heq, ← String.ofList_append]
    simp
  · rcases List.mem_append.1 hc with hc | hc
    · exact (hplain c hc).2
    · rcases List.mem_cons.1 hc with rfl | hc
      · decide
      · exact Percent.isPlain_of_mem_encode hsafe hc
  · rw [List.head?_append, Option.or_of_isSome hsome]
    exact hhead
  · rw [Percent.bytes_append_slash]
    simp
  · rw [Percent.bytes_append_slash, Percent.bytes_encode hpercent,
      Percent.bytes_of_not_mem fun h => (hplain _ h).1 rfl, bytes, heq]
    simp
    rfl
  · rw [Url.dotless_append]
    exact and_iff_right hdotless

/-- A path is that of one site only. -/
theorem eq_of_bytes {p p' : Site} (hp : p.endpoint ∈ endpoints) (hp' : p'.endpoint ∈ endpoints)
    (h : p.bytes = p'.bytes) : p = p' := by
  have hpath : p.endpoint.toList ++ p.name = p'.endpoint.toList ++ p'.name := by
    have hread := congrArg Text.Encoding.utf8.decodeLossy h
    rw [bytes, bytes, Text.Encoding.decodeLossy_utf8, Text.Encoding.decodeLossy_utf8] at hread
    exact String.ofList_injective hread
  have hendpoint : p.endpoint = p'.endpoint := by
    obtain ⟨hlong, hnodup⟩ := fifth_of_endpoints
    refine List.inj_on_of_nodup_map hnodup hp hp' ?_
    have hfifth := congrArg (·[4]?) hpath
    simpa only [List.getElem?_append_left (hlong _ hp), List.getElem?_append_left (hlong _ hp')]
      using hfifth
  obtain ⟨e, name⟩ := p
  obtain ⟨e', name'⟩ := p'
  obtain rfl : e = e' := hendpoint
  obtain rfl : name = name' := List.append_cancel_left hpath
  rfl

end Site

namespace Resource

/-- The site that a cache of a resource is to ask at, if the resource has one of its own. -/
def site? : Resource → Option Site
  | .path .. => none
  | .entries root => some ⟨"/v1/kv/", trimRoot root⟩
  | .service name => some ⟨"/v1/catalog/service/", name.toList⟩
  | .health name _ => some ⟨"/v1/health/service/", name.toList⟩

/-- A resource whose name has no dot segments: a root is a path, and the name of a service is one
segment, whatever slashes it has. -/
def IsDotless : Resource → Prop
  | .path .. => True
  | .entries root => Url.Dotless (trimRoot root)
  | .service name | .health name _ => ¬Url.IsDots name.toList

instance : DecidablePred IsDotless
  | .path .. => inferInstanceAs (Decidable True)
  | .entries root => inferInstanceAs (Decidable (Url.Dotless (trimRoot root)))
  | .service name | .health name _ => inferInstanceAs (Decidable ¬Url.IsDots name.toList)

/-- The path that is polled is read as the site of the resource, and has dot segments just if the
name has. -/
theorem polledPath_of_site {r : Resource} {p : Site} (h : r.site? = some p) :
    p.endpoint ∈ Site.endpoints ∧
      ∃ rest, r.polledPath = String.ofList ('/' :: rest) ∧ (∀ c ∈ rest, Percent.IsPlain c) ∧
        rest.head? ≠ some '/' ∧ Percent.bytes rest ≠ [] ∧
        0x2F :: Percent.bytes rest = p.bytes ∧ (Url.Dotless rest ↔ r.IsDotless) := by
  have hsegment (name : List Char) : Url.Dotless (Percent.encode Percent.isUnreserved name) ↔
      ¬Url.IsDots name := by
    have hslash : '/' ∉ Percent.encode Percent.isUnreserved name := by
      intro hmem
      rcases Percent.mem_encode hmem with hsafe | ⟨b, hb⟩
      · cases hsafe
      · exact Url.slash_not_mem_escape b hb
    rw [Url.dotless_of_not_mem hslash]
    exact not_congr ⟨Url.isDots_of_encode, .encode rfl⟩
  cases r with
  | path => cases h
  | entries root =>
    cases h
    have he : "/v1/kv/" ∈ Site.endpoints := by decide
    have hsafe (c : Char) (hc : (Percent.isUnreserved c || c == '/') = true) :
        Percent.isUnreserved c = true ∨ c = '/' := by
      simpa using hc
    obtain ⟨rest, hpath, hplain, hhead, hsome, hbytes, hdotless⟩ :=
      Site.path_behind he hsafe (trimRoot root)
    exact ⟨he, rest, hpath, hplain, hhead, hsome, hbytes,
      hdotless.trans (Url.dotless_encode_iff rfl rfl)⟩
  | service name =>
    cases h
    have he : "/v1/catalog/service/" ∈ Site.endpoints := by decide
    obtain ⟨rest, hpath, hplain, hhead, hsome, hbytes, hdotless⟩ :=
      Site.path_behind he (fun c hc => .inl hc) name.toList
    exact ⟨he, rest, hpath, hplain, hhead, hsome, hbytes, hdotless.trans (hsegment _)⟩
  | health name passing =>
    cases h
    have he : "/v1/health/service/" ∈ Site.endpoints := by decide
    obtain ⟨rest, hpath, hplain, hhead, hsome, hbytes, hdotless⟩ :=
      Site.path_behind he (fun c hc => .inl hc) name.toList
    exact ⟨he, rest, hpath, hplain, hhead, hsome, hbytes, hdotless.trans (hsegment _)⟩

/-! ## What is sent -/

/-- A request that a cache of the resource sent, with the setup that it has. -/
structure Polled (r : Resource) (client : Client) (c : Setup) (q : Request) : Prop where
  setup : ∃ config params name b, r.setup client config params name b = .ok c
  run : ∃ as s, Cache.Run c as s ∧ .requested q ∈ s.trace

section
variable {r : Resource} {client : Client} {c : Setup} {q : Request} {p : Site}
  {rest : List Char}

/-- A session asks for a plain path below the URL of its client, and so does each attempt. -/
theorem keeps_below (hc : c.path = String.ofList ('/' :: rest))
    (hplain : ∀ c ∈ rest, Percent.IsPlain c) (hhead : rest.head? ≠ some '/') :
    c.Keeps fun _ q => ∃ u, Url.parse c.client.baseUrl.toList = .ok u ∧ u.IsNormal ∧
      q.url.path = u.below rest where
  made {session F index q} hs hq := by
    obtain ⟨u, hu, hbase⟩ := hs.base
    have hnormal : u.IsNormal := (Url.isNormal_of_parse hu).2
    obtain ⟨resolved, hresolved, hurl⟩ := Session.url_of_request hq
    rw [hc] at hresolved
    obtain ⟨hnormal', hpath⟩ := Session.path_of_resolve hnormal hbase hplain hhead hresolved
    exact ⟨u, hu, hnormal, (Url.path_of_withQuery hnormal' hurl).trans hpath⟩
  moved {index q q'} hmoved hq := by
    obtain ⟨u, hu, hnormal, hpath⟩ := hq
    have hsame : q'.url.path = q.url.path := by rw [hmoved.url]
    exact ⟨u, hu, hnormal, hsame.trans hpath⟩

/-- Every request of a cache has the parameters of a query. Its path is read as the site of the
resource below the URL of the client, unless that URL has a query or the name has dot segments that
are resolved. -/
theorem Polled.reads (h : r.Polled client c q) (hp : r.site? = some p) :
    (∃ index, c.Poses index q.fields) ∧ p.endpoint ∈ Site.endpoints ∧
      ∃ u, Url.parse client.baseUrl.toList = .ok u ∧
        (Percent.bytes q.url.path = Percent.bytes u.stem ++ p.bytes ↔
          u.query = none ∧ (u.isRooted = true → r.IsDotless)) := by
  obtain ⟨config, params, name, b, hsetup⟩ := h.setup
  obtain ⟨as, s, hrun, hq⟩ := h.run
  obtain ⟨-, -, -, hclient, hpolls, -⟩ := of_setup hsetup
  obtain ⟨hendpoint, rest, hpolled, hplain, hhead, hsome, hbytes, hdotless⟩ := polledPath_of_site hp
  obtain ⟨earlier, later, htrace⟩ := List.append_of_mem hq
  have hsuffix : .requested q :: later <:+ s.trace := ⟨earlier, htrace.symm⟩
  have hposed := (Cache.asking_of_run hrun).asked.of_suffix hsuffix q rfl
  obtain ⟨u, hu, hnormal, hpath⟩ :=
    (Cache.asking_of_keeps (keeps_below (hpolls.trans hpolled) hplain hhead) hrun).asked.of_suffix
      hsuffix q rfl
  refine ⟨⟨_, hposed.poses⟩, hendpoint, u, hclient ▸ hu, ?_⟩
  rw [hpath, ← hbytes, Url.bytes_below_iff hnormal hsome, hdotless, Option.isNone_iff_eq_none]

/-- A request of a cache has the parameters of a query, and its path is read as the site of the
resource below the URL of the client just if that URL has no query and the name has no dot segments,
or they are not resolved as nothing precedes the path. In that case no request of a cache at another
site has the same path. -/
theorem site_of_polled (h : r.Polled client c q) (hp : r.site? = some p) :
    (∃ index, c.Poses index q.fields) ∧
      ∃ u, Url.parse client.baseUrl.toList = .ok u ∧
        (Percent.bytes q.url.path = Percent.bytes u.stem ++ p.bytes ↔
          u.query = none ∧ (u.isRooted = true → r.IsDotless)) ∧
        ∀ {r' : Resource} {c' : Setup} {q' : Request} {p' : Site},
          r'.Polled client c' q' → r'.site? = some p' → u.query = none →
          (u.isRooted = true → r.IsDotless ∧ r'.IsDotless) →
          Percent.bytes q'.url.path = Percent.bytes q.url.path → p' = p := by
  obtain ⟨hposes, hendpoint, u, hu, hiff⟩ := h.reads hp
  refine ⟨hposes, u, hu, hiff, fun {r' c' q' p'} h' hp' hnone hdotless hsame => ?_⟩
  obtain ⟨-, hendpoint', u', hu', hiff'⟩ := h'.reads hp'
  obtain rfl : u' = u := Except.ok.inj (hu'.symm.trans hu)
  have hread := hiff.2 ⟨hnone, fun hrooted => (hdotless hrooted).1⟩
  have hread' := hiff'.2 ⟨hnone, fun hrooted => (hdotless hrooted).2⟩
  rw [hread, hread'] at hsame
  exact Site.eq_of_bytes hendpoint' hendpoint (List.append_cancel_left hsame)

end

/-- A cache of the entries below a root that was started. -/
def sampleStarted (root : String) : Cache :=
  Cache.after (.sampleBelow root) [.start] (Cache.create { now := 0, draws := [], policy := none })

/-- The path of the first request that it sent, if it sent one. -/
def samplePath? (root : String) : Option (List Char) :=
  (sampleStarted root).trace.findSome? fun
    | .requested q => some q.url.path
    | _ => none

/-- A request with a path of the sample is one of a cache of the entries below the root. -/
theorem polled_sample {root : String} {path : List Char} (h : samplePath? root = some path) :
    ∃ q, (Resource.entries root).Polled Setup.sample.client (.sampleBelow root) q ∧
      q.url.path = path := by
  obtain ⟨o, ho, hpath⟩ := List.exists_of_findSome?_eq_some h
  split at hpath
  next q =>
    cases hpath
    obtain ⟨as, hrun⟩ := Cache.run_after (.sampleBelow root) [.start]
      { now := 0, draws := [], policy := none }
    exact ⟨q, ⟨⟨_, _, _, _, Setup.setup_sampleBelow root⟩, as, _, hrun, ho⟩, rfl⟩
  next => cases hpath

/-- The URL of the sample client has neither a path nor a query. -/
theorem parse_sample :
    Url.parse Setup.sample.client.baseUrl.toList =
      .ok { scheme := "http".toList, userinfo := [], host := ['a'], port := some 8500, path := []
            query := none, fragment := none } := by
  decide +kernel

/-- A space and a question mark in a root are read as they were, and a slash before it makes no
difference. -/
theorem site_of_polled_sample : ∃ q q',
    (entries "/a b?").Polled Setup.sample.client (.sampleBelow "/a b?") q ∧
      (entries "a b?").Polled Setup.sample.client (.sampleBelow "a b?") q' ∧
      Percent.bytes q.url.path = "/v1/kv/a b?".toUTF8.toList ∧
      (⟨"/v1/kv/", trimRoot "a b?"⟩ : Site) = ⟨"/v1/kv/", trimRoot "/a b?"⟩ := by
  let path := "/v1/kv/a%20b%3F".toList
  have hsent : samplePath? "/a b?" = some path := by decide +kernel
  have hsent' : samplePath? "a b?" = some path := by decide +kernel
  obtain ⟨q, hq, hpath⟩ := polled_sample hsent
  obtain ⟨q', hq', hpath'⟩ := polled_sample hsent'
  obtain ⟨-, u, hu, hiff, hsame⟩ := site_of_polled hq rfl
  obtain rfl := Except.ok.inj (hu.symm.trans parse_sample)
  refine ⟨q, q', hq, hq', ?_, ?_⟩
  · exact (hiff.2 ⟨rfl, fun _ => by decide +kernel⟩).trans (by decide +kernel)
  · exact hsame hq' rfl rfl (fun _ => by decide +kernel) (by rw [hpath, hpath'])

/-- Whatever name it has, a resource is asked for at its site. -/
def AsksAtSite (r : Resource) : Prop :=
  ∀ {client : Client} {c : Setup} {q : Request} {p : Site} {u : Url},
    r.Polled client c q → r.site? = some p → Url.parse client.baseUrl.toList = .ok u →
    Percent.bytes q.url.path = Percent.bytes u.stem ++ p.bytes

/-- The entries below `../catalog/services` are asked for at the list of services. -/
theorem not_asksAtSite_of_dots : ¬AsksAtSite (entries "../catalog/services") := by
  have hsent : samplePath? "../catalog/services" = some "/v1/catalog/services".toList := by
    decide +kernel
  obtain ⟨q, hq, hpath⟩ := polled_sample hsent
  intro hasks
  have hread := hasks hq rfl parse_sample
  rw [hpath] at hread
  revert hread
  decide +kernel

end Resource

end BlockingQuery
