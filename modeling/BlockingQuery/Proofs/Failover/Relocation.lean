import BlockingQuery.Proofs.Failover.Attempts
import BlockingQuery.Proofs.Http.Host
import BlockingQuery.Proofs.Target

/-!
# Requests that reach a target

A request that is sent to a target leads there (`Request.Reaches`), when a URL keeps the host of the
target: the port that is left out for a scheme is the one that the scheme stands for
(`Url.normalPort_decimal`), so it comes back when the URL is read (`Target.ofUrl_movedTo`).
Everything else stays, and sending the request on to another target is the same as sending it there
at first.

Not every request can be sent (`Request.retarget_reaches`). What stays of the URL is checked once
more, now that it is in normal form, and escapes make a path longer: a URL may be read and yet have
a path that is too long for another URL (`Request.not_reachesAll_of_escapes`).
-/

namespace BlockingQuery

open Text

/-! ## URLs that are moved -/

namespace Url

/-- What stays of a URL that is moved may stand in a URL. -/
structure IsMovable (u : Url) : Prop where
  authority : u.AuthorityFits
  path : Fits u.path
  query : Fits (u.query.getD [])
  fragment : Fits (u.fragment.getD [])
  rooted : u.path = [] ∨ u.path.head? = some '/'

/-- A URL of one of the two schemes that requests have. -/
def IsWeb (u : Url) : Prop :=
  u.scheme = "http".toList ∨ u.scheme = "https".toList

/-- The port as it stands in a URL of a scheme. -/
def shownPort (scheme : List Char) (n : Int) : Option Int :=
  if Target.schemePort scheme = n then none else some n

/-- The URL with the host and the port of a target. -/
def movedTo (u : Url) (t : Target) : Url :=
  { u with host := t.host.toList, port := shownPort u.scheme t.port }

variable {u v : Url} {t : Target}

/-- The default port of a scheme is left out. -/
theorem normalPort_decimal {n : Int} (hu : u.IsWeb) (h0 : 0 < n) (h1 : n < 65536) :
    normalPort u.scheme (decimal n) = .ok (shownPort u.scheme n) := by
  obtain ⟨⟨hread, -⟩, hne, -⟩ := Target.decimal_port h0 h1
  have hlookup : defaultPorts.lookup (String.ofList u.scheme) =
      some (Target.schemePort u.scheme) := by
    rcases hu with h | h <;> rw [h] <;> decide +kernel
  rw [normalPort, if_neg (by simpa using hne), hread, hlookup, shownPort]
  simp

/-- A path may stand behind an authority if it is empty or begins with a slash. -/
theorem checkPath_eq_ok_iff (hasScheme : Bool) {path : List Char} :
    checkPath hasScheme true path = .ok () ↔ path = [] ∨ path.head? = some '/' := by
  unfold checkPath
  cases path with
  | nil => simp
  | cons c path => by_cases hc : c = '/' <;> simp [hc]

/-- Parts have a normal form if their host and their port do, and the path fits them. -/
theorem exists_ofParts_iff {p : Parts} {host : List Char} {port : Option Int}
    (hhost : normalHost p.host = .ok host) (hne : host ≠ [])
    (hport : normalPort p.scheme p.port = .ok port) :
    (∃ v, ofParts p = .ok v) ↔ p.path = [] ∨ p.path.head? = some '/' := by
  have hsome : host.isEmpty = false := List.isEmpty_eq_false_iff.2 hne
  rw [← checkPath_eq_ok_iff (!(p.scheme.map Char.toLower).isEmpty)]
  simp only [ofParts, hhost, hport, hsome, bind, Except.bind, pure, Except.pure, Bool.not_false,
    Bool.or_true, Bool.true_or]
  split
  next hf => exact ⟨nofun, fun hok => by cases hf.symm.trans hok⟩
  next hok => exact ⟨fun _ => hok, fun _ => ⟨_, rfl⟩⟩

/-- A URL can be moved to a host that a URL keeps if what stays is movable and the host fits. It is
the same URL then, but for the host and the port. -/
theorem withEndpoint_eq_ok_iff (hu : u.IsSettled) (hweb : u.IsWeb) (hhost : IsKept t.host.toList)
    (h0 : 0 < t.port) (h1 : t.port < 65536) :
    u.withEndpoint t.host.toList t.port = .ok v ↔
      (u.IsMovable ∧ Fits (bracketed t.host.toList)) ∧ v = u.movedTo t := by
  have hport := normalPort_decimal hweb h0 h1
  have hexists := exists_ofParts_iff
    (p := { u.parts with host := bracketed t.host.toList, port := decimal t.port })
    hhost.normalHost_eq hhost.ne_nil hport
  have hmoved (v : Url) (h : u.withEndpoint t.host.toList t.port = .ok v) : v = u.movedTo t := by
    obtain ⟨hhost', hport', -⟩ := withEndpoint_eq_ok h
    have hv : u.Moved v := hu.moved_withEndpoint h
    rw [Moved, ← Except.ok.inj (hhost.normalHost_eq.symm.trans hhost'),
      ← Except.ok.inj (hport.symm.trans hport')] at hv
    exact hv
  constructor
  · intro h
    obtain ⟨hauthority, hpath, hquery, hfragment, hfits, hparts⟩ := rebuild_eq_ok_iff.1 h
    exact ⟨⟨⟨hauthority, hpath, hquery, hfragment, hexists.1 ⟨v, hparts⟩⟩, hfits⟩, hmoved v h⟩
  · rintro ⟨⟨h, hfits⟩, rfl⟩
    obtain ⟨v, hparts⟩ := hexists.2 h.rooted
    have hv : u.withEndpoint t.host.toList t.port = .ok v :=
      rebuild_eq_ok_iff.2 ⟨h.authority, h.path, h.query, h.fragment, hfits, hparts⟩
    rw [hv, hmoved v hv]

end Url

/-- A URL that was moved to a target leads there: what the port leaves out, the scheme says. -/
theorem Target.ofUrl_movedTo {u : Url} {t : Target} (hhost : Url.IsKept t.host.toList)
    (h0 : 0 < t.port) : ofUrl (u.movedTo t) = .ok t := by
  have hname : (u.movedTo t).hostName = .ok t.host.toList := Url.IsKept.hostName_eq hhost
  have hne : t.host.toList.isEmpty = false := List.isEmpty_eq_false_iff.2 hhost.ne_nil
  unfold ofUrl ofShownUrl
  rw [hname]
  simp only [hne, Bool.false_eq_true, if_false, String.ofList_toList]
  unfold Url.movedTo Url.shownPort
  by_cases hdefault : schemePort u.scheme = t.port
  · simp only [hdefault, if_true]
  · simp only [hdefault, h0.ne', if_false]

/-! ## Requests that are moved -/

namespace Request

/-- `q` is `r` at the target. It leads there, and beside the URL and the one `Host` field, which
names the host and the port of the URL, it is `r`. -/
structure Reaches (r : Request) (t : Target) (q : Request) : Prop where
  leads : Target.ofUrl q.url = .ok t
  url : q.url = r.url.movedTo t
  method : q.method = r.method
  body : q.body = r.body
  timeouts : q.timeouts = r.timeouts
  headers : q.headers.without "Host" = r.headers.without "Host"
  host : (q.headers.filter fun h => Headers.sameName h.1 "Host") =
    [("Host", String.ofList q.url.endpoint)]

variable {r q : Request} {t : Target}

/-- Nothing of the target before is left when a request is sent on. -/
theorem retarget_twice {url : Url} (value : String) (hmoved : r.url.Moved url)
    (hr : r.url.AuthorityFits) (hurl : url.AuthorityFits) (u : Target) :
    retarget { r with url, headers := r.headers.set "Host" value } u = r.retarget u := by
  have hsame : url.withEndpoint u.host.toList u.port = r.url.withEndpoint u.host.toList u.port := by
    refine Url.rebuild_congr hurl hr ?_
    rw [hmoved]
    rfl
  unfold retarget
  dsimp only
  rw [hsame]
  simp only [Headers.set_set]

/-- A request can be sent to a target whose host a URL keeps just if what stays of its URL and the
host fit. Then it is the same request at the target, which leads there. Sending it on is sending it
there at first, unless its authority no longer fits. -/
theorem retarget_reaches (hr : r.url.IsNormal) (hweb : r.url.IsWeb)
    (hhost : Url.IsKept t.host.toList) (h0 : 0 < t.port) (h1 : t.port < 65536) :
    ((∃ q, r.retarget t = .ok q) ↔
        r.url.IsMovable ∧ Url.Fits (Url.bracketed t.host.toList)) ∧
      ∀ q, r.retarget t = .ok q → r.Reaches t q ∧
        (q.url.AuthorityFits → ∀ u, q.retarget u = r.retarget u) ∧
        (¬q.url.AuthorityFits → ∀ u q', q.retarget u ≠ .ok q') := by
  have hsettled : r.url.IsSettled := by
    refine hr.isSettled (.inl ?_)
    rcases hweb with h | h <;> rw [h] <;> simp
  have hmoves (url : Url) := Url.withEndpoint_eq_ok_iff (v := url) hsettled hweb hhost h0 h1
  constructor
  · constructor
    · rintro ⟨q, hq⟩
      obtain ⟨url, hurl, -⟩ := retarget_eq_ok_iff.1 hq
      exact ((hmoves url).1 hurl).1
    · intro hfits
      exact ⟨_, retarget_eq_ok_iff.2 ⟨_, (hmoves _).2 ⟨hfits, rfl⟩, rfl⟩⟩
  · intro q hq
    obtain ⟨url, hurl, rfl⟩ := retarget_eq_ok_iff.1 hq
    obtain ⟨⟨hmovable, -⟩, rfl⟩ := (hmoves url).1 hurl
    refine ⟨?_, fun hfits => ?_, fun hfits u q' hq' => ?_⟩
    · exact {
        leads := Target.ofUrl_movedTo hhost h0
        url := rfl
        method := rfl
        body := rfl
        timeouts := rfl
        headers := Headers.without_set ..
        host := Headers.filter_set .. }
    · exact retarget_twice _ rfl hmovable.authority hfits
    · obtain ⟨url, hurl, -⟩ := retarget_eq_ok_iff.1 hq'
      exact hfits (Url.rebuild_eq_ok_iff.1 hurl).1

/-- A request to an address, the port of which goes without saying. -/
theorem retarget_reaches_sample :
    ∃ q, (Request.sample "a").retarget ⟨"::1", 80⟩ = .ok q ∧ q.host? = some "[::1]" ∧
      Target.ofUrl q.url = .ok ⟨"::1", 80⟩ := by
  have hnormal : (Request.sample "a").url.IsNormal :=
    ⟨{ scheme := "http".toList, userinfo := [], host := "a".toList, port := "8500".toList,
       path := "/v1/kv/sample".toList, query := none, fragment := none }, by decide +kernel⟩
  have hmovable : (Request.sample "a").url.IsMovable :=
    ⟨by decide +kernel, by decide +kernel, by decide +kernel, by decide +kernel, .inr rfl⟩
  obtain ⟨hsent, hreaches⟩ := retarget_reaches (t := ⟨"::1", 80⟩) hnormal (.inl rfl)
    (.ipv6 (by decide +kernel)) (by decide) (by decide)
  obtain ⟨q, hq⟩ := hsent.2 ⟨hmovable, by decide +kernel⟩
  have h := (hreaches q hq).1
  have hhost : q.host? = some "[::1]" := by
    rw [host?, Headers.get?, h.host, h.url]
    decide +kernel
  exact ⟨q, hq, hhost, h.leads⟩

/-! ### A request that cannot be sent -/

/-- Every request can be sent to every target whose host a URL keeps, and sending it on is sending
it there at first. -/
def ReachesAll : Prop :=
  ∀ (r : Request) (t : Target) (cs : List Char), Url.parse cs = .ok r.url → r.url.IsWeb →
    Url.IsKept t.host.toList → 0 < t.port → t.port < 65536 →
      ∃ q, r.retarget t = .ok q ∧ r.Reaches t q ∧ ∀ u, q.retarget u = r.retarget u

/-- A URL with a path of characters that cannot stand in a path. -/
def unescaped (n : Nat) : List Char :=
  "http://a:8500/".toList ++ List.replicate n '<'

/-- The URL is taken apart into a host, a port and a path of characters that are to be escaped. -/
theorem split_unescaped (n : Nat) : Url.split (unescaped n) =
    { scheme := "http".toList, userinfo := [], host := "a".toList, port := "8500".toList
      path := '/' :: List.replicate n '<', query := none, fragment := none } := by
  have hscheme : Url.splitScheme (unescaped n) =
      ("http".toList, "//a:8500/".toList ++ List.replicate n '<') := by
    rfl
  have hauthority : Url.splitAuthority ("//a:8500/".toList ++ List.replicate n '<') =
      ("a:8500".toList, '/' :: List.replicate n '<') := by
    rfl
  have hnone (mark : Char) (hmark : mark ≠ '/' ∧ mark ≠ '<') :
      Url.cut (· == mark) ('/' :: List.replicate n '<') = ('/' :: List.replicate n '<', none) := by
    refine Url.cut_of_not_mem ?_
    simp [hmark]
  rw [Url.split, hscheme]
  dsimp only
  rw [hauthority]
  dsimp only
  rw [hnone '#' (by decide)]
  dsimp only
  rw [hnone '?' (by decide)]
  rfl

/-- Each of the characters takes three when it is escaped. -/
theorem length_escapes (n : Nat) :
    (Percent.encode Url.isPathSafe ('/' :: List.replicate n '<')).length = 3 * n + 1 := by
  have hescape : (String.utf8EncodeChar '<').flatMap Percent.escape = ['%', '3', 'C'] := by
    decide +kernel
  have hencode : Percent.encode Url.isPathSafe (List.replicate n '<') =
      (List.replicate n ['%', '3', 'C']).flatten := by
    rw [Percent.encode, List.flatMap_replicate, ← hescape]
    rfl
  have hslash : Percent.encode Url.isPathSafe ('/' :: List.replicate n '<') =
      '/' :: Percent.encode Url.isPathSafe (List.replicate n '<') := by
    rfl
  rw [hslash, hencode, List.length_cons, List.length_flatten, List.map_replicate,
    List.sum_replicate]
  exact congrArg (· + 1) (Nat.mul_comm n 3)

/-- The URL is read with escapes in place of the characters. -/
theorem parse_unescaped {n : Nat} (h : n + 14 ≤ Url.lengthLimit) :
    ∃ u, Url.parse (unescaped n) = .ok u ∧ u.IsWeb ∧ u.path.length = 3 * n + 1 := by
  have hcheck : Url.check (unescaped n) = .ok () := by
    have hlength : (unescaped n).length = n + 14 := by
      have hfront : "http://a:8500/".toList.length = 14 := by rfl
      unfold unescaped
      rw [List.length_append, hfront, List.length_replicate]
      exact Nat.add_comm 14 n
    rw [← hlength] at h
    have hplain : (unescaped n).any Url.isControl = false := by
      have hfront : "http://a:8500/".toList.any Url.isControl = false := by rfl
      unfold unescaped
      rw [List.any_append, hfront, List.any_replicate]
      split <;> rfl
    exact Url.check_eq_ok_iff.2 ⟨h, hplain⟩
  have hhost : Url.normalHost "a".toList = .ok "a".toList := by decide +kernel
  have hport : Url.normalPort "http".toList "8500".toList = .ok (some 8500) := by decide +kernel
  obtain ⟨u, hu⟩ : ∃ u, Url.ofParts (Url.split (unescaped n)) = .ok u := by
    rw [split_unescaped]
    exact (Url.exists_ofParts_iff hhost (by decide) hport).2 (.inr rfl)
  have hparse : Url.parse (unescaped n) = .ok u := by
    simp only [Url.parse, hcheck, bind, Except.bind, hu]
  rw [split_unescaped] at hu
  have hscheme : u.scheme = "http".toList := (Url.ofParts_eq_ok hu).2.2
  have hdotless : Url.Dotless ('/' :: List.replicate n '<') := by
    have hslash : '/' ∉ List.replicate n '<' := by simp
    refine Url.dotless_append.2 ⟨Url.dotless_nil, (Url.dotless_of_not_mem hslash).2 fun hdots => ?_⟩
    have hdot : '.' ∈ List.replicate n '<' := by
      rcases hdots with heq | heq <;> rw [heq] <;> simp
    cases List.eq_of_mem_replicate hdot
  have hpath : u.path = Percent.encode Url.isPathSafe ('/' :: List.replicate n '<') := by
    obtain ⟨-, -, -, hpath⟩ := Url.parts_of_ofParts hu
    rwa [Url.resolveDots_of_dotless hdotless, ite_self] at hpath
  refine ⟨u, hparse, .inl hscheme, ?_⟩
  rw [hpath, length_escapes]

/-- A URL whose escapes are too many for another URL cannot be moved. -/
theorem not_reachesAll_of_escapes : ¬ReachesAll := by
  intro h
  obtain ⟨u, hu, hweb, hlength⟩ := parse_unescaped (n := 21846) (by decide)
  obtain ⟨q, hq, -⟩ := h { sample "a" with url := u } ⟨"b", 8500⟩ _ hu hweb
    (.name ⟨by decide, by decide, by decide, by decide⟩) (by decide) (by decide)
  obtain ⟨url, hurl, -⟩ := retarget_eq_ok_iff.1 hq
  have hfits : u.path.length ≤ Url.lengthLimit := (Url.rebuild_eq_ok_iff.1 hurl).2.1.1
  rw [hlength] at hfits
  exact absurd hfits (by decide)

end Request

end BlockingQuery
