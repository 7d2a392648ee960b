import BlockingQuery.Proofs.Failover.Choice

/-!
# Retargeting

A request that is sent to a target has the target's host and port in its URL, brought into normal
form, and need not lead back to the target: `Request.LeadsTo` says that it does. All parts of the
URL are checked for that, not only those that are replaced (`Url.rebuild_eq_ok_iff`). The candidates
of a strategy survive retargeting (`Request.Survive`) when all the requests that a cycle may come to
(`Request.Sent`) lead to the candidates that they are sent to. Where a request leads is decided by
the host and the port in its URL and by the scheme, which stays, so sending it there once more
makes no difference (`Request.ofUrl_retarget_twice`).
-/

namespace BlockingQuery

/-! ## URLs with another endpoint -/

/-- The normal form of parts has the normal forms of the scheme, the host and the port. -/
theorem Url.ofParts_eq_ok {p : Parts} {u : Url} (h : ofParts p = .ok u) :
    normalHost p.host = .ok u.host ∧ normalPort p.scheme p.port = .ok u.port ∧
      u.scheme = p.scheme.map Char.toLower := by
  unfold ofParts at h
  cases hhost : normalHost p.host with
  | error f => simp [hhost, bind, Except.bind] at h
  | ok host =>
    cases hport : normalPort p.scheme p.port with
    | error f => simp [hhost, hport, bind, Except.bind] at h
    | ok port =>
      simp only [hhost, hport, bind, Except.bind, pure, Except.pure] at h
      split at h
      · cases h
      · cases h
        exact ⟨rfl, rfl, rfl⟩

/-- A text that a part of a URL may be: not too long, and without control characters. -/
def Url.Fits (cs : List Char) : Prop :=
  cs.length ≤ lengthLimit ∧ cs.any isControl = false

instance (cs : List Char) : Decidable (Url.Fits cs) :=
  inferInstanceAs (Decidable (_ ∧ _))

/-- The authority of a URL that may stand beside parts that are replaced: none of its characters
ends it. -/
def Url.AuthorityFits (u : Url) : Prop :=
  Fits u.authority ∧ (u.authority.any fun c => c == '/' || c == '?' || c == '#') = false

instance (u : Url) : Decidable u.AuthorityFits :=
  inferInstanceAs (Decidable (_ ∧ _))

/-- A text passes the check just if it fits. -/
theorem Url.check_eq_ok_iff {cs : List Char} : check cs = .ok () ↔ Fits cs := by
  unfold check Fits
  split
  next hlong =>
    exact ⟨nofun, fun h => absurd h.1 (Nat.not_le.2 hlong)⟩
  next hshort =>
    rw [and_iff_right (Nat.not_lt.1 hshort)]
    split
    next c hc =>
      refine ⟨nofun, fun h => ?_⟩
      exact absurd (List.find?_some hc) (List.any_eq_false.1 h c (List.mem_of_find?_eq_some hc))
    next hnone =>
      refine iff_of_true rfl (List.any_eq_false.2 fun c hc => ?_)
      exact List.find?_eq_none.1 hnone c hc

section
variable {u v : Url} {change : Url.Parts → Url.Parts}

/-- A URL with parts replaced is the normal form of these parts, if the authority and the parts
fit. -/
theorem Url.rebuild_eq_ok_iff :
    u.rebuild change = .ok v ↔ u.AuthorityFits ∧ Fits (change u.parts).path ∧
      Fits ((change u.parts).query.getD []) ∧ Fits ((change u.parts).fragment.getD []) ∧
      Fits (change u.parts).host ∧ ofParts (change u.parts) = .ok v := by
  have hbind (cs : List Char) (rest : Except Fault Url) :
      (check cs >>= fun _ => rest) = .ok v ↔ Fits cs ∧ rest = .ok v := by
    rw [← check_eq_ok_iff]
    cases check cs <;> simp [bind, Except.bind]
  unfold AuthorityFits rebuild
  dsimp only
  rw [hbind, and_assoc]
  refine and_congr_right fun _ => ?_
  split
  next hany => simp [hany, bind, Except.bind]
  next hany =>
    rw [and_iff_right (by simpa using hany)]
    simp only [hbind]

/-- URLs with the same parts in place of theirs are the same, if the authorities of both fit. -/
theorem Url.rebuild_congr (hu : u.AuthorityFits) (hv : v.AuthorityFits)
    (h : change u.parts = change v.parts) : u.rebuild change = v.rebuild change := by
  simp only [rebuild, check_eq_ok_iff.2 hu.1, hu.2, check_eq_ok_iff.2 hv.1, hv.2, h]

/-- A URL with parts replaced is the normal form of these parts. -/
theorem Url.rebuild_eq_ok (h : u.rebuild change = .ok v) : ofParts (change u.parts) = .ok v :=
  (rebuild_eq_ok_iff.1 h).2.2.2.2.2

end

/-- A URL with another endpoint has that host and port, and the scheme that it had. -/
theorem Url.withEndpoint_eq_ok {u v : Url} {host : List Char} {port : Int}
    (h : u.withEndpoint host port = .ok v) :
    normalHost (bracketed host) = .ok v.host ∧
      normalPort u.scheme (Text.decimal port) = .ok v.port ∧ v.scheme = u.scheme.map Char.toLower :=
  ofParts_eq_ok (rebuild_eq_ok h)

/-- The target that a URL leads to is decided by its host, its port and its scheme. -/
theorem Target.ofUrl_congr {u v : Url} {t : Target} (hhost : v.host = u.host)
    (hport : v.port = u.port) (hscheme : v.scheme = u.scheme) (h : ofUrl u = .ok t) :
    ofUrl v = .ok t := by
  have hname : v.hostName = u.hostName := by rw [Url.hostName, hhost]; rfl
  unfold ofUrl ofShownUrl at h ⊢
  rw [hname, hport, hscheme]
  cases hu : u.hostName with
  | error f => rw [hu] at h; cases h
  | ok host =>
    rw [hu] at h
    by_cases hempty : host.isEmpty = true
    · simp [hempty] at h
    · simpa [hempty] using h

/-! ## Requests that are sent to other targets -/

namespace Request

/-- The requests that a cycle may come to: the given one, and each of them sent to a candidate. -/
inductive Sent (ts : List Target) (r : Request) : Request → Prop
  | given : Sent ts r r
  | retargeted {q q' : Request} {t : Target} :
    Sent ts r q → t ∈ ts → q.retarget t = .ok q' → Sent ts r q'

/-- The request can be sent to the target, and leads there. -/
def LeadsTo (r : Request) (t : Target) : Prop :=
  ∃ q, r.retarget t = .ok q ∧ Target.ofUrl q.url = .ok t

/-- The candidates survive retargeting: whatever request of a cycle is sent to another target, it
leads there. -/
def Survive (ts : List Target) (r : Request) : Prop :=
  ∀ q here, Sent ts r q → Target.ofUrl q.url = .ok here → ∀ t ∈ ts, t ≠ here → q.LeadsTo t

/-- The attempt at a candidate that survives retargeting goes to that candidate. -/
theorem stage_of_survive {ts : List Target} {r q : Request} {here t : Target} (h : Survive ts r)
    (hq : Sent ts r q) (hhere : Target.ofUrl q.url = .ok here) (ht : t ∈ here :: ts) :
    ∃ q', q.stage here t = .ok (q', t) ∧ Sent ts r q' ∧ Target.ofUrl q'.url = .ok t := by
  unfold stage
  by_cases hth : t = here
  · exact ⟨q, if_pos hth, hq, hth ▸ hhere⟩
  · have hmem : t ∈ ts := (List.mem_cons.1 ht).resolve_left hth
    obtain ⟨q', hq', ht'⟩ := h q here hq hhere t hmem hth
    exact ⟨q', by rw [if_neg hth, hq']; simp only [ht'], .retargeted hq hmem hq', ht'⟩

variable {r q q' : Request} {t u : Target} {ts : List Target}

/-- A request is sent to a target if its URL can be moved there. -/
theorem retarget_eq_ok_iff : r.retarget t = .ok q ↔
    ∃ url, r.url.withEndpoint t.host.toList t.port = .ok url ∧
      q = { r with url, headers := r.headers.set "Host" (String.ofList url.endpoint) } := by
  unfold retarget
  cases r.url.withEndpoint t.host.toList t.port with
  | error f => simp [bind, Except.bind]
  | ok url => simp [bind, Except.bind, pure, Except.pure, eq_comm]

/-- A request that was sent to another target has the URL with the endpoint of that one. -/
theorem retarget_eq_ok (h : r.retarget t = .ok q) :
    r.url.withEndpoint t.host.toList t.port = .ok q.url := by
  obtain ⟨url, hurl, rfl⟩ := retarget_eq_ok_iff.1 h
  exact hurl

/-- A scheme in small letters is the scheme of all requests of a cycle. -/
theorem Sent.scheme (h : r.Sent ts q) (hr : r.url.scheme.map Char.toLower = r.url.scheme) :
    q.url.scheme = r.url.scheme := by
  induction h with
  | given => rfl
  | retargeted _ _ hq ih => rw [(Url.withEndpoint_eq_ok (retarget_eq_ok hq)).2.2, ih, hr]

/-- What may come of a request that a cycle may come to may come of the cycle. -/
theorem Sent.trans (h : r.Sent ts q) (k : q.Sent ts q') : r.Sent ts q' := by
  induction k with
  | given => exact h
  | retargeted _ ht hq ih => exact .retargeted ih ht hq

/-- An attempt at another target goes where the request leads when it was sent there. -/
theorem stage_eq_ok (hne : t ≠ u) {v : Target} (h : r.stage u t = .ok (q, v)) :
    r.retarget t = .ok q ∧ Target.ofUrl q.url = .ok v := by
  rw [stage, if_neg hne] at h
  cases hq : r.retarget t with
  | error f => simp [hq] at h
  | ok q' =>
    cases hv : Target.ofUrl q'.url with
    | error f => simp [hq, hv] at h
    | ok v' =>
      simp only [hq, hv] at h
      cases h
      exact ⟨rfl, hv⟩

/-- A request that is sent to the same target twice leads to the same place. -/
theorem ofUrl_retarget_twice (hscheme : r.url.scheme.map Char.toLower = r.url.scheme)
    (hq : r.retarget t = .ok q) (hq' : q.retarget t = .ok q') (h : Target.ofUrl q.url = .ok u) :
    Target.ofUrl q'.url = .ok u := by
  obtain ⟨hhost, hport, hs⟩ := Url.withEndpoint_eq_ok (retarget_eq_ok hq)
  obtain ⟨hhost', hport', hs'⟩ := Url.withEndpoint_eq_ok (retarget_eq_ok hq')
  rw [hs, hscheme] at hport' hs'
  rw [hscheme] at hs
  refine Target.ofUrl_congr (Except.ok.inj (hhost'.symm.trans hhost))
    (Except.ok.inj (hport'.symm.trans hport)) ?_ h
  rw [hs', hs, hscheme]

end Request

end BlockingQuery
