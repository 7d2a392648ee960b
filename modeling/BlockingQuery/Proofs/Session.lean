import BlockingQuery.Proofs.Answer
import BlockingQuery.Proofs.Cache.Quiet
import BlockingQuery.Proofs.Target
import Mathlib.Data.List.TakeWhile

/-!
# What a session hears

A session takes up a response if it can tell what cookies the response sets: the URL that was asked
begins with a scheme, and every cookie can be decided on (`Session.TakesUp`). That is so for any
response to a URL that names a scheme and a server (`Session.takesUp_of_names`). What the session
then hears is the answer that the response counts as, and nothing if it counts as none
(`Session.heard?_eq_some_iff`).
-/

namespace BlockingQuery

open Failover

namespace Exchange

/-- The response that comes in when the transport has one. -/
def responded (x : Exchange) (status : Int) (headers : Headers) (body : List UInt8) : Response where
  status := status
  headers := headers
  body := body
  url := some x.asked
  servedBy := x.servedBy

/-- An exchange is answered only if the transport has a response. -/
theorem response_of_answered {now : Float} {policy : Option (Policy Float)} {x : Exchange}
    {outcome : Outcome} {r : Response} (h : (x.receive now policy outcome).1 = .answered r) :
    ∃ status headers body, outcome = .response status headers body := by
  have hproceed (p : Policy Float) (c : Cycle) (fault : TransportFault × String) :
      (proceed now p x c fault).1 ≠ .answered r := by
    unfold proceed
    dsimp only
    split
    next => simp
    next q t p _ =>
      have hstart := Cache.start_ne_answered now (some p) c.below q r
      split
      next => simp
      next => exact hstart
  cases outcome with
  | response status headers body => exact ⟨status, headers, body, rfl⟩
  | raised f =>
    cases f with
    | transport fault text =>
      unfold receive at h
      dsimp only at h
      split at h
      next p c _ =>
        split at h
        next => cases h
        next q _ => exact absurd h (hproceed q c (fault, text))
      next => cases h
    | _ => cases h

end Exchange

/-! ## Cookies -/

namespace Url

/-- A URL names how and where to ask: a scheme, which has none of the marks that stand behind one,
and a server. -/
structure Names (u : Url) : Prop where
  scheme : u.scheme ≠ []
  plain : ∀ c ∈ u.scheme, c ≠ '/' ∧ c ≠ ':' ∧ c ≠ '#'
  server : u.authority ≠ []

/-- The text of a URL with a scheme begins with that. -/
theorem toChars_of_scheme {u : Url} (h : u.scheme ≠ []) :
    ∃ rest, u.toChars = u.scheme ++ ':' :: rest := by
  rw [toChars, if_neg (by simpa using h)]
  simp only [List.append_assoc, List.cons_append, List.nil_append]
  exact ⟨_, rfl⟩

end Url

namespace Session

/-- A text that begins with a scheme and a colon. -/
theorem beginsWithScheme_append {scheme : List Char} (hne : scheme ≠ [])
    (h : ∀ c ∈ scheme, c ≠ '/' ∧ c ≠ ':') (rest : List Char) :
    beginsWithScheme (scheme ++ ':' :: rest) = true := by
  have hplain : ∀ c ∈ scheme, (!(c == '/' || c == ':')) = true := fun c hc => by
    simpa using h c hc
  have hcut : Url.cut (fun c => c == '/' || c == ':') (scheme ++ ':' :: rest) =
      (scheme, some rest) := by
    rw [Url.cut, List.dropWhile_append_of_pos hplain, List.takeWhile_append_of_pos hplain]
    simp
  unfold beginsWithScheme
  rw [hcut]
  cases scheme with
  | nil => exact absurd rfl hne
  | cons c cs => simp

/-- A URL that names a scheme is not refused. -/
theorem checkScheme_of_names {u : Url} (h : u.Names) : checkScheme u = .ok () := by
  obtain ⟨rest, hshown⟩ := Url.toChars_of_scheme h.scheme
  have hbegins := beginsWithScheme_append h.scheme fun c hc =>
    ⟨(h.plain c hc).1, (h.plain c hc).2.1⟩
  unfold checkScheme
  rw [hshown]
  rcases Url.cutLast_cases '#' (u.scheme ++ ':' :: rest) with
    ⟨-, hcut⟩ | ⟨whole, fragment, heq, hfragment, hcut⟩
  · simp only [hcut, hbegins, if_true]
  · -- The fragment stands behind the scheme, which has no number sign.
    obtain ⟨before, hbefore⟩ : ∃ before, whole = u.scheme ++ ':' :: before := by
      have hcolon : '#' ∉ u.scheme ++ [':'] := by
        simp only [List.mem_append, List.mem_singleton, not_or]
        exact ⟨fun hmem => (h.plain _ hmem).2.2 rfl, by decide⟩
      have heq' : (u.scheme ++ [':']) ++ rest = whole ++ '#' :: fragment := by
        rw [← heq, List.append_assoc, List.singleton_append]
      rcases List.append_eq_append_iff.1 heq' with ⟨before, hwhole, -⟩ | ⟨after, hscheme, hrest⟩
      · exact ⟨before, by rw [hwhole, List.append_assoc, List.singleton_append]⟩
      · cases after with
        | nil => exact ⟨[], by rw [hscheme, List.append_nil]⟩
        | cons c after =>
          obtain ⟨rfl, -⟩ := List.cons.inj hrest
          exact absurd (hscheme ▸ List.mem_append_right whole List.mem_cons_self) hcolon
    simp only [hcut, hbefore, hbegins, if_true]

/-- Every cookie of a response from a server can be decided on. -/
theorem receive_of_authority {u : Url} (h : u.authority ≠ []) (headers : Headers)
    (jar : CookieJar) : (jar.receive u headers).1 = true := by
  have hdecided (o : Cookie.Offer) : o.isUndecided u = false := by
    rw [Cookie.Offer.isUndecided, List.isEmpty_eq_false_iff.2 h, Bool.and_false]
  have hall (os : List Cookie.Offer) : os.takeWhile (fun o => !o.isUndecided u) = os :=
    List.takeWhile_eq_self_iff.2 fun o _ => by rw [hdecided, Bool.not_false]
  unfold CookieJar.receive
  dsimp only
  split
  next => rfl
  next => simp [hall]

variable {session : Session} {r : Response} {a : Answer}

/-- A session can tell what cookies a response sets. -/
def TakesUp (session : Session) (r : Response) : Prop :=
  ∀ asked, r.url = some asked →
    checkScheme asked = .ok () ∧ (session.cookies.receive asked r.headers).1 = true

/-- A session can take up a response if the URL that was asked names a scheme and a server. -/
theorem takesUp_of_names (h : ∀ asked, r.url = some asked → asked.Names) : session.TakesUp r :=
  fun asked hasked =>
    ⟨checkScheme_of_names (h asked hasked), receive_of_authority (h asked hasked).server ..⟩

/-- A response that does not send the client on is not refused for where it might. -/
theorem checkRedirection_of_not_mem (session : Session) (asked : Url)
    (h : r.status ∉ redirects) : session.checkRedirection asked r = .ok () := by
  unfold checkRedirection
  cases r.headers.get? "Location" with
  | none => rfl
  | some location =>
    dsimp only
    rw [if_neg (by simpa using h)]
    rfl

/-! ## Answers -/

/-- What counts as an answer does not send the client on. -/
theorem not_mem_redirects_of_counts (h : Answer.Counts r a) : r.status ∉ redirects := by
  have hstatus : r.status = 404 ∨ r.Succeeds := by
    cases h with
    | missing _ _ hmissing => exact .inl hmissing
    | listed _ _ hok => exact .inr hok
  intro hmem
  simp only [redirects, List.mem_cons, List.not_mem_nil, or_false] at hmem
  rcases hstatus with hmissing | ⟨hlow, hhigh⟩ <;> omega

/-- What a session reads in a response is the answer that the response gives, and it has taken the
response up. -/
theorem takesUp_of_receive (h : (session.receive r).1 = .ok a) :
    session.TakesUp r ∧ Answer.ofResponse r = .ok a := by
  unfold receive at h
  split at h
  next hnone => exact ⟨fun asked hasked => absurd (hnone.symm.trans hasked) (by simp), h⟩
  next asked hasked =>
    split at h
    next => cases h
    next hscheme =>
      dsimp only at h
      split at h
      next hdecided =>
        dsimp only at h
        generalize Session.checkRedirection _ asked r = checked at h
        cases checked with
        | error f => cases h
        | ok =>
          refine ⟨fun asked' hasked' => ?_, h⟩
          obtain rfl := Option.some.inj (hasked.symm.trans hasked')
          exact ⟨hscheme, hdecided⟩
      next => cases h

/-- A session reads the answer that a response counts as, if it takes the response up. -/
theorem receive_of_counts (htakes : session.TakesUp r) (h : Answer.Counts r a) :
    (session.receive r).1 = .ok a := by
  have hread := (Answer.counts_iff.1 h).1
  unfold receive
  split
  next => exact hread
  next asked hasked =>
    obtain ⟨hscheme, hdecided⟩ := htakes asked hasked
    simp only [hscheme, hdecided, if_true]
    rw [checkRedirection_of_not_mem _ _ (not_mem_redirects_of_counts h)]
    exact hread

/-- A session hears an answer in a response just if it takes the response up and that counts as the
answer. -/
theorem heard?_eq_some_iff :
    session.heard? (.answered r) = some a ↔ session.TakesUp r ∧ Answer.Counts r a := by
  have hread (e : Except Failure Answer) : e.toOption = some a ↔ e = .ok a := by
    cases e <;> simp [Except.toOption]
  rw [heard?, Option.filter_eq_some_iff, hread]
  constructor
  · rintro ⟨hread, hindex⟩
    obtain ⟨htakes, hof⟩ := takesUp_of_receive hread
    exact ⟨htakes, Answer.counts_iff.2 ⟨hof, hindex⟩⟩
  · rintro ⟨htakes, h⟩
    exact ⟨receive_of_counts htakes h, (Answer.counts_iff.1 h).2⟩

end Session

end BlockingQuery
