import BlockingQuery.Answer
import BlockingQuery.Proofs.Json.Limits

/-!
# What becomes of a response

A response that is read is to have one of five outcomes (`Answer.Documented`): there is nothing, the
server refused, and of what a success brought, no entities, those of its JSON, or that it is no
JSON. It has one of them just if its target can be told and its body can be taken in
(`Answer.documented_iff_takenIn`): the text that a refusal shows has to be readable, and the body of
a success has to be a text, and one that is not beyond the limits of the reader of JSON. Otherwise a
failure of what was reading escapes (`Answer.Escapes`).
-/

namespace BlockingQuery

open Text

namespace Response

/-- Where a response is put down to can be told: to the target known to have served it, or to the
readable host of the URL, or to none where there is no URL. -/
def HasOrigin (r : Response) : Prop :=
  r.servedBy.isSome ∨ ∀ u, r.url = some u → ∃ host, u.hostName = .ok host ∧ host ≠ []

/-- The status is that of a success. -/
def Succeeds (r : Response) : Prop :=
  200 ≤ r.status ∧ r.status ≤ 299

/-- The body can be taken in as far as it is asked for. -/
def IsTakenIn (r : Response) : Prop :=
  r.status = 404 ∨
    (¬r.Succeeds ∧ ∃ text, ContentType.text (r.headers.get? "Content-Type") r.body = .ok text) ∨
    (r.Succeeds ∧ (r.body = [] ∨ ∃ cs, Json.text? r.body = some cs ∧ ¬Json.Oversized cs))

theorem isSuccess_iff {r : Response} : r.isSuccess = true ↔ r.Succeeds := by
  simp [isSuccess, Succeeds]

/-- Whom a response is put down to: the target known to have served it, or the one of the URL, or
nobody where there is no URL. -/
inductive ComesFrom (r : Response) : Option Target → Prop
  | served {t : Target} : r.servedBy = some t → ComesFrom r (some t)
  | asked {u : Url} {t : Target} :
    r.servedBy = none → r.url = some u → Target.ofUrl u = .ok t → ComesFrom r (some t)
  | unknown : r.servedBy = none → r.url = none → ComesFrom r none

/-- A response names an index that can be read. -/
def IsIndexed (r : Response) : Prop :=
  ∃ value i, r.headers.get? "X-Consul-Index" = some value ∧ Numeral.int? value.toList = some i

end Response

namespace Answer

/-- The answer with these entities. All else is taken from the header fields. -/
def stated (r : Response) (target : Option Target) (dataset : List Json) (notFound : Bool) :
    Answer where
  index := (r.headers.get? "X-Consul-Index").bind fun value => Numeral.int? value.toList
  dataset := dataset
  target := target
  knownLeader := (r.headers.get? "X-Consul-KnownLeader").map fun value =>
    lower (trimmed value) == "true"
  lastContactMs :=
    (r.headers.get? "X-Consul-LastContact").bind fun value => Numeral.int? value.toList
  notFound := notFound

/-- The entities that a body lists: none if it is empty or null, the items of an array, and any
other value by itself. -/
inductive Lists : List UInt8 → List Json → Prop
  | nothing : Lists [] []
  | null {body : List UInt8} : Json.Decodes body .null → Lists body []
  | items {body : List UInt8} {items : List Json} :
    Json.Decodes body (.arr items) → Lists body items
  | single {body : List UInt8} {v : Json} :
    Json.Decodes body v → v ≠ .null → (∀ items, v ≠ .arr items) → Lists body [v]

/-- The answers that responses count as: status 404 says that there is nothing, and a success lists
entities in a body that can be read. A response that names no index is no answer. -/
inductive Counts (r : Response) : Answer → Prop
  | missing {target : Option Target} :
    r.IsIndexed → r.ComesFrom target → r.status = 404 → Counts r (stated r target [] true)
  | listed {target : Option Target} {dataset : List Json} :
    r.IsIndexed → r.ComesFrom target → r.Succeeds → Lists r.body dataset →
    Counts r (stated r target dataset false)

/-- The outcomes that a response is to have. -/
inductive Documented (r : Response) (target : Option Target) : Except Failure Answer → Prop
  | missing : r.status = 404 → Documented r target (.ok (stated r target [] true))
  | refused {text : CodePoints} : r.status ≠ 404 → ¬r.Succeeds →
    ContentType.text (r.headers.get? "Content-Type") r.body = .ok text →
    Documented r target (.error (.status r.status text target))
  | empty : r.Succeeds → r.body = [] → Documented r target (.ok (stated r target [] false))
  | value {v : Json} : r.Succeeds → Json.Encodes r.body v →
    Documented r target (.ok (stated r target (entities v) false))
  | invalid : r.Succeeds → r.body ≠ [] → (∀ v, ¬Json.Encodes r.body v) →
    Documented r target (.error (.invalidJson target))

/-- The failures that a response may have beyond those, and what each tells of it. -/
inductive Escapes (r : Response) : Failure → Prop
  | target {fault : Target.Fault} : ¬r.HasOrigin → Escapes r (.target fault)
  | contentType {fault : ContentType.Fault} : ¬r.Succeeds →
    ContentType.text (r.headers.get? "Content-Type") r.body = .error fault →
    Escapes r (.contentType fault)
  | undecodable : r.Succeeds → Json.text? r.body = none → Escapes r .undecodable
  | tooLong {cs : CodePoints} {e : Numeral.TooLong} : r.Succeeds → Json.text? r.body = some cs →
    Json.Oversized cs → Escapes r (.tooLong e)
  | tooDeep {cs : CodePoints} {c : Json.Container} : r.Succeeds → Json.text? r.body = some cs →
    Json.Oversized cs → Escapes r (.tooDeep c)

section
variable {r : Response} {target : Option Target}

/-! ## The target -/

/-- A URL leads to a target if it has a host that can be read. -/
theorem ofUrl_eq_ok_iff {u : Url} :
    (∃ t, Target.ofUrl u = .ok t) ↔ ∃ host, u.hostName = .ok host ∧ host ≠ [] := by
  unfold Target.ofUrl Target.ofShownUrl
  cases u.hostName with
  | error f => simp
  | ok host => cases host <;> simp

/-- What a response is put down to can be told, or it is the target that cannot. -/
theorem origin_cases (r : Response) :
    (r.HasOrigin ∧ ∃ target, origin r = .ok target) ∨
      (¬r.HasOrigin ∧ ∃ fault, origin r = .error (.target fault)) := by
  cases hserved : r.servedBy with
  | some t =>
    refine .inl ⟨.inl (by rw [hserved]; rfl), some t, ?_⟩
    rw [origin, hserved]
  | none =>
    cases hurl : r.url with
    | none =>
      refine .inl ⟨.inr fun u hu => ?_, none, ?_⟩
      · cases hurl.symm.trans hu
      · rw [origin, hserved, hurl]
    | some u =>
      cases ht : Target.ofUrl u with
      | ok t =>
        refine .inl ⟨.inr fun u' hu' => ?_, some t, ?_⟩
        · cases hurl.symm.trans hu'
          exact ofUrl_eq_ok_iff.1 ⟨t, ht⟩
        · simp only [origin, hserved, hurl, ht]
          rfl
      | error fault =>
        refine .inr ⟨fun h => ?_, fault, ?_⟩
        · have hhost := h.resolve_left (by simp [hserved]) u hurl
          obtain ⟨t, ht'⟩ := ofUrl_eq_ok_iff.2 hhost
          cases ht.symm.trans ht'
        · simp only [origin, hserved, hurl, ht]
          rfl

/-- A response is put down to whom it comes from. -/
theorem origin_eq_ok_iff : origin r = .ok target ↔ r.ComesFrom target := by
  constructor
  · intro h
    unfold origin at h
    split at h
    next t hserved =>
      cases h
      exact .served hserved
    next u hserved hurl =>
      cases ht : Target.ofUrl u with
      | error f => simp [ht, Except.mapError, Except.map] at h
      | ok t =>
        rw [ht] at h
        cases h
        exact .asked hserved hurl ht
    next hserved hurl =>
      cases h
      exact .unknown hserved hurl
  · intro h
    cases h with
    | served hserved => rw [origin, hserved]
    | asked hserved hurl ht =>
      simp only [origin, hserved, hurl, ht]
      rfl
    | unknown hserved hurl => rw [origin, hserved, hurl]

/-! ## What is read, by the status -/

theorem ofResponse_of_origin_eq_error {f : Failure} (horigin : origin r = .error f) :
    ofResponse r = .error f := by
  unfold ofResponse
  rw [horigin]
  rfl

theorem ofResponse_missing (horigin : origin r = .ok target) (hmissing : r.status = 404) :
    ofResponse r = .ok (stated r target [] true) := by
  unfold ofResponse
  rw [horigin]
  exact if_pos hmissing

theorem ofResponse_refused (horigin : origin r = .ok target) (hmissing : r.status ≠ 404)
    (hfails : ¬r.Succeeds) : ofResponse r =
      ((ContentType.text (r.headers.get? "Content-Type") r.body).mapError .contentType).bind
        fun text => .error (.status r.status text target) := by
  have hfails : r.isSuccess = false := by
    rwa [← Bool.not_eq_true, Response.isSuccess_iff]
  unfold ofResponse
  rw [horigin, hfails]
  exact if_neg hmissing

theorem ofResponse_success (horigin : origin r = .ok target) (hok : r.Succeeds) :
    ofResponse r = (readDataset target r.body).map (stated r target · false) := by
  have hmissing : r.status ≠ 404 := by
    intro heq
    rw [Response.Succeeds, heq] at hok
    exact absurd hok (by decide)
  unfold ofResponse
  rw [horigin, Response.isSuccess_iff.2 hok]
  exact if_neg hmissing

/-- An answer comes of a response of status 404, or of a success whose body is read. -/
theorem ofResponse_eq_ok {a : Answer} (h : ofResponse r = .ok a) :
    ∃ target, origin r = .ok target ∧ ((r.status = 404 ∧ a = stated r target [] true) ∨
      (r.Succeeds ∧ ∃ dataset, readDataset target r.body = .ok dataset ∧
        a = stated r target dataset false)) := by
  rcases origin_cases r with ⟨-, target, horigin⟩ | ⟨-, fault, horigin⟩
  · refine ⟨target, horigin, ?_⟩
    by_cases hmissing : r.status = 404
    · rw [ofResponse_missing horigin hmissing] at h
      cases h
      exact .inl ⟨hmissing, rfl⟩
    by_cases hok : r.Succeeds
    · rw [ofResponse_success horigin hok] at h
      cases hread : readDataset target r.body with
      | error f =>
        rw [hread] at h
        cases h
      | ok dataset =>
        rw [hread] at h
        cases h
        exact .inr ⟨hok, dataset, rfl, rfl⟩
    · rw [ofResponse_refused horigin hmissing hok] at h
      cases htext : ContentType.text (r.headers.get? "Content-Type") r.body <;>
        rw [htext] at h <;> cases h
  · rw [ofResponse_of_origin_eq_error horigin] at h
    cases h

/-- A body that is read as a value holds the entities of that. -/
theorem readDataset_of_ofBytes {body : List UInt8} {v : Json} (h : Json.ofBytes body = .ok v) :
    readDataset target body = .ok (entities v) := by
  have hbody : body ≠ [] := by
    rintro rfl
    cases h
  rw [readDataset, if_neg (by simpa using hbody), h]

/-- What a body lists that is not empty are the entities of the value that it decodes to. -/
theorem lists_iff {body : List UInt8} {dataset : List Json} :
    Lists body dataset ↔
      body = [] ∧ dataset = [] ∨ ∃ v, Json.Decodes body v ∧ dataset = entities v := by
  constructor
  · intro h
    cases h with
    | nothing => exact .inl ⟨rfl, rfl⟩
    | null hdecodes => exact .inr ⟨_, hdecodes, rfl⟩
    | items hdecodes => exact .inr ⟨_, hdecodes, rfl⟩
    | @single _ v hdecodes hnull hitems =>
      refine .inr ⟨v, hdecodes, ?_⟩
      cases v with
      | null => exact absurd rfl hnull
      | arr items => exact absurd rfl (hitems items)
      | _ => rfl
  · rintro (⟨rfl, rfl⟩ | ⟨v, hdecodes, rfl⟩)
    · exact .nothing
    · cases v with
      | null => exact .null hdecodes
      | arr items => exact .items hdecodes
      | _ => exact .single hdecodes (by simp) (by simp)

/-- A dataset that is read is what the body lists. -/
theorem readDataset_eq_ok_iff {body : List UInt8} {dataset : List Json} :
    readDataset target body = .ok dataset ↔ Lists body dataset := by
  rw [lists_iff]
  constructor
  · intro h
    by_cases hbody : body = []
    · subst hbody
      cases h
      exact .inl ⟨rfl, rfl⟩
    cases hread : Json.ofBytes body with
    | error e =>
      rw [readDataset, if_neg (by simpa using hbody), hread] at h
      cases e <;> cases h
    | ok v =>
      cases (readDataset_of_ofBytes hread).symm.trans h
      exact .inr ⟨v, Json.ofBytes_eq_ok_iff.1 hread, rfl⟩
  · rintro (⟨rfl, rfl⟩ | ⟨v, hdecodes, rfl⟩)
    · rfl
    · exact readDataset_of_ofBytes (Json.ofBytes_eq_ok_iff.2 hdecodes)

/-- A response that names an index is read as the answer that it counts as. -/
theorem counts_iff {a : Answer} : Counts r a ↔ ofResponse r = .ok a ∧ a.index.isSome := by
  have hindexed {target : Option Target} {dataset : List Json} {notFound : Bool} :
      (stated r target dataset notFound).index.isSome ↔ r.IsIndexed := by
    rw [stated, Option.isSome_iff_exists, Response.IsIndexed]
    simp only [Option.bind_eq_some_iff]
    exact exists_comm
  constructor
  · intro h
    cases h with
    | missing hindex hfrom hmissing =>
      exact ⟨ofResponse_missing (origin_eq_ok_iff.2 hfrom) hmissing, hindexed.2 hindex⟩
    | listed hindex hfrom hok hlists =>
      refine ⟨?_, hindexed.2 hindex⟩
      rw [ofResponse_success (origin_eq_ok_iff.2 hfrom) hok, readDataset_eq_ok_iff.2 hlists]
      rfl
  · rintro ⟨hread, hindex⟩
    obtain ⟨target, horigin, ⟨hmissing, rfl⟩ | ⟨hok, dataset, hdataset, rfl⟩⟩ :=
      ofResponse_eq_ok hread
    · exact .missing (hindexed.1 hindex) (origin_eq_ok_iff.1 horigin) hmissing
    · exact .listed (hindexed.1 hindex) (origin_eq_ok_iff.1 horigin) hok
        (readDataset_eq_ok_iff.1 hdataset)

/-- Only a response of status 404 or a successful one gives an answer. -/
theorem status_of_ofResponse {a : Answer} (h : ofResponse r = .ok a) :
    r.status = 404 ∨ r.Succeeds := by
  obtain ⟨target, -, ⟨hmissing, -⟩ | ⟨hok, -⟩⟩ := ofResponse_eq_ok h
  · exact .inl hmissing
  · exact .inr hok

/-- A response whose body can be taken in has one of the outcomes that it is to have. -/
theorem documented_of_isTakenIn (horigin : origin r = .ok target) (h : r.IsTakenIn) :
    Documented r target (ofResponse r) := by
  by_cases hmissing : r.status = 404
  · rw [ofResponse_missing horigin hmissing]
    exact .missing hmissing
  rcases h.resolve_left hmissing with ⟨hfails, text, htext⟩ | ⟨hok, hempty | ⟨cs, htext, hsize⟩⟩
  · rw [ofResponse_refused horigin hmissing hfails, htext]
    exact .refused hmissing hfails htext
  · rw [ofResponse_success horigin hok, hempty]
    exact .empty hok hempty
  · rw [ofResponse_success horigin hok]
    by_cases hbody : r.body = []
    · rw [hbody]
      exact .empty hok hbody
    have htells := Json.tells_ofBytes r.body
    rw [readDataset, if_neg (by simpa using hbody)]
    cases hread : Json.ofBytes r.body with
    | ok v =>
      rw [hread] at htells
      exact .value hok htells.1
    | error e =>
      rw [hread] at htells
      cases e with
      | undecodable => cases htext.symm.trans htells
      | malformed => exact .invalid hok hbody htells.1
      | tooLong | tooDeep =>
        obtain ⟨cs', htext', hover⟩ := htells
        cases htext.symm.trans htext'
        exact absurd hover hsize

/-- A response with an origin that is not taken in ends in a failure that escapes. -/
theorem escapes_of_not_isTakenIn (horigin : origin r = .ok target) (h : ¬r.IsTakenIn) :
    ∃ f, ofResponse r = .error f ∧ Escapes r f := by
  have hmissing : r.status ≠ 404 := fun heq => h (.inl heq)
  by_cases hok : r.Succeeds
  · have hbody : r.body ≠ [] := fun heq => h (.inr (.inr ⟨hok, .inl heq⟩))
    have htells := Json.tells_ofBytes r.body
    rw [ofResponse_success horigin hok, readDataset, if_neg (by simpa using hbody)]
    cases hread : Json.ofBytes r.body with
    | ok v =>
      rw [hread] at htells
      exact absurd (.inr (.inr ⟨hok, .inr htells.2⟩)) h
    | error e =>
      rw [hread] at htells
      cases e with
      | undecodable => exact ⟨_, rfl, .undecodable hok htells⟩
      | malformed => exact absurd (.inr (.inr ⟨hok, .inr htells.2⟩)) h
      | tooLong =>
        obtain ⟨cs, htext, hover⟩ := htells
        exact ⟨_, rfl, .tooLong hok htext hover⟩
      | tooDeep =>
        obtain ⟨cs, htext, hover⟩ := htells
        exact ⟨_, rfl, .tooDeep hok htext hover⟩
  · rw [ofResponse_refused horigin hmissing hok]
    cases htext : ContentType.text (r.headers.get? "Content-Type") r.body with
    | ok text => exact absurd (.inr (.inl ⟨hok, text, htext⟩)) h
    | error fault => exact ⟨_, rfl, .contentType hok htext⟩

/-- What escapes is none of the failures that a response is to have. -/
theorem Escapes.not_documented {f : Failure} (h : Escapes r f) :
    ¬Documented r target (.error f) := by
  intro hdocumented
  cases hdocumented <;> cases h

end

/-- A response has one of the outcomes that it is to have just if its target can be told and its
body can be taken in. Just if not, a failure of what was reading escapes. -/
theorem documented_iff_takenIn (r : Response) :
    ((∃ target, origin r = .ok target ∧ Documented r target (ofResponse r)) ↔
      r.HasOrigin ∧ r.IsTakenIn) ∧
    ((∃ f, ofResponse r = .error f ∧ Escapes r f) ↔ ¬(r.HasOrigin ∧ r.IsTakenIn)) := by
  have hescapes : ¬(r.HasOrigin ∧ r.IsTakenIn) → ∃ f, ofResponse r = .error f ∧ Escapes r f := by
    intro h
    rcases origin_cases r with ⟨hhas, target, horigin⟩ | ⟨hnone, fault, horigin⟩
    · exact escapes_of_not_isTakenIn horigin fun htaken => h ⟨hhas, htaken⟩
    · exact ⟨.target fault, ofResponse_of_origin_eq_error horigin, .target hnone⟩
  have hdocumented : r.HasOrigin ∧ r.IsTakenIn →
      ∃ target, origin r = .ok target ∧ Documented r target (ofResponse r) := by
    rintro ⟨hhas, htaken⟩
    rcases origin_cases r with ⟨-, target, horigin⟩ | ⟨hnone, -⟩
    · exact ⟨target, horigin, documented_of_isTakenIn horigin htaken⟩
    · exact absurd hhas hnone
  have hexclusive (hd : ∃ target, origin r = .ok target ∧ Documented r target (ofResponse r))
      (he : ∃ f, ofResponse r = .error f ∧ Escapes r f) : False := by
    obtain ⟨target, -, hd⟩ := hd
    obtain ⟨f, hf, he⟩ := he
    exact he.not_documented (hf ▸ hd)
  constructor
  · exact ⟨fun hd => by_contra fun h => hexclusive hd (hescapes h), hdocumented⟩
  · exact ⟨fun he h => hexclusive (hdocumented h) he, hescapes⟩

/-- Whatever the response, it has one of the outcomes that it is to have, if the URL it was asked
for has a host. -/
def ReadAsDocumented : Prop :=
  ∀ r : Response, (∀ u, r.url = some u → u.hostName ≠ .ok []) →
    ∃ target, origin r = .ok target ∧ Documented r target (ofResponse r)

/-- A success whose body is a letter with an accent in quotation marks, in Latin-1. -/
def accented : Response where
  status := 200
  headers := []
  body := [0x22, 0xE9, 0x22]
  url := none
  servedBy := some ⟨"consul", 8500⟩

/-- A body that is no text is no JSON, but that is not what is said of it. -/
theorem not_readAsDocumented_of_accented :
    accented.Succeeds ∧ (∀ v, ¬Json.Encodes accented.body v) ∧
      ofResponse accented = .error .undecodable ∧ ¬ReadAsDocumented := by
  have hundecodable : Json.text? accented.body = none := by decide
  have hread : ofResponse accented = .error .undecodable := by rfl
  refine ⟨⟨by decide, by decide⟩, fun v ⟨cs, htext, _⟩ => ?_, hread, fun h => ?_⟩
  · cases hundecodable.symm.trans htext
  · obtain ⟨target, -, hdocumented⟩ := h accented fun u hu => by cases hu
    rw [hread] at hdocumented
    cases hdocumented

end Answer

end BlockingQuery
