import BlockingQuery.Proofs.Cache.Asking
import BlockingQuery.Proofs.Cache.Site
import BlockingQuery.Proofs.ReadLimit
import BlockingQuery.Proofs.Wait

/-!
# The budget of a cache

How long a cache lets a server hold a query open goes a long way as a text: it is written when the
cache is set up, put into the query of each request, and read again where the read limit of the
request is adjusted. It arrives as it set out (`Resource.budget_kept`), because a budget that can be
written at all is read back as its own duration (`Wait.readsBack_iff`), and because the time to wait
is the one field of its name in a query. A budget whose number has too many digits is not written
(`Wait.not_readsAllBack_of_long`), and then there is no cache.
-/

namespace BlockingQuery

open Text

/-! ## Budgets -/

namespace Wait

/-- A budget is written, and read back as its own duration, in milliseconds. -/
def ReadsBack (s : Int) : Prop :=
  ∃ text, write s = .ok text ∧ parse (some text) = .ok (some (1000 * s).toNat)

/-- A budget reads back just if its number has no more digits than may be written. -/
theorem readsBack_iff {s : Int} (hs : 0 ≤ s) :
    ReadsBack s ↔ (digits (number s).natAbs).length ≤ Numeral.digitLimit := by
  constructor
  · rintro ⟨text, hwritten, -⟩
    exact (write_eq_ok_iff.1 hwritten).1
  · intro hlength
    exact ⟨format s, write_eq_ok_iff.2 ⟨hlength, rfl⟩, parse_format hs hlength⟩

/-- A budget that is written reads back. -/
theorem readsBack_of_write {s : Int} {text : String} (hs : 0 ≤ s) (h : write s = .ok text) :
    ReadsBack s :=
  (readsBack_iff hs).2 (write_eq_ok_iff.1 h).1

/-- Every budget reads back. -/
def ReadsAllBack : Prop :=
  ∀ s : Int, 0 ≤ s → ReadsBack s

/-- A budget of whole seconds that do not make up minutes is not read back if it has too many
digits. -/
theorem not_readsBack_of_le {n : Nat} (hseconds : ¬3 ∣ n) (hlong : 10 ^ Numeral.digitLimit ≤ n) :
    ¬ReadsBack n := by
  have hnumber : number n = n := by
    refine if_neg ?_
    rintro ⟨-, hminutes⟩
    omega
  rw [readsBack_iff (Int.natCast_nonneg n), hnumber, Int.natAbs_natCast, digits,
    Nat.length_toDigits_le_iff (by decide) (by decide)]
  exact not_lt.2 hlong

/-- A budget of `10 ^ 4300` seconds has a digit too many to be written. -/
theorem not_readsAllBack_of_long : ¬ReadsAllBack := by
  intro h
  obtain ⟨n, hn⟩ : ∃ n, n = 10 ^ Numeral.digitLimit := ⟨_, rfl⟩
  have hseconds : ¬3 ∣ n := by
    intro hdvd
    exact absurd (Nat.prime_three.dvd_of_dvd_pow (hn ▸ hdvd)) (by decide)
  exact not_readsBack_of_le hseconds hn.ge (h n (Int.natCast_nonneg n))

end Wait

/-! ## Requests -/

/-- A request asks to wait for `w` milliseconds, and an adjustment that is enabled takes it to do
so, whatever read limit there is. -/
structure Request.Waits (w : Nat) (r : Request) : Prop where
  parse : Wait.parse (Query.first? "wait" r.url.query) = .ok (some w)
  readLimit (a : Adjustment) (default : Option Int) : a.enabled = true →
    a.readLimit (Query.first? "wait" r.url.query) default =
      (Adjustment.late w).map fun l => some (w + l + a.marginMs)

/-- A configuration in which nothing is wrong has a budget of one second at least. -/
theorem Config.one_le_waitSeconds {config : Config Float} (h : config.defects = []) :
    1 ≤ config.waitSeconds := by
  have hflags := List.filterMap_eq_nil_iff.1 (List.append_eq_nil_iff.1 h).1
  have hwait := hflags _ List.mem_cons_self
  simp only [ite_eq_right_iff, reduceCtorEq, imp_false, decide_eq_true_eq] at hwait
  omega

namespace Cache

/-- A query asks to wait for the budget. -/
theorem Queries.waits {c : Setup} {index : Option Int} {r : Request} (h : Queries c index r)
    (hs : 0 ≤ c.config.waitSeconds)
    (hwritten : ∃ text, Wait.write c.config.waitSeconds = .ok text) :
    r.Waits (1000 * c.config.waitSeconds).toNat := by
  obtain ⟨text, htext⟩ := hwritten
  have hfirst : Query.first? "wait" r.url.query = some (Wait.format c.config.waitSeconds) :=
    h.poses.wait
  have hparse : Wait.parse (Query.first? "wait" r.url.query) =
      .ok (some (1000 * c.config.waitSeconds).toNat) := by
    rw [hfirst]
    exact Wait.parse_format hs (Wait.write_eq_ok_iff.1 htext).1
  exact ⟨hparse, fun a default henabled => Adjustment.readLimit_eq henabled hparse default⟩

end Cache

/-! ## Caches -/

namespace Resource

/-- A cache can be set up with a configuration in which nothing is wrong just if the time to wait
can be written. -/
theorem setup_eq_ok_iff {r : Resource} {client : Client} {config : Config Float} {params : Params}
    {name : Option String} {b : Behaviour} (hsound : config.defects = []) :
    (∃ c, r.setup client config params name b = .ok c) ↔
      ∃ text, Wait.write config.waitSeconds = .ok text := by
  constructor
  · rintro ⟨c, hc⟩
    exact (of_setup hc).2.1
  · rintro ⟨text, htext⟩
    unfold setup
    rw [hsound, htext]
    exact ⟨_, rfl⟩

/-- A budget is read back as its own duration if its number has no more digits than may be written,
and else it is not written. So a cache with a configuration in which nothing is wrong can be set up
just if its budget is read back. In every run of such a cache each request asks to wait for exactly
the budget, and so did the request that was adjusted for the attempt which the transport has. -/
theorem budget_kept :
    (∀ s : Int, 0 ≤ s →
      (Wait.ReadsBack s ↔ (digits (Wait.number s).natAbs).length ≤ Numeral.digitLimit) ∧
        (¬Wait.ReadsBack s → Wait.write s = .error {})) ∧
    ∀ (r : Resource) (client : Client) (config : Config Float) (params : Params)
      (name : Option String) (b : Behaviour), config.defects = [] →
      ((∃ c, r.setup client config params name b = .ok c) ↔
        Wait.ReadsBack config.waitSeconds) ∧
      ∀ (c : Setup) (as : List Answer) (s : Cache),
        r.setup client config params name b = .ok c → Cache.Run c as s →
        (∀ q, .requested q ∈ s.trace → q.Waits (1000 * config.waitSeconds).toNat) ∧
        ∀ o x, s.loop = .awaiting o x → ∃ q q', q.Waits (1000 * config.waitSeconds).toNat ∧
          config.adjustment.apply q = .ok q' ∧ x.request.timeouts = q'.timeouts := by
  refine ⟨fun s hs => ⟨Wait.readsBack_iff hs, fun hnot => ?_⟩, ?_⟩
  · cases hwrite : Wait.write s with
    | ok text => exact absurd (Wait.readsBack_of_write hs hwrite) hnot
    | error e => rfl
  · intro r client config params name b hsound
    have hs : 0 ≤ config.waitSeconds := by
      have := Config.one_le_waitSeconds hsound
      omega
    refine ⟨(setup_eq_ok_iff hsound).trans ⟨?_, ?_⟩, ?_⟩
    · rintro ⟨text, htext⟩
      exact Wait.readsBack_of_write hs htext
    · rintro ⟨text, htext, -⟩
      exact ⟨text, htext⟩
    · intro c as s hc hrun
      obtain ⟨-, hwritten, rfl, -⟩ := of_setup hc
      have hasking := Cache.asking_of_run hrun
      refine ⟨fun q hq => ?_, fun o x hloop => ?_⟩
      · obtain ⟨later, earlier, htrace⟩ := List.append_of_mem hq
        have hsuffix : .requested q :: earlier <:+ s.trace := ⟨later, htrace.symm⟩
        exact (hasking.asked.of_suffix hsuffix q rfl).waits hs hwritten
      · obtain ⟨-, q, hq, hx⟩ := hasking.attempts o x hloop
        obtain ⟨q', hadjusted, htimeouts⟩ := hx.attempt.adjusted
        exact ⟨q, q', hq.waits hs hwritten, hadjusted, htimeouts⟩

/-- An hour and a half is written in minutes and read back, and the first request of a cache with
the standard configuration asks to wait for ten seconds. -/
theorem budget_kept_sample : Wait.ReadsBack 5400 ∧ Wait.write 5400 = .ok "90m" ∧
    ∃ as s q, Cache.Run (.sampleBelow "app") as s ∧ .requested q ∈ s.trace ∧ q.Waits 10000 := by
  obtain ⟨hback, hcaches⟩ := budget_kept
  refine ⟨((hback 5400 (by decide)).1).2 (by decide +kernel), by decide +kernel, ?_⟩
  have hsound : Config.standard.defects = [] := by decide +kernel
  have hsent : samplePath? "app" = some "/v1/kv/app".toList := by decide +kernel
  obtain ⟨q, ⟨-, as, s, hrun, hq⟩, -⟩ := polled_sample hsent
  have hkept := (hcaches _ _ _ _ _ _ hsound).2 _ as s (Setup.setup_sampleBelow "app") hrun
  exact ⟨as, s, q, hrun, hq, hkept.1 q hq⟩

end Resource

end BlockingQuery
