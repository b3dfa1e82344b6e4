import Gleaner.Proofs.Crawler.Checks
import Gleaner.Proofs.Http.Exchange

set_option autoImplicit false

/-! # The time limit of a request

Options count whole milliseconds in 64 bits, so a limit is rounded down when it is set. Each request that is
made from the options carries what has been kept of it, and so do the requests that follow redirects
(`Crawler.carries_withTimeout`).

The largest spans of time have more milliseconds than 64 bits can count. From there on the count starts again
at zero, and the limit has little to do with the one that was asked for: `Crawler.timeout_of_ages`. -/

namespace Gleaner

/-! ## Spans of time as numbers -/

namespace Duration

/-- How many nanoseconds are a millisecond. -/
abbrev nanosecondsPerMillisecond : Nat := 1000000

/-- How many nanoseconds a span of time takes in all. -/
def inNanoseconds (d : Duration) : Nat :=
  d.seconds.toNat * nanosecondsPerSecond + d.nanoseconds.val

theorem milliseconds_eq (d : Duration) : d.milliseconds = d.inNanoseconds / nanosecondsPerMillisecond := by
  simp only [milliseconds, inNanoseconds, nanosecondsPerSecond, nanosecondsPerMillisecond]
  omega

theorem inNanoseconds_ofMilliseconds (n : UInt64) :
    (ofMilliseconds n).inNanoseconds = n.toNat * nanosecondsPerMillisecond := by
  have hseconds : (n / 1000).toNat = n.toNat / 1000 := by simp
  -- The milliseconds beyond the seconds are less than a second.
  have hrest : n.toNat % 1000 * 1000000 % 1000000000 = n.toNat % 1000 * 1000000 :=
    Nat.mod_eq_of_lt (by omega)
  simp only [inNanoseconds, ofMilliseconds, hseconds, Fin.ofNat, nanosecondsPerSecond, hrest,
    nanosecondsPerMillisecond]
  omega

/-- What options keep of a limit. -/
def kept (d : Duration) : Duration := ofMilliseconds (UInt64.ofNat d.milliseconds)

variable {d d' : Duration}

theorem inNanoseconds_kept (d : Duration) :
    d.kept.inNanoseconds = d.milliseconds % UInt64.size * nanosecondsPerMillisecond := by
  rw [kept, inNanoseconds_ofMilliseconds, UInt64.toNat_ofNat']

/-- What is kept of a limit is no longer than the limit. -/
theorem kept_le (d : Duration) : d.kept.inNanoseconds ≤ d.inNanoseconds :=
  calc d.kept.inNanoseconds
      = d.milliseconds % UInt64.size * nanosecondsPerMillisecond := d.inNanoseconds_kept
    _ ≤ d.milliseconds * nanosecondsPerMillisecond := Nat.mul_le_mul_right _ (Nat.mod_le _ _)
    _ ≤ d.inNanoseconds := d.milliseconds_eq ▸ Nat.div_mul_le_self _ _

/-- Less than a millisecond is lost, exactly if the milliseconds can be counted. -/
theorem lt_kept_add_iff :
    d.inNanoseconds < d.kept.inNanoseconds + nanosecondsPerMillisecond ↔ d.milliseconds < UInt64.size := by
  have hkept := d.inNanoseconds_kept
  have hmod : d.milliseconds % UInt64.size < UInt64.size := Nat.mod_lt _ (by decide)
  rw [milliseconds_eq] at hkept hmod ⊢
  simp only [nanosecondsPerMillisecond] at hkept hmod ⊢
  constructor
  · intro hnear
    omega
  · intro hsmall
    rw [Nat.mod_eq_of_lt hsmall] at hkept
    omega

/-- Of a longer limit no less is kept, as long as its milliseconds can be counted. -/
theorem kept_le_kept (h : d.inNanoseconds ≤ d'.inNanoseconds) (hsmall : d'.milliseconds < UInt64.size) :
    d.kept.inNanoseconds ≤ d'.kept.inNanoseconds := by
  have hle : d.milliseconds ≤ d'.milliseconds := by
    rw [milliseconds_eq, milliseconds_eq]
    exact Nat.div_le_div_right h
  rw [inNanoseconds_kept, inNanoseconds_kept, Nat.mod_eq_of_lt hsmall,
    Nat.mod_eq_of_lt (Nat.lt_of_le_of_lt hle hsmall)]
  exact Nat.mul_le_mul_right _ hle

end Duration

/-! ## Requests with a limit -/

namespace Http

theorem timeout_redirected (r : Request) (status : Nat) (next : Url) :
    (redirected r status next).timeout = r.timeout := rfl

/-- Every request of an exchange has the limit of the first one. -/
theorem Server.exists_exchange_eq_append (server : Server) (limit : Nat) (r : Request)
    (sent : List Request) :
    ∃ added, (server.exchange limit r sent).1 = sent ++ added ∧ ∀ r' ∈ added, r'.timeout = r.timeout := by
  -- A redirect leaves a smaller limit and makes a request with the same time limit.
  induction limit using Nat.strongRecOn generalizing r sent with
  | ind limit ih =>
    rcases server.exchange_cases limit r sent with
      ⟨-, fault, h⟩ | ⟨-, ⟨outcome, h⟩ | ⟨rest, status, next, rfl, h⟩⟩
    · exact ⟨[], by simp [h], by simp⟩
    · exact ⟨[r], by simp [h], by simp⟩
    · obtain ⟨added, hadded, hlimits⟩ := ih rest (Nat.lt_succ_self rest) (redirected r status next)
        (sent ++ [r])
      refine ⟨r :: added, by simp [h, hadded], ?_⟩
      rw [List.forall_mem_cons]
      exact ⟨rfl, fun r' hr' => (hlimits r' hr').trans (timeout_redirected r status next)⟩

end Http

/-- Whatever the session is, each request that the action adds to those that have been sent carries this
limit. -/
def Action.Limits {α : Type} (action : Action α) (limit : Duration) : Prop :=
  ∀ s, ∃ added, (action.perform s).2.sent = s.sent ++ added ∧ ∀ r ∈ added, r.timeout = some limit

namespace Crawler

/-- The request that is made from the options carries this limit, and so does every request that an operation
sends. -/
structure Carries (c : Crawler) (o : Options) (limit : Duration) : Prop where
  built : ∀ method url, (c.request method url o).timeout = some limit
  response : ∀ strict, (c.fetchResponse o strict).Limits limit
  extraction : ∀ rule, (c.fetchAndExtract o rule).Limits limit
  file : ∀ path, (c.fetchToFile o path).Limits limit

section Carries

variable {c : Crawler} {o : Options} {limit limit' : Duration}

theorem exists_exchange_eq_append (hbuilt : ∀ method url, (c.request method url o).timeout = some limit)
    (s : Session) :
    ∃ added, (c.exchange o s).1 = s.sent ++ added ∧ ∀ r ∈ added, r.timeout = some limit := by
  rcases c.prepare_cases o with ⟨-, e, hprepare, -⟩ | ⟨-, url, -, hprepare⟩
  · exact ⟨[], by simp [c.exchange_of_error o s hprepare], by simp⟩
  · obtain ⟨added, hadded, hlimits⟩ := s.server.exists_exchange_eq_append c.config.maxRedirects.toNat
      (c.request (Text.upper o.method) url o) s.sent
    refine ⟨added, ?_, fun r hr => (hlimits r hr).trans (hbuilt _ url)⟩
    rw [exchange, hprepare]
    exact hadded

/-- It is enough that a request carries the limit when it is made. -/
theorem Carries.of_built (hbuilt : ∀ method url, (c.request method url o).timeout = some limit) :
    c.Carries o limit where
  built := hbuilt
  response strict s := (c.gives_fetchResponse o s strict).sent_eq ▸ exists_exchange_eq_append hbuilt s
  extraction rule s := (c.gives_fetchAndExtract o s rule).sent_eq ▸ exists_exchange_eq_append hbuilt s
  file path s := by
    rcases destination_cases s.directory path with ⟨-, e, he, -⟩ | ⟨-, whole, hwhole⟩
    · exact ⟨[], by simp [(c.gives_fetchToFile_of_error o path s he).sent_eq], by simp⟩
    · obtain ⟨result, files, -, hgives⟩ := c.fetchToFile_ends o path s hwhole
      exact hgives.sent_eq ▸ exists_exchange_eq_append hbuilt s

theorem Carries.unique (h : c.Carries o limit) (h' : c.Carries o limit') : limit = limit' :=
  Option.some.inj ((h.built "GET" Loopback.url).symm.trans (h'.built "GET" Loopback.url))

theorem carries_kept (c : Crawler) (o : Options) (d : Duration) : c.Carries (o.withTimeout d) d.kept :=
  .of_built fun _ _ => rfl

end Carries

/-! ## Main result -/

/-- The requests of options with a time limit carry a whole number of milliseconds that is no longer than the
limit, and less than a millisecond shorter exactly if 64 bits can count the milliseconds of the limit. Up to
there a longer limit is never carried as a shorter one. -/
theorem carries_withTimeout (c : Crawler) (o : Options) :
    (∀ d : Duration, ∃ limit, c.Carries (o.withTimeout d) limit
        ∧ (∃ n : Nat, limit.inNanoseconds = n * Duration.nanosecondsPerMillisecond)
        ∧ limit.inNanoseconds ≤ d.inNanoseconds
        ∧ (d.inNanoseconds < limit.inNanoseconds + Duration.nanosecondsPerMillisecond
          ↔ d.milliseconds < UInt64.size))
    ∧ ∀ d d' limit limit' : Duration, c.Carries (o.withTimeout d) limit →
        c.Carries (o.withTimeout d') limit' → d.inNanoseconds ≤ d'.inNanoseconds →
        d'.milliseconds < UInt64.size → limit.inNanoseconds ≤ limit'.inNanoseconds := by
  constructor
  · intro d
    exact ⟨d.kept, c.carries_kept o d, ⟨_, d.inNanoseconds_kept⟩, d.kept_le, Duration.lt_kept_add_iff⟩
  · intro d d' limit limit' hcarries hcarries' hle hsmall
    obtain rfl := hcarries.unique (c.carries_kept o d)
    obtain rfl := hcarries'.unique (c.carries_kept o d')
    exact Duration.kept_le_kept hle hsmall

/-- Two limits of little more than a second, on the two sides of a whole millisecond. -/
theorem carries_withTimeout_of_second :
    let d : Duration := ⟨1, 999999⟩
    let d' : Duration := ⟨1, 1000001⟩
    Loopback.crawler.Carries (Loopback.options.withTimeout d) (.ofSeconds 1)
      ∧ Loopback.crawler.Carries (Loopback.options.withTimeout d') (.ofMilliseconds 1001)
      ∧ (Duration.ofSeconds 1).inNanoseconds ≤ (Duration.ofMilliseconds 1001).inNanoseconds := by
  intro d d'
  obtain ⟨hrounds, hmono⟩ := carries_withTimeout Loopback.crawler Loopback.options
  obtain ⟨limit, hcarries, -, -, -⟩ := hrounds d
  obtain ⟨limit', hcarries', -, -, -⟩ := hrounds d'
  have hkept : d.kept = .ofSeconds 1 := by decide
  have hkept' : d'.kept = .ofMilliseconds 1001 := by decide
  have hlimit : limit = .ofSeconds 1 := hcarries.unique (hkept ▸ carries_kept _ _ d)
  have hlimit' : limit' = .ofMilliseconds 1001 := hcarries'.unique (hkept' ▸ carries_kept _ _ d')
  rw [hlimit] at hcarries
  rw [hlimit'] at hcarries'
  exact ⟨hcarries, hcarries', hmono d d' _ _ hcarries hcarries' (by decide) (by decide)⟩

/-- One second more than 64 bits can count in milliseconds is carried as less than half a second, which is
also less than what is carried of a single second. -/
theorem timeout_of_ages :
    let limit (seconds : UInt64) : Option Duration :=
      (Loopback.crawler.request "GET" Loopback.url
        (Loopback.options.withTimeout (.ofSeconds seconds))).timeout
    limit 18446744073709552 = some (.ofMilliseconds 384) ∧ limit 1 = some (.ofSeconds 1)
      ∧ ¬ (Duration.ofSeconds 18446744073709552).inNanoseconds
          < (Duration.ofMilliseconds 384).inNanoseconds + Duration.nanosecondsPerMillisecond
      ∧ (Duration.ofSeconds 1).inNanoseconds ≤ (Duration.ofSeconds 18446744073709552).inNanoseconds
      ∧ ¬ (Duration.ofSeconds 1).inNanoseconds ≤ (Duration.ofMilliseconds 384).inNanoseconds := by
  decide

end Crawler

end Gleaner
