import Mathlib
import ReleasePage.Cache.Refresh
import ReleasePage.Proofs.RoundTrip

/-!
# What a refresh does

A refresh makes one request, with the token of the record it starts from. Only a
response with status 200 that arrives in time and describes a release brings a new
record, which holds that release together with the token of the same response.
Without news nothing is stored and the old record stays.
-/

namespace ReleasePage

open ReleasePage.Web (Answer FetchError Request Response)

/-- The token that a request carries. -/
def Web.Request.token? (request : Request) : Option String :=
  request.headers.lookup "If-None-Match"

/-- A conditional request carries its token. -/
theorem Web.Request.token?_conditional (url : String) (token : Option String) :
    (Request.conditional url token).token? = token := by
  cases token with
  | none => rfl
  | some value => rfl

namespace Cache

/-- The record that a response brings to a refresh: its release, as the normalizer
reads it, and its token. -/
structure Brings (options : RefreshOptions) (answer : Answer) (record : CacheRecord) : Prop where
  /-- The answer came in time. -/
  inTime : answer.delay.nanoseconds ≤ options.timeout.nanoseconds
  /-- The answer is one response with a release. -/
  response : ∃ response release, answer.result = .ok response ∧ response.status = 200 ∧
    options.normalizer.release response.body = .ok release ∧
    record = ⟨options.version, some release, response.header? "etag"⟩

/-- An answer settles to a new record exactly if it brings that record. -/
theorem settle_eq_some {options : RefreshOptions} {answer : Answer} {record : CacheRecord} :
    options.settle answer = .ok (some record) ↔ Brings options answer record := by
  rw [RefreshOptions.settle]
  constructor
  · intro h
    split_ifs at h with ht
    cases hr : answer.result with
    | error text =>
      rw [hr] at h
      cases h
    | ok response =>
      rw [hr] at h
      simp only [RefreshOptions.interpret] at h
      split_ifs at h with h304 h200
      · cases h
      · cases hn : options.normalizer.release response.body with
        | error error =>
          rw [hn] at h
          cases h
        | ok release =>
          rw [hn] at h
          cases h
          exact ⟨Nat.le_of_not_lt ht, response, release, hr, h200, hn, rfl⟩
  · rintro ⟨ht, response, release, hr, h200, hn, rfl⟩
    rw [if_neg (Nat.not_lt.mpr ht), hr]
    have h304 : response.status ≠ 304 := by omega
    simp only [RefreshOptions.interpret, if_neg h304, if_pos h200, hn]

/-- A record that a response brings can be written and read back. -/
theorem Brings.valid {options : RefreshOptions} {answer : Answer} {record : CacheRecord}
    (h : Brings options answer record) (hv : options.version < Number.words32) :
    record.Valid := by
  obtain ⟨response, release, -, -, hn, rfl⟩ := h.response
  refine ⟨hv, ?_⟩
  intro other ho
  cases ho
  exact Normalizer.built_release hn

/-- A refresh ends with the requests it has made. -/
theorem requests_conclude {σ : Type} (store : Store σ) (state : σ) (record : CacheRecord)
    (requests : List Request) (news : Except FetchError (Option CacheRecord)) :
    (conclude store state record requests news).1.requests = requests := by
  cases news with
  | error error => rfl
  | ok fresh =>
    cases fresh with
    | none => rfl
    | some fresh => rfl

/-- Without news the record stays and nothing is stored. -/
theorem conclude_of_no_news {σ : Type} (store : Store σ) (state : σ) (record : CacheRecord)
    (requests : List Request) {news : Except FetchError (Option CacheRecord)}
    (h : ∀ fresh, news ≠ .ok (some fresh)) :
    (conclude store state record requests news).1.record = record ∧
      (conclude store state record requests news).2 = state := by
  cases news with
  | error error => exact ⟨rfl, rfl⟩
  | ok fresh =>
    cases fresh with
    | none => exact ⟨rfl, rfl⟩
    | some fresh => exact absurd rfl (h fresh)

/-- A refresh that changes the record has news, and stores it. -/
theorem news_of_changed {σ : Type} {store : Store σ} {state after : σ} {record : CacheRecord}
    {requests : List Request} {news : Except FetchError (Option CacheRecord)}
    {refreshed : Refreshed}
    (h : conclude store state record requests news = (refreshed, after))
    (hc : refreshed.outcome = .changed) :
    news = .ok (some refreshed.record) ∧
      ∃ saved, store.write state refreshed.record = (saved, after) ∧
        refreshed.saved = some saved := by
  cases news with
  | error error =>
    cases h
    cases hc
  | ok fresh =>
    cases fresh with
    | none =>
      cases h
      cases hc
    | some fresh =>
      cases h
      exact ⟨rfl, _, rfl, rfl⟩

/-- The one request of a refresh carries the token of the record it starts
from. -/
theorem requests_refresh {σ : Type} (store : Store σ) (options : RefreshOptions)
    (client : Request → Answer) (state : σ) :
    (refresh store options client state).1.requests =
      [options.request (load store state options.version)] :=
  requests_conclude store state _ _ _

/-- A refresh shows and stores what a response brings. -/
theorem refresh_of_brings {σ : Type} (store : Store σ) {options : RefreshOptions}
    {client : Request → Answer} {state : σ} {record : CacheRecord}
    (h : Brings options (client (options.request (load store state options.version))) record) :
    (refresh store options client state).1.record = record ∧
      (refresh store options client state).1.outcome = .changed ∧
      (refresh store options client state).1.saved = some (store.write state record).1 ∧
      (refresh store options client state).2 = (store.write state record).2 := by
  rw [refresh, revalidate, settle_eq_some.mpr h]
  exact ⟨rfl, rfl, rfl, rfl⟩

/-- Options with rules that fit no file and universal time. -/
def sampleOptions : RefreshOptions where
  url := "latest"
  version := 1
  timeout := ⟨5000000000⟩
  normalizer := ⟨⟨⟨1, []⟩, .strict⟩, ⟨0, []⟩⟩

/-- The content of a response that describes a release without files. -/
def sampleBody : Text.Bytes :=
  Text.bytes ("\x7b\"name\":\"v1\",\"html_url\":\"h\",\"tarball_url\":\"t\",\"zipball_url\":\"z\"," ++
    "\"draft\":false,\"prerelease\":false,\"published_at\":\"2020-01-01T00:00:00Z\"," ++
    "\"assets\":[]\x7d")

/-- An answer with that content and a token. -/
def sampleAnswer : Answer := ⟨⟨0⟩, .ok ⟨200, [("etag", "e1")], sampleBody⟩⟩

/-- The release that the content describes. -/
def describedRelease : Release :=
  ⟨"v1", "h", "", "1 Jan 2020", ⟨"t", "v1.tar"⟩, ⟨"z", "v1.zip"⟩, .empty⟩

/-- The record that the answer brings. -/
def sampleRecord : CacheRecord := ⟨1, some describedRelease, some "e1"⟩

/-- The sample answer brings the sample record. -/
theorem brings_sample : Brings sampleOptions sampleAnswer sampleRecord :=
  ⟨by decide, _, describedRelease, rfl, rfl, by decide +kernel, by decide +kernel⟩

end Cache

end ReleasePage
