import ReleasePage.Cache.Store
import ReleasePage.Web.Exchange
import ReleasePage.Web.FetchError

/-!
# Refreshing the cache

One refresh reads the cache, makes exactly one request, with the stored token if
there is one, and settles: a confirmed release stays, a new one that can be shown
replaces the cache, and after any failure the cached release stays. A refresh
itself never fails; the worst that can be shown is an old release or none.
-/

namespace ReleasePage.Cache

open ReleasePage.Number (Duration)
open ReleasePage.Web (Answer FetchError Request Response)

/-- How the cache is refreshed. -/
structure RefreshOptions where
  /-- The address of the release. -/
  url : String
  /-- The version of the cache format. Records of any other version are
  discarded. -/
  version : Nat
  /-- The greatest delay of an answer. -/
  timeout : Duration
  /-- How records are turned into releases. -/
  normalizer : Normalizer

/-- How a refresh ended. -/
inductive Outcome where
  /-- The cached release was confirmed. -/
  | unchanged
  /-- There is a new release. -/
  | changed
  /-- There was no usable answer. -/
  | failed (error : FetchError)
  deriving Repr, DecidableEq

/-- The outcome is a failure. -/
def Outcome.isFailed : Outcome → Bool
  | .failed _ => true
  | _ => false

/-- The result of a refresh. -/
structure Refreshed where
  /-- What is to be shown. -/
  record : CacheRecord
  /-- How it came about. -/
  outcome : Outcome
  /-- How storing a new release ended, if there was one. -/
  saved : Option (Except StoreError Unit)
  /-- The requests that were made, in order. -/
  requests : List Request

/-- The record a refresh starts from. Unreadable records and those of another
version count as none. -/
def usable (version : Nat) : Except StoreError (Option CacheRecord) → CacheRecord
  | .ok (some record) => if record.version = version then record else .empty version
  | .ok none => .empty version
  | .error _ => .empty version

/-- Reads the record a refresh starts from. -/
def load {σ : Type} (store : Store σ) (state : σ) (version : Nat) : CacheRecord :=
  usable version (store.read state)

/-- The request of a refresh. -/
def RefreshOptions.request (options : RefreshOptions) (record : CacheRecord) : Request :=
  .conditional options.url record.token

/-- The new record that a response brings, nothing if the old one is
confirmed. -/
def RefreshOptions.interpret (options : RefreshOptions) (response : Response) :
    Except FetchError (Option CacheRecord) :=
  if response.status = 304 then .ok none
  else if response.status = 200 then
    match options.normalizer.release response.body with
    | .error error => .error (.release error)
    | .ok release => .ok (some ⟨options.version, some release, response.header? "etag"⟩)
  else .error (.status response.status options.url)

/-- The new record that an answer brings, nothing if the old one is
confirmed. -/
def RefreshOptions.settle (options : RefreshOptions) (answer : Answer) :
    Except FetchError (Option CacheRecord) :=
  if options.timeout.nanoseconds < answer.delay.nanoseconds then .error (.timeout options.timeout)
  else
    match answer.result with
    | .error text => .error (.transport text)
    | .ok response => options.interpret response

/-- Ends the refresh of a record once its requests are settled: what is new is
stored, and without news the record stays. -/
def conclude {σ : Type} (store : Store σ) (state : σ) (record : CacheRecord)
    (requests : List Request) (news : Except FetchError (Option CacheRecord)) : Refreshed × σ :=
  match news with
  | .ok none => (⟨record, .unchanged, none, requests⟩, state)
  | .ok (some fresh) =>
    let (saved, state) := store.write state fresh
    (⟨fresh, .changed, some saved, requests⟩, state)
  | .error error => (⟨record, .failed error, none, requests⟩, state)

/-- Makes the request for a record and stores what is new. -/
def revalidate {σ : Type} (store : Store σ) (options : RefreshOptions)
    (client : Request → Answer) (state : σ) (record : CacheRecord) : Refreshed × σ :=
  let request := options.request record
  conclude store state record [request] (options.settle (client request))

/-- Reads the cache and makes the request for what it holds. -/
def refresh {σ : Type} (store : Store σ) (options : RefreshOptions)
    (client : Request → Answer) (state : σ) : Refreshed × σ :=
  revalidate store options client state (load store state options.version)

end ReleasePage.Cache
