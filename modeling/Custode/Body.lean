import Custode.Config

/-!
# Body accounting

`body.rs`: the accounted request body, and the streaming response account that adds chunks up to a
limit. The streaming hasher is the bytes it was fed, so that finalising it is one application of
the hash to them.

`ResponseAccount.Sound` is the invariant of the account: it counts the bytes it was fed, and they
are within the limit. `addChunk_of_fits` and `addChunk_of_exceeds` are the two things one chunk can
do to a sound account; in both the `expect`s of the source are passed. `feed` hands chunks to the
account until one is refused, and `feed_spec` says what is left of the account then.
-/

namespace Custode

open Found Found.Text

/-- Observed non-empty body accounting state.
Source: `body.rs` `NonEmptyBodyObservation`, with `BodyDigest` -/
structure NonEmptyBodyObservation where
  blake3 : Hash
  bytes : NonZeroU64
  deriving DecidableEq

/-- Observed response body bytes that exceeded the configured bound.
Source: `body.rs` `OversizedResponseBody` -/
structure OversizedResponseBody where
  observation : NonEmptyBodyObservation
  deriving DecidableEq

/-- Observed body accounting state.
Source: `body.rs` `BodyObservation` -/
inductive BodyObservation where
  | empty
  | nonEmpty (observation : NonEmptyBodyObservation)
  deriving DecidableEq

/-- A non-zero count (`NonZeroU64::new`). -/
def nonZeroU64 (n : Nat) : Option NonZeroU64 :=
  if h : 0 < n ∧ n ≤ u64Max then some ⟨n, h.1, h.2⟩ else none

/-- A positive number is a non-zero one. -/
lemma nonZeroU64_of_pos {n : Nat} (hpos : 0 < n) (hmax : n ≤ u64Max) :
    nonZeroU64 n = some ⟨n, hpos, hmax⟩ := by
  rw [nonZeroU64, dif_pos ⟨hpos, hmax⟩]

/-! ## Request bodies -/

/-- Accounted request body bytes.
Source: `body.rs` `AccountedBody` -/
structure AccountedBody where
  bytes : Bytes
  deriving DecidableEq

/-- The observed body accounting state.
Source: `body.rs` `AccountedBody::observation` -/
def AccountedBody.observation (X : Crates) (body : AccountedBody) : BodyObservation :=
  match nonZeroU64 body.bytes.data.length with
  | none => .empty
  | some bytes => .nonEmpty ⟨X.blake3 body.bytes.data, bytes⟩

/-- Request body handling error.
Source: `body.rs` `RequestBodyError` -/
inductive RequestBodyError where
  | read
  | tooLarge
  deriving DecidableEq

/-! ## Response bodies -/

/-- A streaming BLAKE3 hasher, as the bytes it was fed. -/
structure Hasher where
  fed : List UInt8
  deriving DecidableEq

/-- Feeds a chunk (`Hasher::update`). -/
def Hasher.update (hasher : Hasher) (chunk : Bytes) : Hasher := ⟨hasher.fed ++ chunk.data⟩

/-- The digest of the bytes fed so far (`Hasher::finalize`). -/
def Hasher.finalize (X : Crates) (hasher : Hasher) : Hash := X.blake3 hasher.fed

/-- Streaming response body account.
Source: `body.rs` `ResponseAccount` -/
structure ResponseAccount where
  bytes : Nat
  hasher : Hasher
  maxBytes : ResponseBodyBytes
  deriving DecidableEq

namespace ResponseAccount

/-- Creates a response account.
Source: `body.rs` `ResponseAccount::new` -/
def new (maxBytes : ResponseBodyBytes) : ResponseAccount := ⟨0, ⟨[]⟩, maxBytes⟩

/-- The observed response body accounting state.
Source: `body.rs` `ResponseAccount::observation` -/
def observation (X : Crates) (account : ResponseAccount) : BodyObservation :=
  match nonZeroU64 account.bytes with
  | none => .empty
  | some bytes => .nonEmpty ⟨account.hasher.finalize X, bytes⟩

/-- Checked `u64` addition. -/
def checkedAdd (a b : Nat) : Option Nat := if a + b ≤ u64Max then some (a + b) else none

/-- Checked `u64` subtraction. -/
def checkedSub (a b : Nat) : Option Nat := if b ≤ a then some (a - b) else none

/-- Builds the observed oversized-body summary without mutating accepted state.
Source: `body.rs` `ResponseAccount::oversized_body` -/
def oversizedBody (X : Crates) (account : ResponseAccount) (chunk : Bytes) (chunkLen : Nat) :
    Option OversizedResponseBody := do
  let bytes ← checkedAdd account.bytes chunkLen
  let nonEmptyBytes ← nonZeroU64 bytes
  return ⟨⟨(account.hasher.update chunk).finalize X, nonEmptyBytes⟩⟩

/-- Adds a response chunk to the account. A slice length always fits the `u64` counter.
Source: `body.rs` `ResponseAccount::add_chunk`, `chunk_len_u64` -/
def addChunk (X : Crates) (account : ResponseAccount) (chunk : Bytes) :
    Option (Except OversizedResponseBody ResponseAccount) := do
  let chunkLen := chunk.data.length
  let remaining ← checkedSub account.maxBytes.get account.bytes
  if remaining < chunkLen then
    let body ← oversizedBody X account chunk chunkLen
    return .error body
  let bytes ← checkedAdd account.bytes chunkLen
  return .ok { account with bytes := bytes, hasher := account.hasher.update chunk }

/-- The account counts the bytes it was fed, and they are within the limit. -/
structure Sound (account : ResponseAccount) : Prop where
  counted : account.bytes = account.hasher.fed.length
  within : account.bytes ≤ account.maxBytes.get

/-- A new account is sound. -/
lemma sound_new (maxBytes : ResponseBodyBytes) : (new maxBytes).Sound :=
  ⟨rfl, Nat.zero_le _⟩

variable {X : Crates} {account : ResponseAccount} {chunk : Bytes}

/-- The account after a chunk that fits. -/
def extend (account : ResponseAccount) (chunk : Bytes) : ResponseAccount :=
  { account with bytes := account.bytes + chunk.data.length, hasher := account.hasher.update chunk }

/-- An extended account was fed the chunk as well. -/
@[simp] lemma extend_fed : (account.extend chunk).hasher.fed = account.hasher.fed ++ chunk.data :=
  rfl

/-- An extended account keeps its limit. -/
@[simp] lemma extend_maxBytes : (account.extend chunk).maxBytes = account.maxBytes := rfl

/-- An account that is extended within its limit stays sound. -/
lemma sound_extend (hs : account.Sound)
    (hfit : account.hasher.fed.length + chunk.data.length ≤ account.maxBytes.get) :
    (account.extend chunk).Sound := by
  constructor
  · simp [extend, hs.counted, Hasher.update]
  · simpa [extend, hs.counted] using hfit

/-- The limit leaves room to count one more chunk. -/
lemma maxResponseBytes_le : maxResponseBytes + isizeMax ≤ u64Max := by decide

/-- A chunk within the limit is added. -/
lemma addChunk_of_fits (hs : account.Sound)
    (hfit : account.hasher.fed.length + chunk.data.length ≤ account.maxBytes.get) :
    addChunk X account chunk = some (.ok (account.extend chunk)) := by
  have hmax := account.maxBytes.bounded
  have hbound := maxResponseBytes_le
  have hcounted := hs.counted
  have hremaining : ¬ account.maxBytes.get - account.bytes < chunk.data.length := by omega
  have hsum : account.bytes + chunk.data.length ≤ u64Max := by omega
  simp [addChunk, checkedSub, hs.within, hremaining, checkedAdd, hsum, extend]

/-- A chunk that crosses the limit is reported with everything observed, and not added. -/
lemma addChunk_of_exceeds (hs : account.Sound)
    (hexceeds : account.maxBytes.get < account.hasher.fed.length + chunk.data.length) :
    ∃ body : OversizedResponseBody, addChunk X account chunk = some (.error body) ∧
      body.observation.blake3 = X.blake3 (account.hasher.fed ++ chunk.data) ∧
      body.observation.bytes.get = account.hasher.fed.length + chunk.data.length := by
  have hmax := account.maxBytes.bounded
  have hbound := maxResponseBytes_le
  have hcounted := hs.counted
  have hwithin := hs.within
  have hchunk := chunk.fits
  have hremaining : account.maxBytes.get - account.bytes < chunk.data.length := by omega
  have hsum : account.bytes + chunk.data.length ≤ u64Max := by omega
  have hpos : 0 < account.bytes + chunk.data.length := by omega
  refine ⟨⟨⟨(account.hasher.update chunk).finalize X, ⟨_, hpos, hsum⟩⟩⟩, ?_, rfl, ?_⟩
  · simp [addChunk, checkedSub, hwithin, hremaining, checkedAdd, hsum, oversizedBody,
      nonZeroU64_of_pos hpos hsum]
  · rw [← hcounted]

/-- What a sound account reports: the length and digest of the bytes it was fed. -/
lemma observation_of_sound (hs : account.Sound) :
    (account.hasher.fed = [] ∧ account.observation X = .empty) ∨
      ∃ bytes : NonZeroU64, bytes.get = account.hasher.fed.length ∧
        account.observation X = .nonEmpty ⟨X.blake3 account.hasher.fed, bytes⟩ := by
  have hmax := account.maxBytes.bounded
  have hbound := maxResponseBytes_le
  have hwithin := hs.within
  rcases Nat.eq_zero_or_pos account.bytes with hzero | hpos
  · refine .inl ⟨List.length_eq_zero_iff.mp (hs.counted ▸ hzero), ?_⟩
    simp [observation, nonZeroU64, hzero]
  · have hle : account.bytes ≤ u64Max := by omega
    refine .inr ⟨⟨account.bytes, hpos, hle⟩, hs.counted, ?_⟩
    simp [observation, nonZeroU64_of_pos hpos hle, Hasher.finalize]

/-! ## Sequences of chunks -/

/-- The bytes of a sequence of chunks. -/
def joined (chunks : List Bytes) : List UInt8 := chunks.flatMap fun chunk => chunk.data

/-- No chunk, no byte. -/
@[simp] lemma joined_nil : joined [] = [] := rfl

/-- The bytes of a list of chunks, from its head. -/
@[simp] lemma joined_cons (chunk : Bytes) (chunks : List Bytes) :
    joined (chunk :: chunks) = chunk.data ++ joined chunks := List.flatMap_cons

/-- The bytes of two lists of chunks. -/
@[simp] lemma joined_append (chunks chunks' : List Bytes) :
    joined (chunks ++ chunks') = joined chunks ++ joined chunks' := List.flatMap_append

/-- The bytes of one chunk. -/
@[simp] lemma joined_singleton (chunk : Bytes) : joined [chunk] = chunk.data :=
  List.flatMap_singleton _ _

/-- The bytes of a list with one more chunk. -/
lemma joined_snoc (chunks : List Bytes) (chunk : Bytes) :
    joined (chunks ++ [chunk]) = joined chunks ++ chunk.data := by
  rw [joined_append, joined_singleton]

/-- A prefix of the chunks has a prefix of the bytes. -/
lemma joined_mono {chunks chunks' : List Bytes} (h : chunks <+: chunks') :
    joined chunks <+: joined chunks' := by
  obtain ⟨rest, rfl⟩ := h
  rw [joined_append]
  exact List.prefix_append _ _

/-- Adding these chunks to a new account, one after the other, gives this account. -/
inductive Accounted (X : Crates) (maxBytes : ResponseBodyBytes) :
    List Bytes → ResponseAccount → Prop
  | nil : Accounted X maxBytes [] (new maxBytes)
  | snoc {chunks : List Bytes} {account account' : ResponseAccount} {chunk : Bytes}
      (before : Accounted X maxBytes chunks account)
      (added : addChunk X account chunk = some (.ok account')) :
      Accounted X maxBytes (chunks ++ [chunk]) account'

variable {maxBytes : ResponseBodyBytes} {chunks : List Bytes}

/-- A chunk is added or reported, never a panic. -/
lemma addChunk_cases (X : Crates) (hs : account.Sound) (chunk : Bytes) :
    (account.hasher.fed.length + chunk.data.length ≤ account.maxBytes.get ∧
        addChunk X account chunk = some (.ok (account.extend chunk))) ∨
      (account.maxBytes.get < account.hasher.fed.length + chunk.data.length ∧
        ∃ body : OversizedResponseBody, addChunk X account chunk = some (.error body) ∧
          body.observation.blake3 = X.blake3 (account.hasher.fed ++ chunk.data) ∧
          body.observation.bytes.get = account.hasher.fed.length + chunk.data.length) := by
  rcases Nat.lt_or_ge account.maxBytes.get
    (account.hasher.fed.length + chunk.data.length) with hexceeds | hfit
  · exact .inr ⟨hexceeds, addChunk_of_exceeds hs hexceeds⟩
  · exact .inl ⟨hfit, addChunk_of_fits hs hfit⟩

/-- The account of a sequence of chunks is sound and was fed exactly these chunks. -/
lemma Accounted.spec (h : Accounted X maxBytes chunks account) :
    account.Sound ∧ account.hasher.fed = joined chunks ∧ account.maxBytes = maxBytes := by
  induction h with
  | nil => exact ⟨sound_new maxBytes, rfl, rfl⟩
  | @snoc chunks account account' chunk before added ih =>
      obtain ⟨hs, hfed, hmax⟩ := ih
      rcases addChunk_cases X hs chunk with ⟨hfit, hadd⟩ | ⟨-, body, hadd, -⟩
      · rw [hadd, Option.some.injEq, Except.ok.injEq] at added
        subst added
        refine ⟨sound_extend hs hfit, ?_, hmax⟩
        rw [extend_fed, hfed, joined_append, joined_singleton]
      · rw [hadd] at added
        cases added

/-- Accounted chunks are within the limit. -/
lemma Accounted.within (h : Accounted X maxBytes chunks account) :
    (joined chunks).length ≤ maxBytes.get := by
  obtain ⟨hs, hfed, hmax⟩ := h.spec
  rw [← hfed, ← hs.counted, ← hmax]
  exact hs.within

/-! ## The account in place -/

/-- Adds a response chunk to the account: the result, and the account that is left.
Source: `body.rs` `ResponseAccount::add_chunk`, on `&mut self` -/
def addChunkInPlace (X : Crates) (account : ResponseAccount) (chunk : Bytes) :
    Option (Except OversizedResponseBody Unit × ResponseAccount) := do
  let chunkLen := chunk.data.length
  let remaining ← checkedSub account.maxBytes.get account.bytes
  if remaining < chunkLen then
    let body ← oversizedBody X account chunk chunkLen
    return (.error body, account)
  let bytes ← checkedAdd account.bytes chunkLen
  let counted := { account with bytes := bytes }
  return (.ok (), { counted with hasher := counted.hasher.update chunk })

/-- The account that is left is the extended one or, if the chunk is refused, the one there was. -/
lemma addChunkInPlace_eq (chunk : Bytes) :
    addChunkInPlace X account chunk = (addChunk X account chunk).map fun result =>
      match result with
      | .ok account' => (.ok (), account')
      | .error body => (.error body, account) := by
  unfold addChunkInPlace addChunk
  cases checkedSub account.maxBytes.get account.bytes with
  | none => rfl
  | some remaining =>
      simp only [Option.bind_eq_bind, Option.bind_some]
      split_ifs
      · cases oversizedBody X account chunk chunk.data.length <;> rfl
      · cases checkedAdd account.bytes chunk.data.length <;> rfl

/-- A chunk that is taken changes the account in place. -/
lemma addChunkInPlace_of_ok {account' : ResponseAccount}
    (h : addChunk X account chunk = some (.ok account')) :
    addChunkInPlace X account chunk = some (.ok (), account') := by
  rw [addChunkInPlace_eq, h, Option.map_some]

/-- A chunk that is refused leaves the account in place. -/
lemma addChunkInPlace_of_error {body : OversizedResponseBody}
    (h : addChunk X account chunk = some (.error body)) :
    addChunkInPlace X account chunk = some (.error body, account) := by
  rw [addChunkInPlace_eq, h, Option.map_some]

/-- What is left after chunks were fed: those that were accepted, the account, and the report of
the chunk that was refused. -/
structure Fed where
  accepted : List Bytes
  account : ResponseAccount
  refused : Option OversizedResponseBody

/-- Feeds chunks to an account until one is refused. -/
def feed (X : Crates) (account : ResponseAccount) : List Bytes → Option Fed
  | [] => some ⟨[], account, none⟩
  | chunk :: rest =>
      match addChunkInPlace X account chunk with
      | none => none
      | some (.error body, account') => some ⟨[], account', some body⟩
      | some (.ok (), account') =>
          (feed X account' rest).map fun fed => { fed with accepted := chunk :: fed.accepted }

/-- Fed chunks are accepted up to the first that crosses the limit, and none panics. -/
lemma feed_spec (hs : account.Sound) (chunks : List Bytes) :
    ∃ fed, feed X account chunks = some fed ∧ fed.account.Sound ∧
      fed.account.maxBytes = account.maxBytes ∧
      fed.account.hasher.fed = account.hasher.fed ++ joined fed.accepted ∧
      (fed.refused = none → fed.accepted = chunks) ∧
      ∀ body, fed.refused = some body → ∃ chunk rest, chunks = fed.accepted ++ chunk :: rest ∧
        addChunkInPlace X fed.account chunk = some (.error body, fed.account) := by
  induction chunks generalizing account with
  | nil => exact ⟨⟨[], account, none⟩, rfl, hs, rfl, by simp, by simp, by simp⟩
  | cons chunk rest ih =>
      rcases addChunk_cases X hs chunk with ⟨hfit, hadd⟩ | ⟨-, body, hadd, -⟩
      · obtain ⟨fed, hfed, hsound, hmax, hbytes, haccepted, hrefused⟩ :=
          ih (sound_extend hs hfit)
        refine ⟨{ fed with accepted := chunk :: fed.accepted }, ?_, hsound, hmax, ?_, ?_, ?_⟩
        · rw [feed, addChunkInPlace_of_ok hadd]
          simp only [hfed, Option.map_some]
        · simp only [hbytes, extend_fed, joined_cons, List.append_assoc]
        · intro hnone
          rw [haccepted hnone]
        · intro body hbody
          obtain ⟨refusedChunk, later, hchunks, hrefuse⟩ := hrefused body hbody
          exact ⟨refusedChunk, later, by rw [hchunks, List.cons_append], hrefuse⟩
      · have hplace := addChunkInPlace_of_error hadd
        refine ⟨⟨[], account, some body⟩, ?_, hs, rfl, by simp, by simp, ?_⟩
        · rw [feed, hplace]
        · intro body' hbody'
          obtain rfl := Option.some.inj hbody'
          exact ⟨chunk, rest, rfl, hplace⟩

/-- The two accounts of the same bytes agree. -/
lemma observation_eq_of_sound (hs : account.Sound) {body : AccountedBody}
    (hbody : body.bytes.data = account.hasher.fed) :
    account.observation X = body.observation X := by
  unfold observation AccountedBody.observation
  rw [hbody, ← hs.counted]
  rfl

/-- Response accounting: whatever chunks are fed until one is refused, nothing panics, the count
stays within the limit, and the observation is the length and digest of the accepted bytes, however
they were cut, as for a request body of these bytes. The next chunk is refused exactly when it
crosses the limit; that leaves the account as it was and reports all bytes seen. -/
theorem responseAccount_accounts (X : Crates) (maxBytes : ResponseBodyBytes)
    (chunks : List Bytes) :
    ∃ fed, feed X (new maxBytes) chunks = some fed ∧
      ((fed.refused = none ∧ fed.accepted = chunks) ∨
        ∃ body chunk rest, fed.refused = some body ∧ chunks = fed.accepted ++ chunk :: rest ∧
          addChunkInPlace X fed.account chunk = some (.error body, fed.account)) ∧
      fed.account.bytes = (joined fed.accepted).length ∧
      fed.account.bytes ≤ maxBytes.get ∧
      ((joined fed.accepted = [] ∧ fed.account.observation X = .empty) ∨
        ∃ bytes : NonZeroU64, bytes.get = (joined fed.accepted).length ∧
          fed.account.observation X = .nonEmpty ⟨X.blake3 (joined fed.accepted), bytes⟩) ∧
      (∀ chunks' fed', feed X (new maxBytes) chunks' = some fed' →
        joined fed'.accepted = joined fed.accepted →
        fed'.account.observation X = fed.account.observation X) ∧
      (∀ body : AccountedBody, body.bytes.data = joined fed.accepted →
        fed.account.observation X = body.observation X) ∧
      ∀ chunk : Bytes,
        (maxBytes.get < (joined fed.accepted).length + chunk.data.length ∧
          ∃ body : OversizedResponseBody,
            addChunkInPlace X fed.account chunk = some (.error body, fed.account) ∧
            maxBytes.get < body.observation.bytes.get ∧
            body.observation.bytes.get = (joined fed.accepted).length + chunk.data.length ∧
            body.observation.blake3 = X.blake3 (joined fed.accepted ++ chunk.data)) ∨
        ((joined fed.accepted).length + chunk.data.length ≤ maxBytes.get ∧
          ∃ account', addChunkInPlace X fed.account chunk = some (.ok (), account')) := by
  have hfed (chunks : List Bytes) := feed_spec (X := X) (sound_new maxBytes) chunks
  obtain ⟨fed, hrun, hsound, hmax, hbytes, haccepted, hrefused⟩ := hfed chunks
  have hbytes : fed.account.hasher.fed = joined fed.accepted := hbytes
  have hlimit : fed.account.maxBytes.get = maxBytes.get := by rw [hmax, new]
  refine ⟨fed, hrun, ?_, ?_, ?_, ?_, ?_, ?_, ?_⟩
  · cases hresult : fed.refused with
    | none => exact .inl ⟨rfl, haccepted hresult⟩
    | some body =>
        obtain ⟨chunk, rest, hchunks, hrefuse⟩ := hrefused body hresult
        exact .inr ⟨body, chunk, rest, rfl, hchunks, hrefuse⟩
  · rw [hsound.counted, hbytes]
  · rw [← hlimit]
    exact hsound.within
  · rw [← hbytes]
    exact observation_of_sound hsound
  · intro chunks' fed' hrun' hsame
    obtain ⟨fed'', hrun'', hsound', -, hbytes', -⟩ := hfed chunks'
    obtain rfl : fed'' = fed' := Option.some.inj (hrun''.symm.trans hrun')
    have hbytes' : fed''.account.hasher.fed = joined fed''.accepted := hbytes'
    unfold observation
    rw [hsound'.counted, hsound.counted, hbytes', hbytes, hsame]
    simp only [Hasher.finalize, hbytes', hbytes, hsame]
  · intro body hbody
    apply observation_eq_of_sound hsound
    rw [hbody, hbytes]
  · intro chunk
    rcases addChunk_cases X hsound chunk with ⟨hfit, hadd⟩ | ⟨hexceeds, body, hadd, hdigest, hcount⟩
    · rw [hbytes, hlimit] at hfit
      exact .inr ⟨hfit, _, addChunkInPlace_of_ok hadd⟩
    · rw [hbytes, hlimit] at hexceeds
      rw [hbytes] at hdigest hcount
      refine .inl ⟨hexceeds, body, addChunkInPlace_of_error hadd, ?_, hcount, hdigest⟩
      rw [hcount]
      exact hexceeds

end ResponseAccount

end Custode
