import MasqMobile.Lib.Database
import MasqMobile.Session.Manager

/-!
# The recovery store

`node/src/proxy_server/receipt_session_recovery.rs`. The manager only sees the trait; what its recovery rests on is
stated as laws (`RecordingStore`): the store holds the last saved header and the last saved route of each stream, and
an operation that fails has either taken effect or not. `FaithfulStore` adds that a session inside its window can be
read back. The store of the source keeps both in two tables of encrypted rows.

Every operation of the source is one statement or one transaction, so a database error changes nothing, and which
statement raised it shows in the message alone: `fault n` is the error that the store's `n`-th operation meets, if
any. The expiry column holds a number as text; here it is the number.

| here | there |
| --- | --- |
| `RecoveryEnv.encryptHeader`, `encryptRoute` and their inverses | `encrypt`, `decrypt` (receipt_session_recovery.rs:74, 83) |
| `RecoveryTables.saveHeader` | `save_header_with` (receipt_session_recovery.rs:97) |
-/

namespace MasqMobile

open Fallible

variable {κ : Type} {hdr : PersistedReceiptSessionHeader} {af : RecoveryContent}

/-! ## What a store owes the manager -/

structure RecoveryContent where
  headerOpt : Option PersistedReceiptSessionHeader
  routes : Table ReceiptRouteState ReceiptRouteState.streamKey

namespace RecoveryContent

def empty : RecoveryContent := ⟨none, .empty⟩

def saveHeader (c : RecoveryContent) (header : PersistedReceiptSessionHeader) : RecoveryContent :=
  { c with headerOpt := some header }

def saveHeaderAndRoute (c : RecoveryContent) (header : PersistedReceiptSessionHeader) (route : ReceiptRouteState) :
    RecoveryContent :=
  ⟨some header, c.routes.put route⟩

end RecoveryContent

section Laws

variable {σ : Type} [ReceiptSessionRecoveryStore σ] (Holds : σ → RecoveryContent → Prop)

/-- A write that succeeds takes effect; one that fails may have. -/
def Commits (before after : RecoveryContent) : Except String Unit × σ → Prop
  | (.ok (), store) => Holds store after
  | (.error _, store) => Holds store before ∨ Holds store after

/-- A read returns what the store holds; it may drop an expired session on the way. -/
def Reads (c : RecoveryContent) :
    Except String (Option (PersistedReceiptSessionHeader × List ReceiptRouteState)) × σ → Prop
  | (.ok (some (header, routes)), store) =>
    c.headerOpt = some header ∧ routes.Perm c.routes.rows ∧ Holds store c
  | (.ok none, store) => Holds store c ∨ Holds store .empty
  | (.error _, store) => Holds store c ∨ Holds store .empty

/-- A store whose operations may fail, but which never makes anything up. -/
structure RecordingStore : Prop where
  saveHeader : ∀ {store : σ} {c : RecoveryContent} (header : PersistedReceiptSessionHeader), Holds store c →
    Commits Holds c (c.saveHeader header) (ReceiptSessionRecoveryStore.saveHeader store header)
  saveHeaderAndRoute : ∀ {store : σ} {c : RecoveryContent} (header : PersistedReceiptSessionHeader)
    (route : ReceiptRouteState), Holds store c → Commits Holds c (c.saveHeaderAndRoute header route)
        (ReceiptSessionRecoveryStore.saveHeaderAndRoute store header route)
  clear : ∀ {store : σ} {c : RecoveryContent}, Holds store c →
    Commits Holds c .empty (ReceiptSessionRecoveryStore.clear store)
  load : ∀ {store : σ} {c : RecoveryContent} (now : Nat), Holds store c →
    Reads Holds c (ReceiptSessionRecoveryStore.load store now)

/-- A recording store from which a session is read back as long as it is not expired. -/
structure FaithfulStore : Prop extends RecordingStore Holds where
  available : ∀ {store : σ} {c : RecoveryContent} {header : PersistedReceiptSessionHeader} {now : Nat},
    Holds store c → c.headerOpt = some header →
    (∀ r ∈ c.routes.rows, r.request.authorization = header.authorization) →
    now ≤ header.authorization.policy.expiresAtUnixS →
    ∃ routes store', ReceiptSessionRecoveryStore.load store now = (.ok (some (header, routes)), store')

end Laws

theorem Commits.exists_holds {σ : Type} {Holds : σ → RecoveryContent → Prop}
    {an : Except String Unit × σ} (h : Commits Holds b af an) : ∃ c, Holds an.2 c := by
  obtain ⟨_ | _, store⟩ := an
  · rcases h with h | h
    · exact ⟨_, h⟩
    · exact ⟨_, h⟩
  · exact ⟨_, h⟩

/-! ## The store of the source -/

/-- A row of `receipt_session_recovery`; its key is always `SINGLETON_ID`. -/
structure RecoveryHeaderRow (κ : Type) where
  authorizationNonce : Bytes32
  payerSessionPublicKey : PublicKey
  expiresAtUnixS : Nat
  encryptedHeader : κ

/-- A row of `receipt_session_route_recovery`. -/
structure RecoveryRouteRow (κ : Type) where
  streamKeyCbor : List UInt8
  routeEpoch : Bytes32
  encryptedRoute : κ

/-- Encryption under the recovery key to ciphertexts `κ`, the CBOR of a stream key, and the database
error that the `n`-th operation meets, if any. -/
structure RecoveryEnv (κ : Type) where
  encryptHeader : PersistedReceiptSessionHeader → Except String κ
  decryptHeader : κ → Except String PersistedReceiptSessionHeader
  encryptRoute : ReceiptRouteState → Except String κ
  decryptRoute : κ → Except String ReceiptRouteState
  streamKeyCbor : StreamKey → List UInt8
  fault : Nat → Option String

/-- Decryption inverts encryption, and stream keys have distinct encodings. -/
structure RecoveryEnv.Lawful {κ : Type} (env : RecoveryEnv κ) : Prop where
  header : ∀ {header encrypted}, env.encryptHeader header = .ok encrypted → env.decryptHeader encrypted = .ok header
  route : ∀ {route encrypted}, env.encryptRoute route = .ok encrypted → env.decryptRoute encrypted = .ok route
  cbor : Function.Injective env.streamKeyCbor

structure RecoveryTables (κ : Type) where
  headerOpt : Option (RecoveryHeaderRow κ)
  routes : Table (RecoveryRouteRow κ) RecoveryRouteRow.streamKeyCbor

namespace RecoveryTables

variable (env : RecoveryEnv κ)

/-- receipt_session_recovery.rs:261 -/
def clear : RecoveryTables κ := ⟨none, .empty⟩

def headerRow (header : PersistedReceiptSessionHeader) (encrypted : κ) : RecoveryHeaderRow κ where
  authorizationNonce := header.authorization.policy.authorizationNonce
  payerSessionPublicKey := header.authorization.policy.payerSessionPublicKey
  expiresAtUnixS := header.authorization.policy.expiresAtUnixS
  encryptedHeader := encrypted

/-- receipt_session_recovery.rs:212 -/
def saveHeader (t : RecoveryTables κ) (header : PersistedReceiptSessionHeader) : Except String (RecoveryTables κ) := do
  let encrypted ← env.encryptHeader header
  return { t with headerOpt := some (headerRow header encrypted) }

def routeRow (route : ReceiptRouteState) (encrypted : κ) : RecoveryRouteRow κ where
  streamKeyCbor := env.streamKeyCbor route.streamKey
  routeEpoch := route.request.routeEpoch
  encryptedRoute := encrypted

/-- receipt_session_recovery.rs:221 -/
def saveHeaderAndRoute (t : RecoveryTables κ) (header : PersistedReceiptSessionHeader) (route : ReceiptRouteState) :
    Except String (RecoveryTables κ) := do
  failIf (route.request.authorization ≠ header.authorization) "route authorization differs from recovery header"
  let encryptedHeader ← env.encryptHeader header
  let encryptedRoute ← env.encryptRoute route
  return ⟨some (headerRow header encryptedHeader), t.routes.put (routeRow env route encryptedRoute)⟩

/-- One turn of the loop over the route rows (receipt_session_recovery.rs:196). -/
def readRoute (header : PersistedReceiptSessionHeader) (row : RecoveryRouteRow κ) :
    Except String ReceiptRouteState := do
  let route ← env.decryptRoute row.encryptedRoute
  failIf (env.streamKeyCbor route.streamKey ≠ row.streamKeyCbor ∨ route.request.routeEpoch ≠ row.routeEpoch ∨
    route.request.authorization ≠ header.authorization) "recovery route identity does not match its index"
  return route

/-- The loop itself, over the rows in the order of their keys. -/
def readRoutes (header : PersistedReceiptSessionHeader) : List (RecoveryRouteRow κ) →
    Except String (List ReceiptRouteState)
  | [] => .ok []
  | row :: rows => do
    let route ← readRoute env header row
    let routes ← readRoutes header rows
    return route :: routes

/-- `order by stream_key_cbor`: byte strings in lexicographic order. -/
def sorted (rows : List (RecoveryRouteRow κ)) : List (RecoveryRouteRow κ) :=
  rows.insertionSort fun a b => a.streamKeyCbor ≤ b.streamKeyCbor

/-- receipt_session_recovery.rs:143 -/
def load (t : RecoveryTables κ) (nowUnixS : Nat) :
    Except String (Option (PersistedReceiptSessionHeader × List ReceiptRouteState) × RecoveryTables κ) :=
  match t.headerOpt with
  | none => .ok (none, t)
  | some row =>
    if row.expiresAtUnixS < nowUnixS then .ok (none, clear)
    else do
      let header ← env.decryptHeader row.encryptedHeader
      failIf (header.authorization.policy.authorizationNonce ≠ row.authorizationNonce ∨
        header.authorization.policy.payerSessionPublicKey ≠ row.payerSessionPublicKey ∨
        header.authorization.policy.expiresAtUnixS ≠ row.expiresAtUnixS)
        "recovery header identity does not match its index"
      let routes ← readRoutes env header (sorted t.routes.rows)
      return (some (header, routes), t)

end RecoveryTables

/-- `ReceiptSessionRecoveryStoreReal`, with the number of operations made so far. -/
structure ReceiptSessionRecoveryStoreReal {κ : Type} (env : RecoveryEnv κ) where
  tables : RecoveryTables κ
  operations : Nat

namespace ReceiptSessionRecoveryStoreReal

variable {env : RecoveryEnv κ}

/-- The empty database of a new node. -/
def fresh (env : RecoveryEnv κ) : ReceiptSessionRecoveryStoreReal env := ⟨.clear, 0⟩

/-- An operation answers with the tables it leaves, unless the database or its own checks refuse it. -/
def attempt {α : Type} (store : ReceiptSessionRecoveryStoreReal env)
    (operation : Except String (α × RecoveryTables κ)) : Except String α × ReceiptSessionRecoveryStoreReal env :=
  match env.fault store.operations, operation with
  | none, .ok (a, tables) => (.ok a, ⟨tables, store.operations + 1⟩)
  | none, .error message => (.error message, { store with operations := store.operations + 1 })
  | some message, _ => (.error message, { store with operations := store.operations + 1 })

instance : ReceiptSessionRecoveryStore (ReceiptSessionRecoveryStoreReal env) where
  load store now := store.attempt (store.tables.load env now)
  saveHeader store header := store.attempt do return ((), ← store.tables.saveHeader env header)
  saveHeaderAndRoute store header route :=
    store.attempt do return ((), ← store.tables.saveHeaderAndRoute env header route)
  clear store := store.attempt (.ok ((), .clear))

end ReceiptSessionRecoveryStoreReal

/-! ## The tables hold what was saved -/

section Real

variable (env : RecoveryEnv κ)

/-- The row decrypts to the header and repeats its identity. -/
structure HeaderRowOf (row : RecoveryHeaderRow κ) (header : PersistedReceiptSessionHeader) : Prop where
  decrypts : env.decryptHeader row.encryptedHeader = .ok header
  nonce : header.authorization.policy.authorizationNonce = row.authorizationNonce
  key : header.authorization.policy.payerSessionPublicKey = row.payerSessionPublicKey
  expiry : header.authorization.policy.expiresAtUnixS = row.expiresAtUnixS

/-- The row decrypts to the route and repeats its identity. -/
structure RouteRowOf (row : RecoveryRouteRow κ) (route : ReceiptRouteState) : Prop where
  decrypts : env.decryptRoute row.encryptedRoute = .ok route
  key : env.streamKeyCbor route.streamKey = row.streamKeyCbor
  epoch : route.request.routeEpoch = row.routeEpoch

/-- The rows of the two tables are encryptions of the content, row by row. -/
structure RecoveryTables.Hold (t : RecoveryTables κ) (c : RecoveryContent) : Prop where
  header : Option.Rel (HeaderRowOf env) t.headerOpt c.headerOpt
  routes : List.Forall₂ (RouteRowOf env) t.routes.rows c.routes.rows

variable {env} {rows : List (RecoveryRouteRow κ)} {routes : List ReceiptRouteState} {c : RecoveryContent}
  {t : RecoveryTables κ} {ro : ReceiptRouteState} {now : Nat}

namespace RecoveryTables.Hold

variable {t t' : RecoveryTables κ} {c : RecoveryContent}
theorem clear : RecoveryTables.Hold env .clear .empty := ⟨.none, .nil⟩

theorem saveHeader (hen : env.Lawful) (h : t.Hold env c)
    (hs : t.saveHeader env hdr = .ok t') : t'.Hold env (c.saveHeader hdr) := by
  simp only [RecoveryTables.saveHeader, bind_eq_ok, pure_eq_ok] at hs
  obtain ⟨encrypted, he, rfl⟩ := hs
  exact ⟨.some ⟨hen.header he, rfl, rfl, rfl⟩, h.routes⟩

theorem saveHeaderAndRoute (he : env.Lawful) (h : t.Hold env c) (hs : t.saveHeaderAndRoute env hdr ro = .ok t') :
    t'.Hold env (c.saveHeaderAndRoute hdr ro) := by
  simp only [RecoveryTables.saveHeaderAndRoute, bind_eq_ok, failIf_eq_ok, pure_eq_ok] at hs
  obtain ⟨_, -, encryptedHeader, hh, encryptedRoute, hr, rfl⟩ := hs
  refine ⟨.some ⟨he.header hh, rfl, rfl, rfl⟩, .cons ⟨he.route hr, rfl, rfl⟩ ?_⟩
  -- the replaced row is the one of the same stream on both sides
  refine List.rel_filter (fun row r hro => ?_) h.routes
  simp only [RecoveryTables.routeRow, decide_eq_true_eq, ← hro.key, ne_eq, he.cbor.eq_iff]

end RecoveryTables.Hold

theorem readRoute_eq_ok_iff {row : RecoveryRouteRow κ} : RecoveryTables.readRoute env hdr row = .ok ro ↔
      RouteRowOf env row ro ∧ ro.request.authorization = hdr.authorization := by
  simp only [RecoveryTables.readRoute, bind_eq_ok, failIf_eq_ok, pure_eq_ok, not_or, not_not]
  constructor
  · rintro ⟨_, hd, _, ⟨hk, he, ha⟩, rfl⟩
    exact ⟨⟨hd, hk, he⟩, ha⟩
  · rintro ⟨⟨hd, hk, he⟩, ha⟩
    exact ⟨ro, hd, (), ⟨hk, he, ha⟩, rfl⟩

theorem readRoutes_eq_ok_iff : RecoveryTables.readRoutes env hdr rows = .ok routes ↔
      List.Forall₂ (RouteRowOf env) rows routes ∧ ∀ r ∈ routes, r.request.authorization = hdr.authorization := by
  induction rows generalizing routes with
  | nil =>
    simp only [RecoveryTables.readRoutes, Except.ok.injEq, List.forall₂_nil_left_iff]
    constructor
    · rintro rfl
      exact ⟨rfl, by simp⟩
    · rintro ⟨rfl, -⟩
      rfl
  | cons row rows ih =>
    simp only [RecoveryTables.readRoutes, bind_eq_ok, pure_eq_ok, readRoute_eq_ok_iff, ih]
    constructor
    · rintro ⟨route, ⟨hrow, hau⟩, rest, ⟨hro, ha⟩, rfl⟩
      exact ⟨.cons hrow hro, by simpa using ⟨hau, ha⟩⟩
    · rintro ⟨hro, ha⟩
      obtain ⟨route, rest, hrow, hre, rfl⟩ := List.forall₂_cons_left_iff.1 hro
      exact ⟨route, ⟨hrow, ha route (by simp)⟩, rest, ⟨hre, fun r hr => ha r (by simp [hr])⟩, rfl⟩

theorem routes_unique {routes' : List ReceiptRouteState}
    (h : List.Forall₂ (RouteRowOf env) rows routes) (h' : List.Forall₂ (RouteRowOf env) rows routes') :
    routes = routes' := by
  refine List.right_unique_forall₂' (R := RouteRowOf env) (fun row r r' hr hr' => ?_) h h'
  have hs := hr.decrypts.symm.trans hr'.decrypts
  simpa using hs

/-- What is read, in the order of the keys, is what the tables hold, in some order. -/
theorem RecoveryTables.Hold.sorted (h : t.Hold env c) :
    ∃ routes, List.Forall₂ (RouteRowOf env) (RecoveryTables.sorted t.routes.rows) routes ∧ routes.Perm c.routes.rows :=
  List.perm_comp_forall₂ (List.perm_insertionSort _ _) h.routes

theorem RecoveryTables.Hold.load_eq_some (h : t.Hold env c)
    (hl : t.load env now = .ok (some (hdr, routes), t')) :
    c.headerOpt = some hdr ∧ routes.Perm c.routes.rows ∧ t' = t := by
  have hh := h.header
  unfold RecoveryTables.load at hl
  split at hl
  · simp at hl
  · rename_i row hrow
    split at hl
    · simp at hl
    · simp only [bind_eq_ok, failIf_eq_ok, pure_eq_ok, Prod.mk.injEq, Option.some.injEq] at hl
      obtain ⟨hdr, hd, _, -, routes, hrou, ⟨rfl, rfl⟩, rfl⟩ := hl
      obtain ⟨hr, -⟩ := readRoutes_eq_ok_iff.1 hrou
      obtain ⟨routes', hr', hp⟩ := h.sorted
      rw [routes_unique hr hr']
      refine ⟨?_, hp, rfl⟩
      rw [hrow] at hh
      cases hc : c.headerOpt with
      | none => rw [hc] at hh; cases hh
      | some saved =>
        rw [hc] at hh
        obtain ⟨hro⟩ := hh
        have hs := hro.decrypts.symm.trans hd
        simpa using hs

theorem RecoveryTables.load_eq_none (hl : t.load env now = .ok (none, t')) : t' = t ∨ t' = .clear := by
  unfold RecoveryTables.load at hl
  split at hl
  · simp at hl
    exact .inl hl.symm
  · split at hl
    · simp at hl
      exact .inr hl.symm
    · simp only [bind_eq_ok, pure_eq_ok, Prod.mk.injEq, reduceCtorEq, false_and, and_false, exists_false] at hl

theorem RecoveryTables.Hold.load_available (h : t.Hold env c) (hh : c.headerOpt = some hdr)
    (ha : ∀ r ∈ c.routes.rows, r.request.authorization = hdr.authorization)
    (hn : now ≤ hdr.authorization.policy.expiresAtUnixS) :
    ∃ routes, t.load env now = .ok (some (hdr, routes), t) := by
  obtain ⟨routes, hrows, hp⟩ := h.sorted
  have hre := h.header
  rw [hh] at hre
  cases hrow : t.headerOpt with
  | none => rw [hrow] at hre; cases hre
  | some row =>
    rw [hrow] at hre
    obtain ⟨hro⟩ := hre
    have hrea : RecoveryTables.readRoutes env hdr (RecoveryTables.sorted t.routes.rows) = .ok routes :=
      readRoutes_eq_ok_iff.2 ⟨hrows, fun r hr => ha r (hp.subset hr)⟩
    refine ⟨routes, ?_⟩
    rw [RecoveryTables.load, hrow]
    simp only [if_neg (not_lt.2 (hro.expiry ▸ hn)), hro.decrypts]
    simp [bind_eq_ok, hro.nonce, hro.key, hro.expiry, hrea]

/-! ## The store obeys the laws -/

namespace ReceiptSessionRecoveryStoreReal

/-- The content of the store is the content of its tables. -/
def Holds (store : ReceiptSessionRecoveryStoreReal env) (c : RecoveryContent) : Prop := store.tables.Hold env c

theorem holds_fresh (env : RecoveryEnv κ) : (fresh env).Holds .empty := RecoveryTables.Hold.clear

theorem commits_attempt {st : ReceiptSessionRecoveryStoreReal env} (h : st.Holds b)
    (hok : ∀ tables, o = .ok ((), tables) → tables.Hold env af) :
    Commits Holds b af (st.attempt o) := by
  unfold attempt
  split
  · exact hok _ rfl
  · exact .inl h
  · exact .inl h

/-- **The laws.** The store of the source never makes anything up, whatever faults it meets. -/
theorem recordingStore_real (he : env.Lawful) :
    RecordingStore (Holds : ReceiptSessionRecoveryStoreReal env → RecoveryContent → Prop) where
  saveHeader hdr h := by
    refine commits_attempt h fun tables hs => ?_
    simp only [bind_eq_ok, pure_eq_ok, Prod.mk.injEq, true_and] at hs
    obtain ⟨_, hs, rfl⟩ := hs
    exact RecoveryTables.Hold.saveHeader he h hs
  saveHeaderAndRoute hdr route h := by
    refine commits_attempt h fun tables hs => ?_
    simp only [bind_eq_ok, pure_eq_ok, Prod.mk.injEq, true_and] at hs
    obtain ⟨_, hs, rfl⟩ := hs
    exact RecoveryTables.Hold.saveHeaderAndRoute he h hs
  clear h := by
    refine commits_attempt h fun tables hc => ?_
    obtain ⟨-, rfl⟩ := Prod.mk.inj (Except.ok.inj hc)
    exact .clear
  load := by
    intro st c now h
    show Reads Holds c (st.attempt (st.tables.load env now))
    unfold attempt
    split
    · rename_i answer tables _ hl
      cases answer with
      | none =>
        rcases RecoveryTables.load_eq_none hl with rfl | rfl
        · exact .inl h
        · exact .inr .clear
      | some loaded =>
        obtain ⟨hh, hr, rfl⟩ := RecoveryTables.Hold.load_eq_some h hl
        exact ⟨hh, hr, h⟩
    · exact .inl h
    · exact .inl h

/-- Without faults every session can be read back until it expires. -/
theorem faithfulStore_real (he : env.Lawful) (hf : ∀ n, env.fault n = none) :
    FaithfulStore (Holds : ReceiptSessionRecoveryStoreReal env → RecoveryContent → Prop) where
  toRecordingStore := recordingStore_real he
  available := by
    intro st c hdr now h hh ha hn
    obtain ⟨routes, hl⟩ := RecoveryTables.Hold.load_available h hh ha hn
    refine ⟨routes, ⟨st.tables, st.operations + 1⟩, ?_⟩
    show st.attempt (st.tables.load env now) = _
    rw [hl]
    simp [attempt, hf]

end ReceiptSessionRecoveryStoreReal

end Real

end MasqMobile
