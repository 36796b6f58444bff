import MasqMobile.Payments.PayableScan
import MasqMobile.Receivables.Scan
import MasqMobile.Lib.Run

/-!
# Bans

Who is served is decided by a cache of the process, which is filled from the `banned` table when the node starts. The
process can outlive the node: a mobile app starts it again, possibly with another data directory.

| here | there |
| --- | --- |
| `Bans.ban`, `Bans.unban` | `BannedDaoReal` (banned_dao.rs:104, 128) |
| `newDelinquencies`, `paidDelinquencies` | receivable_dao.rs:190, 230 |
| `scanForDelinquencies` | receivable_scanner/mod.rs:156 |
| `BanNode.load` | `BannedCacheLoaderReal::load` (banned_dao.rs:55), from `make_and_start_accountant` |

Errors of the database, which panic, and the log are left out.
-/

namespace MasqMobile

open Run

/-- The thresholds that delinquency is measured with; all are `u64`. -/
structure DelinquencyThresholds extends PaymentThresholds where
  paymentGracePeriodSec : Nat
  unbanBelowGwei : Nat

def DelinquencyThresholds.unbanLimit (thresholds : DelinquencyThresholds) : Nat := gweiToWei thresholds.unbanBelowGwei

structure Bans where
  cache : Finset Address
  banned : Finset Address

namespace Bans

/-- The insertion of a wallet that is in the table already violates a constraint, and only the cache is written. -/
def ban (b : Bans) (wallet : Address) : Bans :=
  if wallet ∈ b.cache then b else ⟨insert wallet b.cache, insert wallet b.banned⟩

def unban (b : Bans) (wallet : Address) : Bans :=
  if wallet ∉ b.cache then b else ⟨b.cache.erase wallet, b.banned.erase wallet⟩

theorem foldl_ban (rows : List ReceivableRow) :
    rows.foldl (fun (b : Bans) r => b.ban r.walletAddress) ⟨c, c⟩ =
      ⟨c ∪ (rows.map ReceivableRow.walletAddress).toFinset, c ∪ (rows.map ReceivableRow.walletAddress).toFinset⟩ := by
  induction rows generalizing c with
  | nil => simp
  | cons r rows ih =>
    have h : (⟨c, c⟩ : Bans).ban r.walletAddress = ⟨insert r.walletAddress c, insert r.walletAddress c⟩ := by
      by_cases hc : r.walletAddress ∈ c <;> simp [ban, hc]
    simp [h, ih, Finset.insert_union]

theorem foldl_unban (rows : List ReceivableRow) :
    rows.foldl (fun (b : Bans) r => b.unban r.walletAddress) ⟨c, c⟩ =
      ⟨c \ (rows.map ReceivableRow.walletAddress).toFinset, c \ (rows.map ReceivableRow.walletAddress).toFinset⟩ := by
  induction rows generalizing c with
  | nil => simp
  | cons r rows ih =>
    have h : (⟨c, c⟩ : Bans).unban r.walletAddress = ⟨c.erase r.walletAddress, c.erase r.walletAddress⟩ := by
      by_cases hc : r.walletAddress ∈ c <;> simp [unban, hc]
    simp [h, ih, Finset.sdiff_insert, Finset.erase_sdiff_comm]

end Bans

abbrev Receivables := Table ReceivableRow ReceivableRow.walletAddress

variable {receivables : Receivables} {banned : Finset Address} {thresholds : DelinquencyThresholds} {now : Nat}
  {r : ReceivableRow} {rows : List ReceivableRow}

/-- `as i64`, and the sums of `i64`. -/
def asI64 (x : Int) : Int := x.bmod (2 ^ 64)

/-- The wallets over the sloped line and over the permanent debt that are not banned. It panics if the slope divides by
zero, if it is not negative and a row is old enough to be measured, or if a threshold is no `i64`. -/
def newDelinquencies (receivables : Receivables) (banned : Finset Address) (now : Nat)
    (thresholds : DelinquencyThresholds) : Option (List ReceivableRow) := do
  let slope ← (ThresholdUtils.slope thresholds.toPaymentThresholds).toOption
  guard (thresholds.debtThresholdGwei < 2 ^ 63 ∧ thresholds.maturityThresholdSec < 2 ^ 63 ∧
    thresholds.paymentGracePeriodSec < 2 ^ 63)
  let suggAndGrace := asI64 (now - thresholds.maturityThresholdSec - thresholds.paymentGracePeriodSec)
  let old := receivables.rows.filter fun r => r.lastReceivedTimestamp < suggAndGrace
  guard (old = [] ∨ asI64 slope < 0)
  let permanentDebt : Int := gweiToWei thresholds.permanentDebtAllowedGwei
  return old.filter fun r =>
    let drop : Int := gweiToWei thresholds.debtThresholdGwei + asI64 slope * (suggAndGrace - r.lastReceivedTimestamp)
    (drop / 2 ^ 63 < r.balance.high ∨ r.balance.high = drop / 2 ^ 63 ∧ drop % 2 ^ 63 < r.balance.low) ∧
      (permanentDebt / 2 ^ 63 < r.balance.high ∨ r.balance.high = 0 ∧ permanentDebt % 2 ^ 63 < r.balance.low) ∧
      r.walletAddress ∉ banned

def paidDelinquencies (receivables : Receivables) (banned : Finset Address) (thresholds : DelinquencyThresholds) :
    List ReceivableRow :=
  let unbanBalance : Int := thresholds.unbanLimit
  receivables.rows.filter fun r => r.walletAddress ∈ banned ∧
    (r.balance.high < unbanBalance / 2 ^ 63 ∨ r.balance.high = unbanBalance / 2 ^ 63 ∧
      r.balance.low ≤ unbanBalance % 2 ^ 63)

def scanForDelinquencies (receivables : Receivables) (now : Nat) (thresholds : DelinquencyThresholds) (b : Bans) :
    Option Bans := do
  let delinquents ← newDelinquencies receivables b.banned now thresholds
  let b := delinquents.foldl (fun b r => b.ban r.walletAddress) b
  return (paidDelinquencies receivables b.banned thresholds).foldl (fun b r => b.unban r.walletAddress) b

theorem mem_of_newDelinquencies (h : newDelinquencies receivables banned now thresholds = some rows) (hr : r ∈ rows) :
    r ∈ receivables.rows := by
  simp only [newDelinquencies, Option.bind_eq_bind, Option.bind_eq_some_iff, Option.pure_def, Option.some.injEq] at h
  obtain ⟨_, -, _, -, _, -, rfl⟩ := h
  exact (List.mem_filter.1 (List.mem_filter.1 hr).1).1

theorem mem_paidDelinquencies : r ∈ paidDelinquencies receivables banned thresholds ↔
    r ∈ receivables.rows ∧ r.walletAddress ∈ banned ∧ r.balance.toInt ≤ thresholds.unbanLimit := by
  have hlow := r.balance.low_mem
  simp only [paidDelinquencies, List.mem_filter, decide_eq_true_eq, SplitInt.toInt]
  refine and_congr_right fun _ => and_congr_right fun _ => ?_
  omega

/-! ## The node -/

structure BanNode (Dir : Type) where
  cache : Finset Address
  receivables : Dir → Receivables
  banned : Dir → Finset Address
  dataDirectory : Dir

inductive BanEvent (Dir : Type)
  | balancesChanged (receivables : Receivables)
  | scan (now : Nat) (thresholds : DelinquencyThresholds)
  | restart (dataDirectory : Dir) (sameProcess : Bool)

namespace BanNode

variable {Dir : Type} [DecidableEq Dir] (s : BanNode Dir)

/-- The cache is only added to. -/
def load : BanNode Dir := { s with cache := s.cache ∪ s.banned s.dataDirectory }

def bans : Bans := ⟨s.cache, s.banned s.dataDirectory⟩

/-- A scan that panics has written nothing. -/
def step : BanEvent Dir → BanNode Dir
  | .balancesChanged receivables => { s with receivables := Function.update s.receivables s.dataDirectory receivables }
  | .scan now thresholds =>
    match scanForDelinquencies (s.receivables s.dataDirectory) now thresholds s.bans with
    | none => s
    | some b => { s with cache := b.cache, banned := Function.update s.banned s.dataDirectory b.banned }
  | .restart dataDirectory sameProcess =>
    load { s with cache := if sameProcess then s.cache else ∅, dataDirectory }

/-- A node that was started in a process of its own. -/
def start (receivables : Dir → Receivables) (banned : Dir → Finset Address) (dataDirectory : Dir) : BanNode Dir :=
  load ⟨∅, receivables, banned, dataDirectory⟩

/-- The cache is that of the open database. -/
def Agrees : Prop := s.cache = s.banned s.dataDirectory

/-- What is to hold of a step: afterwards the cache agrees; a scan bans those that it selects and leaves nobody banned
whose debt is paid; and only a scan that finds the debt paid lifts a ban. -/
structure BansUntilPaid (s : BanNode Dir) (e : BanEvent Dir) : Prop where
  agrees : (s.step e).Agrees
  scanned : ∀ now thresholds selected, e = .scan now thresholds →
    newDelinquencies (s.receivables s.dataDirectory) (s.banned s.dataDirectory) now thresholds = some selected →
    (∀ r ∈ selected, r.walletAddress ∈ (s.step e).cache ∨ r.balance.toInt ≤ thresholds.unbanLimit) ∧
    ∀ r ∈ (s.receivables s.dataDirectory).rows, r.walletAddress ∈ (s.step e).cache →
      thresholds.unbanLimit < r.balance.toInt
  lifted : ∀ d, ∀ wallet ∈ s.banned d, wallet ∉ (s.step e).banned d → ∃ now thresholds, e = .scan now thresholds ∧
    d = s.dataDirectory ∧
    ∃ r ∈ (s.receivables d).rows, r.walletAddress = wallet ∧ r.balance.toInt ≤ thresholds.unbanLimit

/-- A restart in the same process opens a database that bans every wallet of the cache. -/
def Reopens (e : BanEvent Dir) : Prop :=
  ∀ dataDirectory, e = .restart dataDirectory true → s.cache ⊆ s.banned dataDirectory

variable {s : BanNode Dir}

omit [DecidableEq Dir] in
theorem scan_of_agrees (h : s.Agrees) (now : Nat) (thresholds : DelinquencyThresholds) :
    scanForDelinquencies (s.receivables s.dataDirectory) now thresholds s.bans =
      (newDelinquencies (s.receivables s.dataDirectory) s.cache now thresholds).map fun selected =>
        let c := s.cache ∪ (selected.map ReceivableRow.walletAddress).toFinset
        let paid := (paidDelinquencies (s.receivables s.dataDirectory) c thresholds).map ReceivableRow.walletAddress
        ⟨c \ paid.toFinset, c \ paid.toFinset⟩ := by
  have hb : s.bans = ⟨s.cache, s.cache⟩ := by rw [bans, ← h]
  simp [scanForDelinquencies, hb, Bans.foldl_ban, Bans.foldl_unban, Option.map_eq_bind]

theorem bansUntilPaid_scan (h : s.Agrees) (now : Nat) (thresholds : DelinquencyThresholds) :
    s.BansUntilPaid (.scan now thresholds) := by
  have hscan := scan_of_agrees h now thresholds
  cases hnew : newDelinquencies (s.receivables s.dataDirectory) s.cache now thresholds with
  | none =>
    rw [hnew] at hscan
    have hs : s.step (.scan now thresholds) = s := by simp [step, hscan]
    refine ⟨by rwa [hs], ?_, fun d w hw hn => absurd hw (by rwa [hs] at hn)⟩
    rintro _ _ selected ⟨⟩ hsel
    rw [← h, hnew] at hsel
    cases hsel
  | some rows =>
    rw [hnew] at hscan
    -- afterwards those are banned that were, or were selected, and whose debt is not paid
    have hmem : ∀ w, w ∈ (s.step (.scan now thresholds)).cache ↔
        (w ∈ s.cache ∨ ∃ r ∈ rows, r.walletAddress = w) ∧ ∀ r ∈ (s.receivables s.dataDirectory).rows,
          r.walletAddress = w → thresholds.unbanLimit < r.balance.toInt := by
      intro w
      simp only [step, hscan, Option.map_some, Finset.mem_sdiff, Finset.mem_union, List.mem_toFinset, List.mem_map,
        mem_paidDelinquencies, not_exists, not_and]
      refine and_congr_right fun hw => ⟨fun hp r hr hrw => ?_, fun hp r hr hrw => ?_⟩
      · by_contra hle
        exact hp r ⟨hr, hrw ▸ hw, not_lt.1 hle⟩ hrw
      · exact absurd (hp r hr.1 hrw) (not_lt.2 hr.2.2)
    have hagrees : (s.step (.scan now thresholds)).Agrees := by simp [Agrees, step, hscan]
    refine ⟨hagrees, ?_, fun d w hw hn => ⟨now, thresholds, rfl, ?_⟩⟩
    · rintro _ _ selected ⟨⟩ hsel
      rw [← h, hnew] at hsel
      cases hsel
      refine ⟨fun r hr => ?_, fun r hr hc => ((hmem _).1 hc).2 r hr rfl⟩
      by_cases hle : r.balance.toInt ≤ thresholds.unbanLimit
      · exact .inr hle
      · refine .inl ((hmem _).2 ⟨.inr ⟨r, hr, rfl⟩, fun r' hr' hrr => ?_⟩)
        -- a wallet has one row
        have hfind := Table.find_eq_some_iff.2 ⟨hr', hrr⟩
        rw [Table.find_eq_some_iff.2 ⟨mem_of_newDelinquencies hnew hr, rfl⟩] at hfind
        cases hfind
        exact not_le.1 hle
    · by_cases hd : d = s.dataDirectory
      · subst hd
        refine ⟨rfl, ?_⟩
        have hcache : w ∉ (s.step (.scan now thresholds)).cache := by simpa [step, hscan] using hn
        simpa [hmem, show w ∈ s.cache from h ▸ hw] using hcache
      · exact absurd hw (by simpa [step, hscan, Function.update_of_ne hd] using hn)

theorem bansUntilPaid_iff (h : s.Agrees) (e : BanEvent Dir) : s.BansUntilPaid e ↔ s.Reopens e := by
  cases e with
  | scan now thresholds => simp [bansUntilPaid_scan h, Reopens]
  | balancesChanged receivables =>
    exact ⟨fun _ => by simp [Reopens], fun _ => ⟨h, nofun, fun d w hw hn => absurd hw hn⟩⟩
  | restart dataDirectory sameProcess =>
    have hiff : (s.step (.restart dataDirectory sameProcess)).Agrees ↔
        s.Reopens (.restart dataDirectory sameProcess) := by
      cases sameProcess <;> simp [Agrees, step, load, Reopens]
    exact ⟨fun hb => hiff.1 hb.agrees, fun hr => ⟨hiff.2 hr, nofun, fun d w hw hn => absurd hw hn⟩⟩

/-- **Bans last until the debt is paid**, in all steps of a run, exactly if every restart in the same process opens a
database that bans the wallets banned so far. -/
theorem bans_last_until_paid_iff (receivables : Dir → Receivables) (banned : Dir → Finset Address) (dataDirectory : Dir)
    (events : List (BanEvent Dir)) :
    Along step BansUntilPaid (start receivables banned dataDirectory) events ↔
      Along step Reopens (start receivables banned dataDirectory) events := by
  have htrue : Along step (fun _ _ => True) (start receivables banned dataDirectory) events :=
    along_of_forall fun _ _ => trivial
  refine along_congr Agrees (fun s e h _ => bansUntilPaid_iff h e) (fun s e _ _ hb => hb.agrees) ?_ htrue
  simp [Agrees, start, load]

/-- Restarted in the same process with a fresh data directory, the node goes on refusing a wallet that its database does
not ban. -/
theorem other_directory_keeps_bans :
    ¬Along step BansUntilPaid (start (fun _ => Table.empty) (fun d => bif d then ∅ else {7}) false)
      [.restart true true] := by
  rw [Along]
  rintro ⟨h, -⟩
  have hc := h.agrees
  simp [Agrees, step, start, load] at hc

end BanNode

end MasqMobile
