import MasqMobile.Config.SecureConfigLayer

/-!
# Password changes

A change of the database password writes every parameter back, one statement after another, and then the example by
which the password is checked. A change that is interrupted leaves a prefix of these writes (`changePassword_cut`). If
a value was encrypted anew by then, no password opens the database any more: the example belongs to the old password
and that value to the new one.

The first operation of a change reads the example and the second one the table; operation `2 + i` writes the `i`-th
parameter, and the last one the example.
-/

namespace MasqMobile

open Program SecureConfigLayer ConfigTable Bip39 DbEncryptionLayer

/-! ## What a password opens -/

variable {C : PasswordCrypto ρ κ} {r : ConfigDaoRecord}

section Opens

variable {ρ κ : Type}

/-- The plaintext of a stored value, if the password opens it. A parameter without a value has nothing to
open. -/
def plaintext (C : PasswordCrypto ρ κ) (passwordOpt : Option String) : Option String → Option (Option (List UInt8))
  | none => some none
  | some value =>
    match passwordOpt with
    | none => none
    | some password => (decryptBytes C value password).toOption.map some

/-- The password passes `check_password` once the database answers again. -/
def Passes (env : ConfigEnv ρ κ) (t : ConfigTable) (passwordOpt : Option String) : Prop :=
  (PersistentConfiguration.checkPassword { env with fault := fun _ => none } passwordOpt ⟨t, 0, 0⟩).1 = .ok true

/-- In `t'` the password passes, and it opens every encrypted parameter to the plaintext that the old
password had for it in `t`. -/
structure Opens (env : ConfigEnv ρ κ) (t : ConfigTable) (oldOpt : Option String) (t' : ConfigTable)
    (passwordOpt : Option String) : Prop where
  passes : Passes env t' passwordOpt
  names : t'.rows.map (·.name) = t.rows.map (·.name)
  plaintexts : ∀ r ∈ t.rows, r.encrypted → r.name ≠ exampleEncrypted → ∃ r', t'.find r.name = some r' ∧
    r'.encrypted ∧ plaintext env.crypto passwordOpt r'.valueOpt = plaintext env.crypto oldOpt r.valueOpt

structure Readable (env : ConfigEnv ρ κ) (t : ConfigTable) (oldOpt : Option String) : Prop where
  passes : Passes env t oldOpt
  opened : ∀ r ∈ t.rows, r.encrypted → (plaintext env.crypto oldOpt r.valueOpt).isSome

def ConfigDaoRecord.Sensitive (r : ConfigDaoRecord) : Prop := r.encrypted ∧ r.valueOpt.isSome

instance (r : ConfigDaoRecord) : Decidable r.Sensitive := inferInstanceAs (Decidable (_ ∧ _))

/-- The parameters that a change writes back, in the order of the writes. -/
def ConfigTable.parameters (t : ConfigTable) : List ConfigDaoRecord := t.rows.filter (·.name ≠ exampleEncrypted)

/-- `change_password` leaves a database that the old or the new password opens, and if it returns `Ok`, the
new one. -/
def AllOrNothing (env : ConfigEnv ρ κ) (s : ConfigState) (oldOpt : Option String) (new : String) : Prop :=
  (Opens env s.table oldOpt (PersistentConfiguration.changePassword env oldOpt new s).2.table oldOpt ∨
    Opens env s.table oldOpt (PersistentConfiguration.changePassword env oldOpt new s).2.table (some new)) ∧
  ((PersistentConfiguration.changePassword env oldOpt new s).1 = .ok () →
    Opens env s.table oldOpt (PersistentConfiguration.changePassword env oldOpt new s).2.table (some new))

/-- Once an encrypted value is written back, the rest of the change is not interrupted. -/
def Unbroken (env : ConfigEnv ρ κ) (s : ConfigState) : Prop :=
  ∀ i r, s.table.parameters[i]? = some r → r.Sensitive → (∀ j ≤ i + 2, env.fault (s.operations + j) = none) →
    ∀ j ≤ s.table.parameters.length + 2, env.fault (s.operations + j) = none

theorem plaintext_exclusive (hC : C.Lawful) (h : plaintext C (some p) vo = some (some pl))
    (hne : p' ≠ p) : plaintext C (some p') vo = none := by
  cases vo with
  | none => cases h
  | some value =>
    simp only [plaintext, Option.map_eq_some_iff, Option.some.injEq, exists_eq_right] at h
    cases hd : decryptBytes C value p with
    | error e => rw [hd] at h; cases h
    | ok decrypted =>
      obtain ⟨message, he⟩ := decryptBytes_exclusive hC hd hne
      simp [plaintext, he, Except.toOption]

theorem passwordMatches_eq_ok_true_iff {ε : Type} {passwordOpt : Option String} :
    passwordMatches (ε := ε) C passwordOpt vo = .ok true ↔
      passwordOpt.isSome = vo.isSome ∧ (plaintext C passwordOpt vo).isSome := by
  cases passwordOpt with
  | none => cases vo <;> simp [passwordMatches, plaintext]
  | some password =>
    cases vo with
    | none => simp [passwordMatches]
    | some value =>
      simp only [passwordMatches, plaintext]
      split <;> simp_all [Except.toOption]

section Check

variable {env : ConfigEnv ρ κ} {s : ConfigState} {passwordOpt : Option String}

theorem checkPassword_of_find (hfa : env.fault s.operations = none) (hf : s.table.find exampleEncrypted = some r) :
    checkPassword env passwordOpt s =
      (passwordMatchesExample env passwordOpt r, { s with operations := s.operations + 1 }) := by
  have hg : ConfigDao.get env.fault exampleEncrypted s = (.ok r, { s with operations := s.operations + 1 }) :=
    ConfigDao.operation_of_ok hfa (by simp only [hf])
  rw [checkPassword, bind_of_ok (mapErr_of_ok hg), ofExcept_apply]

theorem checkPassword_absent (hfa : env.fault s.operations = none) (hf : s.table.find exampleEncrypted = none) :
    (checkPassword env passwordOpt s).1 = .error (.err .notPresent) := by
  have hg : ConfigDao.get env.fault exampleEncrypted s =
      (.error (.err .notPresent), { s with operations := s.operations + 1 }) := by
    simp only [ConfigDao.get, ConfigDao.operation, hfa, hf]
  rw [checkPassword, bind_of_error (mapErr_of_error hg)]
  rfl

/-- The example decides whether a password passes. -/
theorem passes_iff : Passes env t passwordOpt ↔ ∃ r, t.find exampleEncrypted = some r ∧
    r.encrypted ∧ passwordOpt.isSome = r.valueOpt.isSome ∧ (plaintext env.crypto passwordOpt r.valueOpt).isSome := by
  simp only [Passes, PersistentConfiguration.checkPassword, fst_mapErr_eq_ok_iff]
  cases hf : t.find exampleEncrypted with
  | none =>
    rw [checkPassword_absent (s := ⟨t, 0, 0⟩) rfl hf]
    simp
  | some r =>
    rw [checkPassword_of_find (s := ⟨t, 0, 0⟩) rfl hf]
    simp only [passwordMatchesExample, Option.some.injEq, exists_eq_left']
    cases r.encrypted <;> simp [passwordMatches_eq_ok_true_iff]

theorem checkPassword_of_passes (h : Passes env s.table passwordOpt) (hfa : env.fault s.operations = none) :
    checkPassword env passwordOpt s = (.ok true, { s with operations := s.operations + 1 }) := by
  obtain ⟨r, hf, he, ho⟩ := passes_iff.1 h
  rw [checkPassword_of_find hfa hf, passwordMatchesExample, if_pos he, passwordMatches_eq_ok_true_iff.2 ho]

theorem checkPassword_interrupted (hf : env.fault s.operations ≠ none) :
    ∃ ha, checkPassword env passwordOpt s = (.error ha, { s with operations := s.operations + 1 }) := by
  obtain ⟨ha, hg⟩ := ConfigDao.operation_interrupted hf
  exact ⟨_, bind_of_error (mapErr_of_error hg)⟩

end Check

end Opens

/-! ## Encrypting anew -/

section Reencrypt

variable {ρ κ : Type} {env : ConfigEnv ρ κ} {oldOpt : Option String}

/-- The record `r'` that a change makes of `r`. -/
structure Reencrypted (C : PasswordCrypto ρ κ) (oldOpt : Option String) (new : String) (r r' : ConfigDaoRecord) :
    Prop where
  name_eq : r'.name = r.name
  encrypted_eq : r'.encrypted = r.encrypted
  same : ¬r.Sensitive → r' = r
  plaintext_eq : r.encrypted → plaintext C (some new) r'.valueOpt = plaintext C oldOpt r.valueOpt

theorem reencryptRecord_run (hC : env.crypto.Lawful) (ho : r.encrypted →
    (plaintext env.crypto oldOpt r.valueOpt).isSome) :
    ∃ r' draws, reencryptRecord env oldOpt new r s = (.ok r', { s with draws }) ∧
      Reencrypted env.crypto oldOpt new r r' := by
  obtain ⟨name, valueOpt, encrypted⟩ := r
  cases encrypted with
  | false => exact ⟨_, s.draws, rfl, rfl, rfl, fun _ => rfl, by simp⟩
  | true =>
    cases valueOpt with
    | none => exact ⟨_, s.draws, rfl, rfl, rfl, fun _ => rfl, fun _ => rfl⟩
    | some value =>
      have hs := ho rfl
      cases oldOpt with
      | none => cases hs
      | some old =>
        simp only [plaintext, Option.isSome_map] at hs
        cases hd : decryptBytes env.crypto value old with
        | error e =>
          rw [hd] at hs
          cases hs
        | ok plain =>
          obtain ⟨text, he, hn⟩ := exists_encryptBytes hC (env.random s.draws) plain new
          refine ⟨⟨name, some text, true⟩, s.draws + 1, ?_, rfl, rfl, ?_, fun _ => ?_⟩
          · simp [reencryptRecord, reencryptValue, hd, draw, bind, he]
          · exact fun h => absurd ⟨rfl, rfl⟩ h
          · simp [plaintext, hd, hn]

theorem reencryptAll_run (hC : env.crypto.Lawful) {records : List ConfigDaoRecord}
    (ho : ∀ r ∈ records, r.encrypted → (plaintext env.crypto oldOpt r.valueOpt).isSome) (s : ConfigState) :
    ∃ records' draws, reencryptAll env oldOpt new records s = (.ok records', { s with draws }) ∧
      List.Forall₂ (Reencrypted env.crypto oldOpt new) records records' := by
  induction records generalizing s with
  | nil => exact ⟨[], s.draws, rfl, .nil⟩
  | cons r records ih =>
    obtain ⟨r', draws, hrun, hr'⟩ := reencryptRecord_run hC (ho r (by simp))
    obtain ⟨records', draws', hru, hre'⟩ := ih (fun r hr => ho r (by simp [hr])) { s with draws }
    refine ⟨r' :: records', draws', ?_, .cons hr' hre'⟩
    rw [reencryptAll, bind_of_ok hrun, bind_of_ok hru, pure_apply]

end Reencrypt

/-! ## Cutting the change -/

section Cut

variable {ρ κ : Type} {env : ConfigEnv ρ κ} {oldOpt : Option String} {new : String} {s : ConfigState} {t : ConfigTable}

theorem rows_any_of_find {name : String} (h : t.find name = some r) : t.rows.any (·.name = name) := by
  obtain ⟨hr, hn⟩ := Table.find_eq_some_iff.1 h
  exact List.any_eq_true.2 ⟨r, hr, by simpa using hn⟩

variable (env) in
/-- The updates of `update_records` are writes that may be interrupted. -/
theorem writes_updateRecord : Writes (fun n => env.fault n ≠ none) (·.operations) (·.table)
    (fun t w => t.setValue w.name w.valueOpt) (fun t w => (t.find w.name).isSome)
    (updateRecord env) where
  done {s w} hv hf := by
    obtain ⟨r, hr⟩ := Option.isSome_iff_exists.1 hv
    have hs : ConfigDao.set env.fault w.name w.valueOpt s = (.ok (), _) :=
      ConfigDao.operation_of_ok (not_not.1 hf) (by rw [if_pos (rows_any_of_find hr)])
    exact ⟨_, mapErr_of_ok hs, rfl, rfl⟩
  interrupted {s w} hf := by
    obtain ⟨ha, hs⟩ := ConfigDao.operation_interrupted hf
    exact ⟨_, _, mapErr_of_error hs, rfl⟩
  valid_put h := by rwa [find_setValue, Option.isSome_map]

/-- The example is the last write. -/
theorem installExampleForPassword_run (hC : env.crypto.Lawful)
    (hr : s.table.find exampleEncrypted = some r) :
    (env.fault s.operations ≠ none ∧ ∃ ha, (installExampleForPassword env new s).1 = .error ha ∧
      (installExampleForPassword env new s).2.table = s.table) ∨
    (env.fault s.operations = none ∧ (installExampleForPassword env new s).1 = .ok () ∧
      ∃ text p, decryptBytes env.crypto text new = .ok p ∧ (installExampleForPassword env new s).2.table =
          s.table.setValue exampleEncrypted (some text)) := by
  obtain ⟨text, he, hd⟩ := exists_encryptBytes hC (env.random (s.draws + 1)) (env.randomBytes s.draws) new
  have hru : installExampleForPassword env new s =
      mapErr (Halt.convert .ofDao) (ConfigDao.set env.fault exampleEncrypted (some text))
        { s with draws := s.draws + 1 + 1 } := by
    simp [installExampleForPassword, draw, bind, he]
  rw [hru]
  by_cases hf : env.fault s.operations = none
  · have hs : ConfigDao.set env.fault exampleEncrypted (some text) { s with draws := s.draws + 1 + 1 } =
        (.ok (), _) := ConfigDao.operation_of_ok hf (by rw [if_pos (rows_any_of_find hr)])
    rw [mapErr_of_ok hs]
    exact .inr ⟨hf, rfl, text, _, hd, rfl⟩
  · obtain ⟨ha, hs⟩ := ConfigDao.operation_interrupted (s := { s with draws := s.draws + 1 + 1 }) hf
    rw [ConfigDao.set, mapErr_of_error hs]
    exact .inl ⟨hf, _, rfl, rfl⟩

theorem names_writeAll : (t.writeAll ws).rows.map (·.name) = t.rows.map (·.name) := by
  induction ws generalizing t with
  | nil => rfl
  | cons w ws ih =>
    show ((t.setValue w.name w.valueOpt).writeAll ws).rows.map (·.name) = _
    rw [ih, setValue, Table.map_key_mapRows]

theorem names_of_reencrypted (h : List.Forall₂ (Reencrypted C oldOpt new) rs rs') : rs'.map (·.name) =
    rs.map (·.name) := by
  induction h with
  | nil => rfl
  | cons hr _ ih => rw [List.map_cons, List.map_cons, hr.name_eq, ih]

/-- The table `t'` after the first `k` writes of a change of `t`. -/
structure Midway (env : ConfigEnv ρ κ) (oldOpt : Option String) (new : String) (t t' : ConfigTable) (k : Nat) :
    Prop where
  names : t'.rows.map (·.name) = t.rows.map (·.name)
  written : ∀ r ∈ t.parameters.take k, ∃ r', t'.find r.name = some r' ∧ Reencrypted env.crypto oldOpt new r r'
  untouched : ∀ r ∈ t.parameters.drop k, t'.find r.name = some r
  kept : k ≤ t.parameters.length → t'.find exampleEncrypted = t.find exampleEncrypted
  renewed : t.parameters.length < k → Passes env t' (some new)

theorem ConfigTable.nodup_parameters (t : ConfigTable) : (t.parameters.map (·.name)).Nodup :=
  t.nodup.sublist (List.filter_sublist.map _)

theorem ConfigTable.mem_parameters : r ∈ t.parameters ↔ r ∈ t.rows ∧ r.name ≠ exampleEncrypted := by
  simp [parameters]

/-- A prefix of the updates of the parameters. -/
theorem midway_writeAll {re' : List ConfigDaoRecord}
    (h : List.Forall₂ (Reencrypted env.crypto oldOpt new) t.parameters re') {k : Nat}
    (hk : k ≤ t.parameters.length) : Midway env oldOpt new t (t.writeAll (re'.take k)) k := by
  have ht := List.forall₂_take k h
  have hn := names_of_reencrypted ht
  have hnd : ((re'.take k).map (·.name)).Nodup := by
    rw [hn, List.map_take]
    exact t.nodup_parameters.sublist (List.take_sublist _ _)
  have hf : ∀ {r}, r ∈ t.parameters → t.find r.name = some r := fun hr =>
    Table.find_eq_some_iff.2 ⟨(mem_parameters.1 hr).1, rfl⟩
  refine ⟨names_writeAll, ?_, ?_, fun _ => ?_, fun hlt => by omega⟩
  · intro r hr
    obtain ⟨r', hr', hre⟩ := ht.exists_mem hr
    refine ⟨r', ?_, hre⟩
    rw [← hre.name_eq, find_writeAll_of_mem hnd hr', hre.name_eq,
      hf (List.mem_of_mem_take hr), Option.map_some, ← hre.name_eq, ← hre.encrypted_eq]
  · intro r hr
    rw [find_writeAll_of_forall_ne, hf (List.mem_of_mem_drop hr)]
    -- the names of the prefix and of the rest are apart
    intro w hw heq
    have hfs : w.name ∈ (t.parameters.map (·.name)).take k := by
      rw [← List.map_take, ← hn]
      exact List.mem_map_of_mem hw
    have hs : w.name ∈ (t.parameters.map (·.name)).drop k := by
      rw [heq, ← List.map_drop]
      exact List.mem_map_of_mem hr
    exact List.disjoint_take_drop t.nodup_parameters (le_refl k) hfs hs
  · refine find_writeAll_of_forall_ne fun w hw heq => ?_
    have hna : w.name ∈ (t.parameters.take k).map (·.name) := hn ▸ List.mem_map_of_mem hw
    obtain ⟨r, hr, hrn⟩ := List.mem_map.1 hna
    exact (mem_parameters.1 (List.mem_of_mem_take hr)).2 (hrn.trans heq)

/-- All updates and the new example. -/
theorem midway_complete {t' : ConfigTable} (h : Midway env oldOpt new t t' t.parameters.length)
    (hexa : ∃ r, t.find exampleEncrypted = some r ∧ r.encrypted) {text : String} {p : List UInt8}
    (hd : decryptBytes env.crypto text new = .ok p) :
    Midway env oldOpt new t (t'.setValue exampleEncrypted (some text)) (t.parameters.length + 1) := by
  obtain ⟨e', hf, he⟩ := hexa
  have hk := h.kept (le_refl _)
  refine ⟨?_, ?_, fun r hr => ?_, by omega, fun _ => ?_⟩
  · rw [setValue, Table.map_key_mapRows, h.names]
  · intro r hr
    have hm := List.mem_of_mem_take hr
    obtain ⟨r', hr', hre⟩ := h.written r (by simpa using hm)
    refine ⟨r', ?_, hre⟩
    rw [find_setValue, hr']
    simp [(mem_parameters.1 hm).2]
  · rw [List.drop_eq_nil_of_le (Nat.le_succ _)] at hr
    cases hr
  · rw [passes_iff]
    refine ⟨{ e' with valueOpt := some text }, ?_, he, rfl, ?_⟩
    · rw [find_setValue, hk, hf]
      simp
    · simp [plaintext, hd, Except.toOption]

theorem midway_zero : Midway env oldOpt new t t 0 where
  names := rfl
  written := by simp
  untouched r hr := Table.find_eq_some_iff.2 ⟨(mem_parameters.1 hr).1, rfl⟩
  kept _ := rfl
  renewed h := by omega

/-- What `reencrypt_records` leaves: nothing new if the table could not be read, else a prefix of the updates. -/
theorem reencryptRecords_cut (hC : env.crypto.Lawful) (new : String)
    (ho : ∀ r ∈ s.table.rows, r.encrypted → (plaintext env.crypto oldOpt r.valueOpt).isSome) :
    (env.fault s.operations ≠ none ∧ ∃ hal,
      (reencryptRecords env oldOpt new s) = (.error hal, { s with operations := s.operations + 1 })) ∨
    (env.fault s.operations = none ∧ ∃ k ≤ s.table.parameters.length,
      Midway env oldOpt new s.table (reencryptRecords env oldOpt new s).2.table k ∧
      ((reencryptRecords env oldOpt new s).1 = .ok () ↔ k = s.table.parameters.length) ∧
      (∀ j < k, env.fault (s.operations + 1 + j) = none) ∧
      (k < s.table.parameters.length → env.fault (s.operations + 1 + k) ≠ none) ∧
      (k = s.table.parameters.length → (reencryptRecords env oldOpt new s).2.operations =
          s.operations + 1 + s.table.parameters.length)) := by
  by_cases hf : env.fault s.operations = none
  · refine .inr ⟨hf, ?_⟩
    have ha : ConfigDao.getAll env.fault s = (.ok s.table.rows, { s with operations := s.operations + 1 }) :=
      ConfigDao.operation_of_ok hf rfl
    obtain ⟨r', draws, hru, hr'⟩ := reencryptAll_run hC
      (fun r hr => ho r (mem_parameters.1 hr).1) { s with operations := s.operations + 1 }
    have hu : reencryptRecords env oldOpt new s =
        updateRecords env r' { s with operations := s.operations + 1, draws } := by
      rw [reencryptRecords, bind_of_ok (mapErr_of_ok ha)]
      exact bind_of_ok hru
    have hl := hr'.length_eq
    obtain ⟨k, hc⟩ := (writes_updateRecord env).each r'
      (s := { s with operations := s.operations + 1, draws }) fun w hw => by
        have hn : w.name ∈ s.table.parameters.map (·.name) := names_of_reencrypted hr' ▸ List.mem_map_of_mem hw
        obtain ⟨r, hr, hrn⟩ := List.mem_map.1 hn
        have hfi : s.table.find w.name = some r := Table.find_eq_some_iff.2 ⟨(mem_parameters.1 hr).1, hrn⟩
        simp [hfi]
    rw [hu]
    refine ⟨k, hl ▸ hc.le_length, ?_, ?_, fun j hj => not_not.1 (hc.before j hj), ?_, ?_⟩
    · have ht := hc.content_eq
      rw [updateRecords, ht]
      exact midway_writeAll hr' (hl ▸ hc.le_length)
    · rw [hl]
      exact hc.ok_iff
    · rw [hl]
      exact hc.cut
    · rw [hl]
      exact hc.clock_eq
  · obtain ⟨hal, ha⟩ := ConfigDao.operation_interrupted hf
    exact .inl ⟨hf, _, bind_of_error (mapErr_of_error ha)⟩

/-- **A change is cut somewhere.** The first `k` writes are done; nothing was interrupted before them, and
something is if not all are done. -/
theorem changePassword_cut (hC : env.crypto.Lawful) (h : Readable env s.table oldOpt) (new : String) :
    ∃ k ≤ s.table.parameters.length + 1, Midway env oldOpt new s.table (changePassword env oldOpt new s).2.table k ∧
      ((changePassword env oldOpt new s).1 = .ok () ↔ k = s.table.parameters.length + 1) ∧
      (∀ i < k, ∀ j ≤ i + 2, env.fault (s.operations + j) = none) ∧
      (k ≤ s.table.parameters.length → ∃ j ≤ k + 2, env.fault (s.operations + j) ≠ none) := by
  by_cases hc : env.fault s.operations = none
  swap
  · obtain ⟨hal, hru⟩ := checkPassword_interrupted hc
    rw [changePassword, bind_of_error hru]
    exact ⟨0, by omega, midway_zero, by simp, by simp, fun _ => ⟨0, by omega, hc⟩⟩
  rw [changePassword, bind_of_ok (checkPassword_of_passes h.passes hc), if_pos rfl]
  rcases reencryptRecords_cut (s := { s with operations := s.operations + 1 }) hC new h.opened with
    ⟨hr, hal, hru⟩ | ⟨hr, k, hk, hm, hok, hb, hcu, ho⟩
  · rw [bind_of_error hru]
    exact ⟨0, by omega, midway_zero, by simp, by simp, fun _ => ⟨1, by omega, hr⟩⟩
  replace hk : k ≤ s.table.parameters.length := hk
  -- operation 0 read the example, operation 1 the table, and `k` updates followed
  have hd : ∀ j < k + 2, env.fault (s.operations + j) = none := by
    rintro (_ | _ | j) hj
    · exact hc
    · exact hr
    · have hw := hb j (by omega)
      rwa [show s.operations + 1 + 1 + j = s.operations + (j + 1 + 1) by omega] at hw
  generalize han : reencryptRecords env oldOpt new { s with operations := s.operations + 1 } = answer at hm hok ho
  obtain ⟨result, s'⟩ := answer
  by_cases ha : k = s.table.parameters.length
  · obtain rfl : result = .ok () := hok.2 ha
    obtain ⟨r, hfi, he, -⟩ := passes_iff.1 h.passes
    have hexa : s'.table.find exampleEncrypted = some r := (hm.kept hk).trans hfi
    have hl : s'.operations = s.operations + (k + 2) := by
      rw [ho ha, ha]
      show s.operations + 1 + 1 + s.table.parameters.length = _
      omega
    rw [bind_of_ok han]
    rcases installExampleForPassword_run hC hexa with
      ⟨hf, hal, her, ht⟩ | ⟨hf, hin, text, plain, hde, ht⟩
    · refine ⟨k, by omega, ht ▸ hm, ?_, fun i hi j hj => hd j (by omega), fun _ => ?_⟩
      · rw [her]
        simp only [reduceCtorEq, false_iff]
        omega
      · exact ⟨k + 2, le_refl _, hl ▸ hf⟩
    · refine ⟨k + 1, by omega, ?_, ?_, ?_, by omega⟩
      · rw [ht, ha]
        exact midway_complete (ha ▸ hm) ⟨r, hfi, he⟩ hde
      · simp [hin, ha]
      · intro i hi j hj
        by_cases hj' : j = k + 2
        · rw [hj', ← hl]
          exact hf
        · exact hd j (by omega)
  · obtain ⟨e, rfl⟩ : ∃ e, result = .error e := by
      cases result with
      | error e => exact ⟨e, rfl⟩
      | ok u => exact absurd (hok.1 rfl) ha
    rw [bind_of_error han]
    refine ⟨k, by omega, hm, ?_, fun i hi j hj => hd j (by omega), fun _ => ⟨k + 2, le_refl _, ?_⟩⟩
    · simp only [reduceCtorEq, false_iff]
      omega
    · have hw := hcu (lt_of_le_of_ne hk ha)
      rwa [show s.operations + 1 + 1 + k = s.operations + (k + 2) by omega] at hw

end Cut

/-! ## Main result -/

section Main

variable {ρ κ : Type} {env : ConfigEnv ρ κ} {oldOpt : Option String} {new : String} {t t' : ConfigTable} {k : Nat}

theorem ConfigTable.mem_take_or_mem_drop (hr : r ∈ t.rows) (hn : r.name ≠ exampleEncrypted)
    : r ∈ t.parameters.take k ∨ r ∈ t.parameters.drop k := by
  rw [← List.mem_append, List.take_append_drop]
  exact mem_parameters.2 ⟨hr, hn⟩

/-- Before the example is written, the old password passes as before. -/
theorem Midway.passes_iff (h : Midway env oldOpt new t t' k) (hk : k ≤ t.parameters.length)
    (passwordOpt : Option String) : Passes env t' passwordOpt ↔ Passes env t passwordOpt := by
  rw [MasqMobile.passes_iff, MasqMobile.passes_iff, h.kept hk]

/-- As long as no encrypted value is rewritten, the old password opens the table. -/
theorem Midway.opens_old (h : Midway env oldOpt new t t' k) (hk : k ≤ t.parameters.length)
    (hp : Passes env t oldOpt) (hc : ∀ r ∈ t.parameters.take k, ¬r.Sensitive) :
    Opens env t oldOpt t' oldOpt := by
  refine ⟨(h.passes_iff hk oldOpt).2 hp, h.names, ?_⟩
  intro r hr he hn
  rcases mem_take_or_mem_drop hr hn with hw | hu
  · obtain ⟨r', hr', hre⟩ := h.written r hw
    obtain rfl := hre.same (hc r hw)
    exact ⟨_, hr', he, rfl⟩
  · exact ⟨r, h.untouched r hu, he, rfl⟩

/-- When all is written, the new password opens the table. -/
theorem Midway.opens_new (h : Midway env oldOpt new t t' (t.parameters.length + 1)) :
    Opens env t oldOpt t' (some new) := by
  refine ⟨h.renewed (Nat.lt_succ_self _), h.names, ?_⟩
  intro r hr he hn
  rcases mem_take_or_mem_drop hr hn with hw | hu
  · obtain ⟨r', hr', hre⟩ := h.written r hw
    exact ⟨r', hr', hre.encrypted_eq ▸ he, hre.plaintext_eq he⟩
  · rw [List.drop_eq_nil_of_le (Nat.le_succ _)] at hu
    cases hu

/-- With the same password nothing is lost at any point. -/
theorem Midway.opens_same (h : Midway env (some new) new t t' k) (hp : Passes env t (some new)) :
    Opens env t (some new) t' (some new) := by
  refine ⟨?_, h.names, ?_⟩
  · by_cases hk : k ≤ t.parameters.length
    · exact (h.passes_iff hk _).2 hp
    · exact h.renewed (not_le.1 hk)
  · intro r hr he hn
    rcases mem_take_or_mem_drop hr hn with hw | hu
    · obtain ⟨r', hr', hre⟩ := h.written r hw
      exact ⟨r', hr', hre.encrypted_eq ▸ he, hre.plaintext_eq he⟩
    · exact ⟨r, h.untouched r hu, he, rfl⟩

/-- A value that is rewritten while the example is not locks both passwords out. -/
theorem Midway.locked_out (hC : env.crypto.Lawful) (h : Midway env oldOpt new t t' k) (hk : k ≤ t.parameters.length)
    (hre : Readable env t oldOpt) (hne : oldOpt ≠ some new) (hr : r ∈ t.parameters.take k) (hs : r.Sensitive) :
    ¬Opens env t oldOpt t' oldOpt ∧ ¬Opens env t oldOpt t' (some new) := by
  obtain ⟨hro, hna⟩ := mem_parameters.1 (List.mem_of_mem_take hr)
  obtain ⟨value, hv⟩ := Option.isSome_iff_exists.1 hs.2
  have hop := hre.opened r hro hs.1
  -- the old password is one, since it opens the value
  obtain ⟨old, rfl⟩ : ∃ old, oldOpt = some old := by
    cases oldOpt with
    | none => rw [hv] at hop; cases hop
    | some old => exact ⟨old, rfl⟩
  have hpa : old ≠ new := fun heq => hne (heq ▸ rfl)
  constructor
  · intro ho
    obtain ⟨r', hr', -, hsa⟩ := ho.plaintexts r hro hs.1 hna
    obtain ⟨r'', hr'', hree⟩ := h.written r hr
    obtain rfl : r' = r'' := Option.some.inj (hr'.symm.trans hr'')
    have hn := hree.plaintext_eq hs.1
    obtain ⟨p, hp⟩ := Option.isSome_iff_exists.1 hop
    rw [hp] at hn hsa
    cases p with
    | none => simp [plaintext, hv] at hp
    | some plain => simp [plaintext_exclusive hC hn hpa] at hsa
  · intro ho
    -- the example still belongs to the old password
    obtain ⟨e, hf, -, hso, hol⟩ := MasqMobile.passes_iff.1 hre.passes
    obtain ⟨e', hf', -, -, hn⟩ := MasqMobile.passes_iff.1 ((h.passes_iff hk _).1 ho.passes)
    obtain rfl : e = e' := Option.some.inj (hf.symm.trans hf')
    obtain ⟨p, hp⟩ := Option.isSome_iff_exists.1 hol
    cases p with
    | none =>
      cases hva : e.valueOpt with
      | none => simp [hva] at hso
      | some text => simp [plaintext, hva] at hp
    | some plain => simp [plaintext_exclusive hC hp hpa.symm] at hn

/-- **All or nothing.** A change of the password leaves a database that the old or the new password opens, and
the new one if it returns `Ok`, exactly if both passwords are the same, or no operation is interrupted after an
encrypted value was written back. -/
theorem change_password_all_or_nothing_iff (hC : env.crypto.Lawful) {s : ConfigState} (new : String)
    (hreadable : Readable env s.table oldOpt) :
    AllOrNothing env s oldOpt new ↔ oldOpt = some new ∨ Unbroken env s := by
  obtain ⟨k, hk, hm, hok, hb, hc⟩ := changePassword_cut hC hreadable new
  simp only [AllOrNothing, PersistentConfiguration.changePassword, snd_mapErr, fst_mapErr_eq_ok_iff, hok]
  have hre : k = s.table.parameters.length + 1 →
      Opens env s.table oldOpt (changePassword env oldOpt new s).2.table (some new) := by
    rintro rfl
    exact hm.opens_new
  refine ⟨fun h => ?_, fun hco => ⟨?_, hre⟩⟩
  · by_contra hbr
    simp only [not_or, Unbroken, not_forall] at hbr
    obtain ⟨hne, i, r, hr, hs, hw, j, hj, hf⟩ := hbr
    have hl : i < s.table.parameters.length := (List.getElem?_eq_some_iff.1 hr).1
    -- the value was written, the example was not
    have hwr : i < k := by
      by_contra hki
      obtain ⟨j', hj', hf'⟩ := hc (by omega)
      exact hf' (hw j' (by omega))
    have ho : k ≤ s.table.parameters.length := by
      by_contra ha
      exact hf (hb s.table.parameters.length (by omega) j hj)
    have hme : r ∈ s.table.parameters.take k := List.mem_of_getElem? ((List.getElem?_take_of_lt hwr).trans hr)
    obtain ⟨hol, hn⟩ := hm.locked_out hC ho hreadable hne hme hs
    exact h.1.elim hol hn
  · rcases hco with rfl | hu
    · exact .inl (hm.opens_same hreadable.passes)
    · by_cases ha : k = s.table.parameters.length + 1
      · exact .inr (hre ha)
      · have ho : k ≤ s.table.parameters.length := by omega
        refine .inl (hm.opens_old ho hreadable.passes fun r hr hs => ?_)
        obtain ⟨i, hi⟩ := List.mem_iff_getElem?.1 hr
        have hik : i < k := by
          have hlt := (List.getElem?_eq_some_iff.1 hi).1
          rw [List.length_take] at hlt
          omega
        obtain ⟨j, hj, hf⟩ := hc ho
        rw [List.getElem?_take_of_lt hik] at hi
        exact hf (hu i r hi hs (hb i hik) j (by omega))

end Main

/-! ### A database of three parameters -/

def charBytes (c : Char) : List UInt8 :=
  [1, UInt8.ofNat (c.toNat / 65536), UInt8.ofNat (c.toNat / 256), UInt8.ofNat c.toNat]

def readPassword : List UInt8 → Except String (List Char × List UInt8)
  | 1 :: a :: b :: c :: bytes =>
    match readPassword bytes with
    | .ok (password, plain) => .ok (Char.ofNat (a.toNat * 65536 + b.toNat * 256 + c.toNat) :: password, plain)
    | .error e => .error e
  | 0 :: plain => .ok ([], plain)
  | _ => .error "unexpected end"

theorem readPassword_charBytes : readPassword (p.flatMap charBytes ++ 0 :: pl) = .ok (p, pl) := by
  induction p with
  | nil => rfl
  | cons c p ih =>
    have hc : c.toNat < 65536 * 256 := by
      have := c.valid
      rcases this with h | h
      · have : c.toNat < 0xd800 := h
        omega
      · have : c.toNat < 0x110000 := h.2
        omega
    have hch : (UInt8.ofNat (c.toNat / 65536)).toNat * 65536 + (UInt8.ofNat (c.toNat / 256)).toNat * 256 +
        (UInt8.ofNat c.toNat).toNat = c.toNat := by
      simp only [UInt8.toNat_ofNat']
      omega
    simp only [List.flatMap_cons, charBytes, List.cons_append, List.nil_append, readPassword]
    rw [ih]
    simp only [hch, Char.ofNat_toNat]

def plainCrypto : PasswordCrypto Unit (String × List UInt8) where
  encrypt _ plain password := .ok (password, plain)
  decrypt c password := if c.1 = password then .ok c.2 else .error "InvalidPassword"
  toVec c := .ok (c.1.toList.flatMap charBytes ++ 0 :: c.2)
  fromSlice bytes := (readPassword bytes).map fun c => (String.ofList c.1, c.2)
  toHex bytes := String.ofList (bytes.map fun b => Char.ofNat b.toNat)
  fromHex text := .ok (text.toList.map fun c => UInt8.ofNat c.toNat)

theorem lawful_plainCrypto : plainCrypto.Lawful where
  encrypts r p password := ⟨_, _, rfl, rfl⟩
  inverts h := by
    obtain rfl := Except.ok.inj h
    simp [plainCrypto]
  exclusive := by
    intro c password p h password' hne
    refine ⟨"InvalidPassword", if_neg fun heq => hne ?_⟩
    simp only [plainCrypto] at h
    split at h
    · exact heq.symm.trans ‹_›
    · cases h
  cbor h := by
    obtain rfl := Except.ok.inj h
    simp only [plainCrypto, readPassword_charBytes]
    simp [Except.map]
  hex bytes := by
    have hby : ∀ b : UInt8, UInt8.ofNat (Char.ofNat b.toNat).toNat = b := by
      intro b
      have hb : b.toNat < 256 := b.toNat_lt
      rw [Char.ofNat, dif_pos (.inl (by omega))]
      exact UInt8.ofNat_toNat
    simp [plainCrypto, Function.comp_def, hby]

def encryptedUnder (password : String) (plain : List UInt8) : String :=
  plainCrypto.toHex (password.toList.flatMap charBytes ++ 0 :: plain)

/-- A database with the password "old", before operation 0. -/
def sampleState : ConfigState where
  table := {
    rows := [⟨"chain_name", some "base-mainnet", false⟩,
      ⟨"consuming_wallet_private_key", some (encryptedUnder "old" [7]), true⟩,
      ⟨exampleEncrypted, some (encryptedUnder "old" [1]), true⟩,
      ⟨"past_neighbors", some (encryptedUnder "old" [9]), true⟩]
    nodup := by decide }
  operations := 0
  draws := 0

def interruptedAt (n : Nat) (interrupt : Interrupt) : ConfigEnv Unit (String × List UInt8) where
  crypto := plainCrypto
  fault m := if m = n then some interrupt else none
  random _ := ()
  randomBytes _ := [2]

theorem readable_sampleState (n : Nat) (int : Interrupt) :
    Readable (interruptedAt n int) sampleState.table (some "old") where
  passes := by
    show (PersistentConfiguration.checkPassword { interruptedAt 0 .stops with fault := fun _ => none } (some "old")
      ⟨sampleState.table, 0, 0⟩).1 = .ok true
    decide +kernel
  opened := by
    show ∀ r ∈ sampleState.table.rows, r.encrypted → (plaintext plainCrypto (some "old") r.valueOpt).isSome
    decide +kernel

/-- The first write of the change fails, and the old password still opens everything. -/
theorem change_password_all_or_nothing_first_write :
    Readable (interruptedAt 2 (.fails "database is locked")) sampleState.table (some "old") ∧
      AllOrNothing (interruptedAt 2 (.fails "database is locked")) sampleState (some "old") "new" := by
  have hr := readable_sampleState 2 (.fails "database is locked")
  refine ⟨hr, (change_password_all_or_nothing_iff lawful_plainCrypto "new" hr).2 (.inr ?_)⟩
  intro i r _ _ hw
  exact absurd (hw 2 (by omega)) (by decide)

/-- The process stops when the private key is written back and the past neighbors are not: the old password
passes and no longer opens the key, and the new one does not pass. -/
theorem change_password_locks_out : Readable (interruptedAt 4 .stops) sampleState.table (some "old") ∧
      ¬AllOrNothing (interruptedAt 4 .stops) sampleState (some "old") "new" := by
  refine ⟨readable_sampleState 4 .stops, fun ⟨hop, _⟩ => ?_⟩
  rcases hop with ho | hn
  · obtain ⟨r', hr', -, hp⟩ := ho.plaintexts
      ⟨"consuming_wallet_private_key", some (encryptedUnder "old" [7]), true⟩ (by decide) rfl (by decide)
    have hk : (PersistentConfiguration.changePassword (interruptedAt 4 .stops) (some "old") "new"
        sampleState).2.table.find "consuming_wallet_private_key" =
          some ⟨"consuming_wallet_private_key", some (encryptedUnder "new" [7]), true⟩ := by decide +kernel
    obtain rfl := Option.some.inj (hk.symm.trans hr')
    revert hp
    show plaintext plainCrypto (some "old") (some (encryptedUnder "new" [7])) ≠
      plaintext plainCrypto (some "old") (some (encryptedUnder "old" [7]))
    decide +kernel
  · have hr : (PersistentConfiguration.checkPassword { interruptedAt 4 .stops with fault := fun _ => none }
        (some "new") ⟨(PersistentConfiguration.changePassword (interruptedAt 4 .stops) (some "old") "new"
          sampleState).2.table, 0, 0⟩).1 = .ok false := by decide +kernel
    have ha := hn.passes
    rw [Passes, hr] at ha
    cases ha

end MasqMobile
