import MasqMobile.Config.Dao

/-!
# The secure config layer

`node/src/db_config/secure_config_layer.rs`, with `db_encryption_layer.rs` and the two functions of
`blockchain/bip39.rs` that it uses, and `change_password` of `persistent_configuration.rs`. A parameter
whose row is marked encrypted holds a ciphertext under the database password. The password itself is not
stored: the row `example_encrypted` holds random data encrypted under it, and a password is right if it
decrypts that row. The encryption, CBOR and hex come from other crates and are a parameter.

| here | there |
| --- | --- |
| `encryptBytes`, `decryptBytes` | `Bip39` (bip39.rs:32, 52) |
| `passwordMatches`, `reencryptValue` | `DbEncryptionLayer` (db_encryption_layer.rs:9, 68) |
| `checkPassword`, `changePassword` | `SecureConfigLayer` (secure_config_layer.rs:42, 53) |
| `reencryptRecords`, `updateRecords`, `reencryptRecord` | secure_config_layer.rs:118, 144, 165 |
| `installExampleForPassword` | secure_config_layer.rs:183 |
-/

namespace MasqMobile

/-! ## Encryption under a password -/

/-- bip39.rs:10 -/
inductive Bip39Error where
  | conversionError (message : String)
  | encryptionFailure (message : String)
  | decryptionFailure (message : String)
  | serializationFailure (message : String)
  | deserializationFailure (message : String)
  deriving DecidableEq, Repr

/-- The derived `Debug`. -/
def Bip39Error.debug : Bip39Error → String
  | .conversionError message => "ConversionError(" ++ message.quote ++ ")"
  | .encryptionFailure message => "EncryptionFailure(" ++ message.quote ++ ")"
  | .decryptionFailure message => "DecryptionFailure(" ++ message.quote ++ ")"
  | .serializationFailure message => "SerializationFailure(" ++ message.quote ++ ")"
  | .deserializationFailure message => "DeserializationFailure(" ++ message.quote ++ ")"

/-- What the node takes from other crates: `Crypto` of `ethsign`, whose `encrypt` draws a salt and an
initialization vector, `serde_cbor` and `rustc_hex`. Errors are given as their `Debug`. -/
structure PasswordCrypto (ρ κ : Type) where
  encrypt : ρ → List UInt8 → String → Except String κ
  decrypt : κ → String → Except String (List UInt8)
  toVec : κ → Except String (List UInt8)
  fromSlice : List UInt8 → Except String κ
  toHex : List UInt8 → String
  fromHex : String → Except String (List UInt8)

/-- Encryption does not fail and decryption under the same password inverts it; what decrypts under one
password fails under every other. -/
structure PasswordCrypto.Lawful {ρ κ : Type} (C : PasswordCrypto ρ κ) : Prop where
  encrypts : ∀ r plain password, ∃ c bytes, C.encrypt r plain password = .ok c ∧ C.toVec c = .ok bytes
  inverts : ∀ {r plain password c}, C.encrypt r plain password = .ok c → C.decrypt c password = .ok plain
  exclusive : ∀ {c password plain}, C.decrypt c password = .ok plain → ∀ {password'}, password' ≠ password →
    ∃ message, C.decrypt c password' = .error message
  cbor : ∀ {c bytes}, C.toVec c = .ok bytes → C.fromSlice bytes = .ok c
  hex : ∀ bytes, C.fromHex (C.toHex bytes) = .ok bytes

namespace Bip39

variable {ρ κ : Type} (C : PasswordCrypto ρ κ)

def encryptBytes (r : ρ) (seed : List UInt8) (dbPassword : String) : Except Bip39Error String :=
  match C.encrypt r seed dbPassword with
  | .error e => .error (.encryptionFailure ("Failed to encrypt: " ++ e))
  | .ok crypto =>
    match C.toVec crypto with
    | .error e => .error (.serializationFailure ("Failed to serialize: " ++ e))
    | .ok cipherSeed => .ok (C.toHex cipherSeed)

def decryptBytes (cryptString dbPassword : String) : Except Bip39Error (List UInt8) :=
  match C.fromHex cryptString with
  | .error e => .error (.conversionError e)
  | .ok cipherSeed =>
    match C.fromSlice cipherSeed with
    | .error e => .error (.deserializationFailure e)
    | .ok crypto =>
      match C.decrypt crypto dbPassword with
      | .error e => .error (.decryptionFailure e)
      | .ok plain => .ok plain

variable {C}

theorem exists_encryptBytes (h : C.Lawful) (r : ρ) (plain : List UInt8) (p : String) :
    ∃ text, encryptBytes C r plain p = .ok text ∧ decryptBytes C text p = .ok plain := by
  obtain ⟨c, bytes, he, hb⟩ := h.encrypts r plain p
  refine ⟨C.toHex bytes, ?_, ?_⟩
  · simp only [encryptBytes, he, hb]
  · simp only [decryptBytes, h.hex, h.cbor hb, h.inverts he]

/-- Another password is told apart from a damaged text. -/
theorem decryptBytes_exclusive (h : C.Lawful) {text : String} (hp : decryptBytes C text p = .ok pl) (hne : p' ≠ p) :
    ∃ message, decryptBytes C text p' = .error (.decryptionFailure message) := by
  simp only [decryptBytes] at hp ⊢
  cases hh : C.fromHex text with
  | error e => simp [hh] at hp
  | ok cipherSeed =>
    simp only [hh] at hp ⊢
    cases hs : C.fromSlice cipherSeed with
    | error e => simp [hs] at hp
    | ok crypto =>
      simp only [hs] at hp ⊢
      cases hd : C.decrypt crypto p with
      | error e => simp [hd] at hp
      | ok decrypted =>
        obtain ⟨message, he⟩ := h.exclusive hd hne
        exact ⟨message, by simp only [he]⟩

end Bip39

/-! ## The layer -/

/-- secure_config_layer.rs:11 -/
inductive SecureConfigLayerError where
  | notPresent
  | passwordError
  | transactionError
  | databaseError (message : String)
  deriving DecidableEq, Repr

/-- secure_config_layer.rs:18 -/
def SecureConfigLayerError.ofDao : ConfigDaoError → SecureConfigLayerError
  | .notPresent => .notPresent
  | .transactionError => .transactionError
  | .databaseError message => .databaseError message

def exampleEncrypted : String := "example_encrypted"

/-- The world of a call: the encryption, what happens to the database operations, and the random values
that the call will draw. -/
structure ConfigEnv (ρ κ : Type) where
  crypto : PasswordCrypto ρ κ
  fault : Nat → Option Interrupt
  random : Nat → ρ
  randomBytes : Nat → List UInt8

def draw {ε α : Type} (source : Nat → α) : ConfigProgram ε α := fun s =>
  (.ok (source s.draws), { s with draws := s.draws + 1 })

namespace DbEncryptionLayer

variable {ρ κ ε : Type}

def passwordMatches (C : PasswordCrypto ρ κ) : Option String → Option String → Except (Halt ε) Bool
  | none, none => .ok true
  | none, some _ => .ok false
  | some _, none => .ok false
  | some dbPassword, some encryptedExample =>
    match Bip39.decryptBytes C encryptedExample dbPassword with
    | .ok _ => .ok true
    | .error (.decryptionFailure _) => .ok false
    | .error e => .error (.panicked ("Database is corrupt: password example value can't be read: " ++ e.debug))

def reencryptValue (env : ConfigEnv ρ κ) (cryptValue oldPassword newPassword name : String) : ConfigProgram ε String :=
  match Bip39.decryptBytes env.crypto cryptValue oldPassword with
  | .error _ => .fail (.panicked s!"Database is corrupt: configuration value '{name}' cannot be decrypted")
  | .ok decryptedValue => do
    let r ← draw env.random
    match Bip39.encryptBytes env.crypto r decryptedValue newPassword with
    | .error e => .fail (.panicked ("Encryption failed: " ++ e.debug))
    | .ok text => pure text

end DbEncryptionLayer

namespace SecureConfigLayer

variable {ρ κ : Type} (env : ConfigEnv ρ κ)

def passwordMatchesExample (dbPasswordOpt : Option String) (exampleRecord : ConfigDaoRecord) :
    Except (Halt SecureConfigLayerError) Bool :=
  if exampleRecord.encrypted then DbEncryptionLayer.passwordMatches env.crypto dbPasswordOpt exampleRecord.valueOpt
  else .error (.panicked "Database is corrupt: Password example value is not encrypted")

def checkPassword (dbPasswordOpt : Option String) : ConfigProgram SecureConfigLayerError Bool := do
  let exampleRecord ← Program.mapErr (Halt.convert .ofDao) (ConfigDao.get env.fault exampleEncrypted)
  Program.ofExcept (passwordMatchesExample env dbPasswordOpt exampleRecord)

variable (oldPasswordOpt : Option String) (newPassword : String)

def reencryptRecord (oldRecord : ConfigDaoRecord) : ConfigProgram SecureConfigLayerError ConfigDaoRecord :=
  match oldRecord.encrypted, oldRecord.valueOpt, oldPasswordOpt with
  | false, _, _ => pure oldRecord
  | true, none, _ => pure oldRecord
  | true, some _, none =>
    let name := oldRecord.name
    .fail (.panicked
      s!"Database is corrupt: configuration value '{name}' is encrypted, but database has no password")
  | true, some value, some oldPassword => do
    let reencryptedValue ← DbEncryptionLayer.reencryptValue env value oldPassword newPassword oldRecord.name
    pure { oldRecord with valueOpt := some reencryptedValue }

/-- The first fold of `reencrypt_records`: all records are encrypted anew before any is written. -/
def reencryptAll (oldPasswordOpt : Option String) (newPassword : String) :
    List ConfigDaoRecord → ConfigProgram SecureConfigLayerError (List ConfigDaoRecord)
  | [] => pure []
  | record :: records => do
    let newRecord ← reencryptRecord env oldPasswordOpt newPassword record
    let newRecords ← reencryptAll oldPasswordOpt newPassword records
    pure (newRecord :: newRecords)

/-- One turn of the fold of `update_records`. -/
def updateRecord (record : ConfigDaoRecord) : ConfigProgram SecureConfigLayerError Unit :=
  Program.mapErr (Halt.convert fun e =>
      let name := record.name
      let debug := e.debug
      .databaseError s!"Aborting password change: configuration value '{name}' could not be set: {debug}")
    (ConfigDao.set env.fault record.name record.valueOpt)

def updateRecords : List ConfigDaoRecord → ConfigProgram SecureConfigLayerError Unit := Program.each (updateRecord env)

def reencryptRecords : ConfigProgram SecureConfigLayerError Unit := do
  let existingRecords ← Program.mapErr (Halt.convert .ofDao) (ConfigDao.getAll env.fault)
  let reencryptedRecords ← reencryptAll env oldPasswordOpt newPassword
    (existingRecords.filter (·.name ≠ exampleEncrypted))
  updateRecords env reencryptedRecords

def installExampleForPassword : ConfigProgram SecureConfigLayerError Unit := do
  let exampleData ← draw env.randomBytes
  let r ← draw env.random
  match Bip39.encryptBytes env.crypto r exampleData newPassword with
  | .error e => .fail (.panicked ("Encryption failed: " ++ e.debug))
  | .ok encryptedExample =>
    Program.mapErr (Halt.convert .ofDao) (ConfigDao.set env.fault exampleEncrypted (some encryptedExample))

def changePassword : ConfigProgram SecureConfigLayerError Unit := do
  if ← checkPassword env oldPasswordOpt then
    reencryptRecords env oldPasswordOpt newPassword
    installExampleForPassword env newPassword
  else .fail (.err .passwordError)

end SecureConfigLayer

/-! ## The persistent configuration -/

/-- persistent_configuration.rs:41, with the variants that a password change can answer. -/
inductive PersistentConfigError where
  | notPresent
  | passwordError
  | transactionError
  | databaseError (message : String)
  deriving DecidableEq, Repr

/-- persistent_configuration.rs:72 -/
def PersistentConfigError.ofSecureConfigLayer : SecureConfigLayerError → PersistentConfigError
  | .notPresent => .notPresent
  | .passwordError => .passwordError
  | .transactionError => .transactionError
  | .databaseError message => .databaseError message

namespace PersistentConfiguration

variable {ρ κ : Type} (env : ConfigEnv ρ κ)

/-- persistent_configuration.rs:223 -/
def checkPassword (dbPasswordOpt : Option String) : ConfigProgram PersistentConfigError Bool :=
  Program.mapErr (Halt.convert .ofSecureConfigLayer) (SecureConfigLayer.checkPassword env dbPasswordOpt)

/-- persistent_configuration.rs:230 -/
def changePassword (oldPasswordOpt : Option String) (newPassword : String) : ConfigProgram PersistentConfigError Unit :=
  Program.mapErr (Halt.convert .ofSecureConfigLayer) (SecureConfigLayer.changePassword env oldPasswordOpt newPassword)

end PersistentConfiguration

end MasqMobile
