import Coffer.Envelope
import Coffer.Proofs.Bytes

/-!
What is sealed under a key can be opened under it: `Sealed.decrypt_encrypt`. This needs no more of
the cipher than that it makes a stream of bytes from a key and a nonce. Whatever a password and a
salt are, the key derived from them has the right length (`Key.length_of_derive`), and costs that
are checked are the only thing that keeps a key from being derived (`Key.exists_derive`).
-/

namespace Coffer

/-! ### The cipher -/

namespace Gcm

theorem length_keyStream (w : Aes.Schedule) (nonce : Bytes) (blocks : Nat) :
    (keyStream w nonce blocks).length = 16 * blocks := by
  rw [keyStream, List.length_flatMap]
  simp only [Aes.Block.length_bytes, List.map_const', List.sum_replicate_nat, List.length_range]
  omega

theorem length_combine (w : Aes.Schedule) (nonce text : Bytes) :
    (combine w nonce text).length = text.length := by
  rw [combine, Bytes.length_xor]
  rw [length_keyStream]
  omega

theorem combine_combine (w : Aes.Schedule) (nonce text : Bytes) :
    combine w nonce (combine w nonce text) = text := by
  rw [combine, length_combine, combine, Bytes.xor_xor]
  rw [length_keyStream]
  omega

theorem length_tag (w : Aes.Schedule) (nonce data ciphertext : Bytes) :
    (tag w nonce data ciphertext).length = tagSize := rfl

theorem length_encrypt (key nonce data text : Bytes) :
    (encrypt key nonce data text).length = text.length + tagSize := by
  rw [encrypt, List.length_append, length_combine, length_tag]

theorem decrypt?_encrypt (key nonce data text : Bytes) :
    decrypt? key nonce data (encrypt key nonce data text) = some text := by
  have hlength : (encrypt key nonce data text).length - tagSize = text.length := by
    rw [length_encrypt, Nat.add_sub_cancel]
  have htake : (encrypt key nonce data text).take text.length =
      combine (Aes.schedule key) nonce text := by
    rw [encrypt, List.take_left' (length_combine _ _ _)]
  have hdrop : (encrypt key nonce data text).drop text.length =
      tag (Aes.schedule key) nonce data (combine (Aes.schedule key) nonce text) := by
    rw [encrypt, List.drop_left' (length_combine _ _ _)]
  simp only [decrypt?, hlength, htake, hdrop, if_true, combine_combine]

end Gcm

/-! ### Sealing -/

/-- A source yields as many bytes as it is asked for. -/
def RandomSource.IsFull (s : RandomSource) : Prop :=
  ∀ n size, (s.bytes n size).length = size

namespace Sealed

theorem encrypt_eq_ok (random : RandomSource) {key : Bytes} (hkey : key.length = keySize)
    (text : Bytes) (data : Option Bytes) :
    encrypt random key text data =
      .ok (((random.draw nonceSize).1,
        Gcm.encrypt key (random.draw nonceSize).1 (data.getD []) text),
        (random.draw nonceSize).2) := by
  rw [encrypt, if_neg (not_not_intro hkey)]

theorem decrypt_encrypt {key nonce : Bytes} (hkey : key.length = keySize)
    (hnonce : nonce.length = nonceSize) (text : Bytes) (data : Option Bytes) :
    decrypt key nonce (Gcm.encrypt key nonce (data.getD []) text) data = .ok text := by
  have hlong : ¬ (nonce.length ≠ nonceSize ∨
      (Gcm.encrypt key nonce (data.getD []) text).length < tagSize) := by
    rw [Gcm.length_encrypt, tagSize]
    omega
  rw [decrypt, if_neg (not_not_intro hkey), if_neg hlong]
  simp only [Gcm.decrypt?_encrypt]

theorem eq_notAuthentic_of_decrypt {key nonce ciphertext : Bytes} {data : Option Bytes}
    {e : SealError} (hkey : key.length = keySize)
    (h : decrypt key nonce ciphertext data = .error e) : e = .notAuthentic := by
  rw [decrypt, if_neg (not_not_intro hkey)] at h
  split at h
  · cases h
    rfl
  · split at h
    · contradiction
    · cases h
      rfl

end Sealed

/-! ### Passwords -/

namespace Password

theorem text?_ofText (s : String) : (ofText s).text? = some s := by
  have hchars : ∀ cs : List Char, (cs.map CodePoint.char).mapM CodePoint.char? = some cs := by
    intro cs
    induction cs with
    | nil => rfl
    | cons c cs ih =>
      rw [List.map_cons, List.mapM_cons, ih]
      rfl
  rw [text?, ofText, hchars, Option.map_some, String.ofList_toList]

theorem eq_ofText {p : Password} {s : String} (h : p.text? = some s) : p = s := by
  have hpoints : ∀ {ps : List CodePoint} {cs : List Char}, ps.mapM CodePoint.char? = some cs →
      ps = cs.map CodePoint.char := by
    intro ps
    induction ps with
    | nil =>
      intro cs h
      cases h
      rfl
    | cons point ps ih =>
      intro cs h
      rw [List.mapM_cons] at h
      obtain ⟨c, hc, h⟩ := Option.bind_eq_some_iff.mp h
      obtain ⟨cs', hcs, h⟩ := Option.bind_eq_some_iff.mp h
      cases h
      cases point with
      | surrogate offset => cases hc
      | char c' =>
        cases hc
        rw [ih hcs, List.map_cons]
  obtain ⟨points⟩ := p
  obtain ⟨cs, hcs, rfl⟩ := Option.map_eq_some_iff.mp h
  obtain rfl : points = cs.map CodePoint.char := hpoints hcs
  rw [ofText, String.toList_ofList]

theorem text_or_not (p : Password) : (∃ text : String, p = text) ∨ p.text? = none := by
  cases h : p.text? with
  | some text => exact .inl ⟨text, eq_ofText h⟩
  | none => exact .inr rfl

end Password

/-! ### Keys -/

theorem Sha256.State.length_bytes (s : Sha256.State) : s.bytes.length = 32 := rfl

namespace Key

theorem length_expandKey (material info : Bytes) : (expandKey material info).length = size :=
  Sha256.State.length_bytes _

@[simp]
theorem secret_ofText (s : String) : secret s = .ok (Bytes.ofText s) := by
  rw [secret, Password.text?_ofText]

theorem derive_eq {password : Password} {salt : Bytes} {p : KeyParams} (h : p.fault? = none) :
    derive password salt p =
      if p.algorithm = KeyParams.pbkdf2 then
        (secret password).map fun bytes => Pbkdf2.derive bytes salt p.iterations.toNat
      else if p.iterations ≥ costLimit ∨ p.memory ≥ costLimit ∨ p.lanes ≥ costLimit then
        .error .costTooLarge
      else if salt.length < minSaltSize then .error .saltTooShort
      else (secret password).map fun bytes => expandKey (Argon2id.derive
        ⟨p.iterations.toNat, p.memory.toNat, p.lanes.toNat⟩ size bytes salt) purpose := by
  have hvalid : p.validate = .ok () := by rw [KeyParams.validate, h]
  unfold derive
  rw [hvalid]
  cases secret password <;> rfl

theorem fault?_of_derive {password : Password} {salt key : Bytes} {p : KeyParams}
    (h : derive password salt p = .ok key) : p.fault? = none := by
  cases hfault : p.fault? with
  | none => rfl
  | some e =>
    have hvalid : p.validate = .error e := by rw [KeyParams.validate, hfault]
    unfold derive at h
    rw [hvalid] at h
    contradiction

/-- A key that is derived has the length of keys. -/
theorem length_of_derive {password : Password} {salt key : Bytes} {p : KeyParams}
    (h : derive password salt p = .ok key) : key.length = size := by
  rw [derive_eq (fault?_of_derive h)] at h
  generalize secret password = bytes at h
  split at h
  · cases bytes with
    | error e => cases h
    | ok bytes =>
      cases h
      exact Sha256.State.length_bytes _
  · split at h
    · contradiction
    · split at h
      · contradiction
      · cases bytes with
        | error e => cases h
        | ok bytes =>
          cases h
          exact length_expandKey _ _

theorem exists_text_of_derive {password : Password} {salt key : Bytes} {p : KeyParams}
    (h : derive password salt p = .ok key) : ∃ text : String, password = text := by
  obtain htext | hnone := password.text_or_not
  · exact htext
  · rw [derive_eq (fault?_of_derive h), secret, hnone] at h
    split at h
    · cases h
    · split at h
      · cases h
      · split at h <;> cases h

/-- Checked parameters, costs that can be taken and a salt that is long enough make a key of every
password that has bytes. -/
theorem exists_stretch {salt : Bytes} {p : KeyParams} (hfault : p.fault? = none)
    (hcost : p.algorithm = KeyParams.pbkdf2 ∨
      p.iterations < costLimit ∧ p.memory < costLimit ∧ p.lanes < costLimit)
    (hsalt : minSaltSize ≤ salt.length) :
    ∃ stretch : Bytes → Bytes, ∀ password, derive password salt p = (secret password).map stretch := by
  by_cases hway : p.algorithm = KeyParams.pbkdf2
  · refine ⟨fun bytes => Pbkdf2.derive bytes salt p.iterations.toNat, fun password => ?_⟩
    rw [derive_eq hfault, if_pos hway]
  · obtain ⟨hiterations, hmemory, hlanes⟩ := hcost.resolve_left hway
    refine ⟨fun bytes => expandKey (Argon2id.derive
      ⟨p.iterations.toNat, p.memory.toNat, p.lanes.toNat⟩ size bytes salt) purpose,
      fun password => ?_⟩
    rw [derive_eq hfault, if_neg hway, if_neg (by omega), if_neg (by omega)]

theorem cost_lt {p : KeyParams} (h : Envelope.isTooCostly p = false) :
    p.algorithm = KeyParams.pbkdf2 ∨
      p.iterations < costLimit ∧ p.memory < costLimit ∧ p.lanes < costLimit := by
  by_cases hway : p.algorithm = KeyParams.pbkdf2
  · exact .inl hway
  · rw [Envelope.isTooCostly, if_neg hway] at h
    simp only [Bool.or_eq_false_iff, decide_eq_false_iff_not] at h
    simp only [Envelope.maxIterations, Envelope.maxMemory, Envelope.maxLanes] at h
    refine .inr ?_
    rw [costLimit]
    omega

/-- Parameters that are checked and a salt that is long enough make a key. -/
theorem exists_derive {salt : Bytes} {p : KeyParams} (hfault : p.fault? = none)
    (hcost : Envelope.isTooCostly p = false) (hsalt : minSaltSize ≤ salt.length)
    (password : String) : ∃ key, derive password salt p = .ok key := by
  obtain ⟨stretch, hderive⟩ := exists_stretch hfault (cost_lt hcost) hsalt
  exact ⟨_, by rw [hderive, secret_ofText]; rfl⟩

/-- A password that is no text makes no key, however well the parameters are checked. -/
theorem derive_of_not_text {salt : Bytes} {p : KeyParams} (hfault : p.fault? = none)
    (hcost : Envelope.isTooCostly p = false) (hsalt : minSaltSize ≤ salt.length)
    {password : Password} (h : password.text? = none) :
    derive password salt p = .error .notText := by
  obtain ⟨stretch, hderive⟩ := exists_stretch hfault (cost_lt hcost) hsalt
  rw [hderive, secret, h]
  rfl

end Key

end Coffer
