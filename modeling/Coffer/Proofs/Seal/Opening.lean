import Coffer.Proofs.Seal

/-!
Opening is the inverse of sealing. A sealed text is the text combined with a stream of bytes, with a
tag over the result behind it. The stream depends on the key, the nonce and the length only, and the
tag on what it is computed over, so both are made again when the text is opened, whatever its length
is and whatever is authenticated with it. And since nothing is opened whose tag is not made again,
only what was sealed can be opened (`Gcm.decrypt?_eq_some_iff`).

Main statement: `Sealed.decrypt_inverts_encrypt`.
-/

namespace Coffer

namespace Gcm

theorem eq_encrypt_of_decrypt? {key nonce data sealed text : Bytes}
    (h : decrypt? key nonce data sealed = some text) : sealed = encrypt key nonce data text := by
  simp only [decrypt?] at h
  split at h
  · next htag =>
    cases h
    rw [encrypt, combine_combine, ← htag, List.take_append_drop]
  · contradiction

theorem decrypt?_eq_some_iff {key nonce data sealed text : Bytes} :
    decrypt? key nonce data sealed = some text ↔ sealed = encrypt key nonce data text := by
  constructor
  · exact eq_encrypt_of_decrypt?
  · rintro rfl
    exact decrypt?_encrypt key nonce data text

end Gcm

namespace Sealed

variable {random : RandomSource} {key nonce ciphertext text : Bytes} {data : Option Bytes}

theorem decrypt_eq_ok_iff (hkey : key.length = keySize) :
    decrypt key nonce ciphertext data = .ok text ↔
      nonce.length = nonceSize ∧ ciphertext = Gcm.encrypt key nonce (data.getD []) text := by
  constructor
  · intro h
    rw [decrypt, if_neg (not_not_intro hkey)] at h
    split at h
    · contradiction
    · next hsizes =>
      split at h
      · next hopen =>
        cases h
        rw [not_or, Decidable.not_not] at hsizes
        exact ⟨hsizes.1, Gcm.eq_encrypt_of_decrypt? hopen⟩
      · contradiction
  · rintro ⟨hnonce, rfl⟩
    exact decrypt_encrypt hkey hnonce text data

theorem decrypt_of_sizes (hkey : key.length = keySize)
    (hsizes : nonce.length ≠ nonceSize ∨ ciphertext.length < tagSize) :
    decrypt key nonce ciphertext data = .error .notAuthentic := by
  rw [decrypt, if_neg (not_not_intro hkey), if_pos hsizes]

/-- **Opening inverts sealing.** Under a key of 32 bytes, any text is sealed, with any data or none,
to a nonce of 12 bytes and a sealed text that is 16 bytes longer than the text, and just the text
comes back when it is opened with the same data, where no data are the same as no bytes. Nothing
else opens to that text under that nonce; and what has a nonce of another length, or is too short
for a tag, is not authentic. -/
theorem decrypt_inverts_encrypt (hrandom : random.IsFull) (hkey : key.length = 32) :
    (∀ (text : Bytes) (data : Option Bytes), ∃ nonce ciphertext random',
      encrypt random key text data = .ok ((nonce, ciphertext), random') ∧
      nonce.length = 12 ∧ ciphertext.length = text.length + 16 ∧
      decrypt key nonce ciphertext data = .ok text ∧
      ∀ ciphertext', decrypt key nonce ciphertext' data = .ok text → ciphertext' = ciphertext) ∧
    (∀ text, encrypt random key text none = encrypt random key text (some [])) ∧
    (∀ nonce ciphertext,
      decrypt key nonce ciphertext none = decrypt key nonce ciphertext (some [])) ∧
    ∀ (nonce ciphertext : Bytes) (data : Option Bytes),
      nonce.length ≠ 12 ∨ ciphertext.length < 16 →
      decrypt key nonce ciphertext data = .error .notAuthentic := by
  refine ⟨?_, fun _ => rfl, fun _ _ => rfl, fun _ _ _ => decrypt_of_sizes hkey⟩
  intro text data
  have hnonce : (random.draw nonceSize).1.length = nonceSize := hrandom _ _
  refine ⟨_, _, _, encrypt_eq_ok random hkey text data, hnonce, Gcm.length_encrypt ..,
    decrypt_encrypt hkey hnonce text data, ?_⟩
  intro ciphertext' hopens
  exact ((decrypt_eq_ok_iff hkey).mp hopens).2

/-- Sixteen zeros under a key of zeros and a nonce of zeros. The sealed text is the one that is
published with the cipher, so it is this one that opens again. -/
theorem decrypt_inverts_encrypt_zeros :
    let random : RandomSource := ⟨fun _ size => List.replicate size 0, 0⟩
    let key : Bytes := List.replicate 32 0
    let nonce : Bytes := List.replicate 12 0
    let text : Bytes := List.replicate 16 0
    let ciphertext : Bytes :=
      [0xce, 0xa7, 0x40, 0x3d, 0x4d, 0x60, 0x6b, 0x6e, 0x07, 0x4e, 0xc5, 0xd3, 0xba, 0xf3, 0x9d,
        0x18, 0xd0, 0xd1, 0xc8, 0xa7, 0x99, 0x99, 0x6b, 0xf0, 0x26, 0x5b, 0x98, 0xb5, 0xd4, 0x8a,
        0xb9, 0x19]
    random.IsFull ∧ key.length = 32 ∧
      (∃ random', encrypt random key text none = .ok ((nonce, ciphertext), random')) ∧
      decrypt key nonce ciphertext none = .ok text ∧
      decrypt key nonce.tail ciphertext none = .error .notAuthentic := by
  intro random key nonce text ciphertext
  have hrandom : random.IsFull := fun _ _ => List.length_replicate
  have hkey : key.length = 32 := List.length_replicate
  have hpublished : Gcm.encrypt key nonce [] text = ciphertext := by decide +kernel
  have hsealed : encrypt random key text none =
      .ok ((nonce, Gcm.encrypt key nonce [] text), (random.draw nonceSize).2) :=
    encrypt_eq_ok random hkey text none
  rw [hpublished] at hsealed
  obtain ⟨hinverts, -, -, hsizes⟩ := decrypt_inverts_encrypt hrandom hkey
  obtain ⟨_, _, _, hencrypt, -, -, hopens, -⟩ := hinverts text none
  cases hsealed.symm.trans hencrypt
  exact ⟨hrandom, hkey, ⟨_, hsealed⟩, hopens, hsizes _ _ _ (.inl (by decide))⟩

end Sealed

end Coffer
