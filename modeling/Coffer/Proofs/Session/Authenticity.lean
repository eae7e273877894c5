import Coffer.Proofs.Session.Readback

/-!
Every byte of a file with a header is authenticated. The cipher is handed a key, and besides it three
things: the data to be authenticated, a nonce and the sealed text (`Sealing`). The data are not taken
from the file but made again from the parameters and the salt that were read from it, so a byte that
the reader passes over, or that the header writes in its own way, could be changed at will.

What is proved:
  1. `Envelope.associatedData_of_decode`: the data are the file up to the end of the salt, and nonce
     and sealed text are the rest of it, so nothing is passed over.
  2. `Session.save_eq_seal`: what saving seals is what it writes, piece by piece.
  3. `Session.sealing_ne_of_ne`: hence a file other than the one that was saved has another sealing.
     What the cipher is asked to open is not what it was asked to seal.
-/

namespace Coffer

/-- What is handed to the cipher besides the key: the data that are authenticated, the nonce and the
sealed text. -/
structure Sealing where
  data : Option Bytes
  nonce : Bytes
  ciphertext : Bytes
deriving DecidableEq

/-- The data that are authenticated, the nonce and the sealed text in one row. -/
def Sealing.bytes (x : Sealing) : Bytes :=
  x.data.getD [] ++ (x.nonce ++ x.ciphertext)

namespace Envelope

/-- What the cipher is asked to open. -/
def sealing (e : Envelope) : Except EncodeError Sealing :=
  e.associatedData.map fun data => ⟨data, e.nonce, e.ciphertext⟩

theorem take_saltEnd {bs : Bytes} (hmagic : magic.isPrefixOf bs = true) (h : IsWellFormed bs) :
    bs.take (saltEnd bs) =
      headerStart (ofBytes bs).params (ofBytes bs).salt.length ++ (ofBytes bs).salt := by
  have hstart := headerStart_append_drop hmagic h
  have hlength := length_headerStart (headerParams bs) (number bs 19 1)
  rw [length_salt h]
  calc bs.take (saltEnd bs)
    _ = (headerStart (headerParams bs) (number bs 19 1) ++ bs.drop headerSize).take
        (headerSize + number bs 19 1) := by rw [hstart, saltEnd]
    _ = headerStart (headerParams bs) (number bs 19 1) ++
        (bs.drop headerSize).take (number bs 19 1) := by rw [← hlength, List.take_length_add_append]

/-- The data to be authenticated are the file up to the end of its salt, and the rest of it are nonce
and sealed text. -/
theorem associatedData_of_decode {bs : Bytes} {e : Envelope} (h : decode bs = .ok e)
    (hversion : e.version = currentVersion) :
    e.associatedData = .ok (some (bs.take (headerSize + e.salt.length))) ∧
      bs.take (headerSize + e.salt.length) ++ (e.nonce ++ e.ciphertext) = bs := by
  -- A file that does not begin as one with a header is read as one without.
  have hmagic : magic.isPrefixOf bs = true := by
    by_contra hmagic
    rw [version_of_decode h, if_neg hmagic] at hversion
    contradiction
  have hwf := isWellFormed_of_decode hmagic h
  rw [decode_eq_ok hmagic hwf] at h
  cases h
  have hcomplete := isComplete_ofBytes hwf
  have hend : headerSize + (ofBytes bs).salt.length = saltEnd bs := by rw [length_salt hwf, saltEnd]
  have hdata := associatedData_eq rfl hcomplete.params.fitsHeader hcomplete.salt
  rw [← take_saltEnd hmagic hwf] at hdata
  rw [hend]
  refine ⟨hdata, ?_⟩
  simp only [ofBytes, ← List.drop_drop, List.take_append_drop]

theorem bytes_of_sealing {bs : Bytes} {e : Envelope} {x : Sealing} (h : decode bs = .ok e)
    (hversion : e.version = currentVersion) (hsealing : e.sealing = .ok x) : x.bytes = bs := by
  obtain ⟨hdata, hbs⟩ := associatedData_of_decode h hversion
  rw [sealing, hdata] at hsealing
  cases hsealing
  exact hbs

end Envelope

namespace Session

/-- What saving a session seals: its vault, under its key and with the header for it. -/
def seal? (s : Session) (w : World) : Option Sealing := do
  let v ← s.vault
  let k ← s.key
  let header ← Envelope.header k.params k.salt
  let ((nonce, ciphertext), _) ← (Sealed.encrypt w.random k.bytes v.payload (some header)).toOption
  return ⟨some header, nonce, ciphertext⟩

theorem openEnvelope_eq (password : Password) (e : Envelope) :
    openEnvelope password e = do
      let key ← (Key.derive password e.salt e.params).mapError .key
      let x ← e.sealing.mapError .encode
      let contents ← (Sealed.decrypt key x.nonce x.ciphertext x.data).mapError .sealed
      return (key, contents) := by
  unfold openEnvelope Envelope.sealing
  cases Key.derive password e.salt e.params with
  | error f => rfl
  | ok key =>
    dsimp only
    cases e.associatedData with
    | error f => rfl
    | ok data =>
      dsimp only
      cases hdecrypt : Sealed.decrypt key e.nonce e.ciphertext data with
      | error f => simp only [Except.mapError, Except.map, bind, Except.bind, hdecrypt]
      | ok contents =>
        simp only [Except.mapError, Except.map, bind, Except.bind, hdecrypt, pure, Except.pure]

variable {s : Session} {w : World}

theorem seal?_eq {v : Vault} {k : SessionKey} (hv : s.vault = some v) (hkey : s.key = some k)
    (hlength : k.bytes.length = Sealed.keySize) (hp : k.params.FitsHeader)
    (hsalt : Key.IsSalt k.salt) (hw : w.random.IsFull) :
    ∃ nonce ciphertext, s.seal? w =
        some ⟨some (Envelope.headerStart k.params k.salt.length ++ k.salt), nonce, ciphertext⟩ ∧
      nonce.length = Sealed.nonceSize ∧ Sealed.tagSize ≤ ciphertext.length := by
  unfold seal?
  simp only [hv, hkey, Envelope.header_eq hp hsalt, Sealed.encrypt_eq_ok w.random hlength,
    Except.toOption, Option.bind_eq_bind, Option.bind_some, Option.getD_some]
  refine ⟨_, _, rfl, hw _ _, ?_⟩
  rw [Gcm.length_encrypt]
  exact Nat.le_add_left _ _

/-- A session that is saved has sealed its vault, and its file is the bytes of the sealing. -/
theorem save_eq_seal (h : (s.save w).result = .ok ()) :
    ∃ x, s.seal? w = some x ∧ (s.save w).world.disk.read s.path = .ok x.bytes := by
  unfold save at h ⊢
  unfold seal?
  -- Every step of saving has to succeed, so only one way through it is left.
  cases hv : s.vault with
  | none => simp only [hv] at h; cases h
  | some v =>
  cases hkey : s.key with
  | none => simp only [hv, hkey] at h; cases h
  | some k =>
  simp only [hv, hkey] at h ⊢
  cases hheader : Envelope.header k.params k.salt with
  | none => simp only [hheader] at h; cases h
  | some header =>
  simp only [hheader] at h ⊢
  cases hencrypt : Sealed.encrypt w.random k.bytes v.payload (some header) with
  | error e => simp only [hencrypt] at h; cases h
  | ok drawn =>
  obtain ⟨⟨nonce, ciphertext⟩, random⟩ := drawn
  simp only [hencrypt] at h ⊢
  cases hencode : Envelope.encode { salt := k.salt, nonce, ciphertext, params := k.params } with
  | error e => simp only [hencode] at h; cases h
  | ok bytes =>
  simp only [hencode] at h ⊢
  cases hstore : w.disk.store s.path bytes with
  | mk result disk =>
  cases result with
  | error e => simp only [hstore] at h; cases h
  | ok u =>
  -- The header of the file that was written is the one that was authenticated.
  obtain ⟨start, hstart, hbytes⟩ := Envelope.eq_of_encode hencode
  cases hheader.symm.trans hstart
  refine ⟨⟨some header, nonce, ciphertext⟩, ?_, ?_⟩
  · simp only [Option.bind_eq_bind, Option.bind_some, hheader, hencrypt, Except.toOption]
    rfl
  · rw [hbytes] at hstore
    exact Disk.read_store hstore

/-- The data that a file with a header is opened with are the file up to the end of its salt, and the
nonce and the sealed text are the rest of it. A session that is saved writes the bytes of what it
seals, and no other file with a header is opened with that sealing. -/
theorem sealing_ne_of_ne :
    (∀ (bs : Bytes) (e : Envelope), Envelope.decode bs = .ok e →
      e.version = Envelope.currentVersion →
      e.associatedData = .ok (some (bs.take (Envelope.headerSize + e.salt.length))) ∧
      bs.take (Envelope.headerSize + e.salt.length) ++ (e.nonce ++ e.ciphertext) = bs) ∧
    (∀ (password : Password) (e : Envelope), openEnvelope password e = do
      let key ← (Key.derive password e.salt e.params).mapError .key
      let x ← e.sealing.mapError .encode
      let contents ← (Sealed.decrypt key x.nonce x.ciphertext x.data).mapError .sealed
      return (key, contents)) ∧
    ∀ (s : Session) (w : World), (s.save w).result = .ok () →
      ∃ x, s.seal? w = some x ∧ (s.save w).world.disk.read s.path = .ok x.bytes ∧
        ∀ (bs : Bytes) (e : Envelope), bs ≠ x.bytes → Envelope.decode bs = .ok e →
          e.version = Envelope.currentVersion → e.sealing ≠ .ok x := by
  refine ⟨fun bs e => Envelope.associatedData_of_decode, openEnvelope_eq, ?_⟩
  intro s w h
  obtain ⟨x, hseal, hread⟩ := save_eq_seal h
  refine ⟨x, hseal, hread, ?_⟩
  intro bs e hne hdecode hversion hsealing
  exact hne (Envelope.bytes_of_sealing hdecode hversion hsealing).symm

/-- A key for files that are tampered with. -/
def trustedKey : SessionKey :=
  ⟨List.replicate 32 7, List.replicate 32 5, State.cheapParams⟩

def underTrustedKey : Session :=
  { path := ⟨false, ["vault"]⟩
    params := State.cheapParams
    vault := some .empty
    key := some trustedKey }

/-- Parameters that differ from those of the key in a single byte of the header. -/
def forgedParams : KeyParams :=
  { State.cheapParams with iterations := 2 }

/-- The session is saved. With the number of rounds changed in it, the file can still be taken apart,
and nonce and sealed text are the same, but not the data. -/
theorem sealing_ne_of_ne_forged :
    (underTrustedKey.save State.blankWorld).result = .ok () ∧
    ∃ x bs e, underTrustedKey.seal? State.blankWorld = some x ∧
      (underTrustedKey.save State.blankWorld).world.disk.read underTrustedKey.path = .ok x.bytes ∧
      bs ≠ x.bytes ∧ Envelope.decode bs = .ok e ∧ e.version = Envelope.currentVersion ∧
      e.nonce = x.nonce ∧ e.ciphertext = x.ciphertext ∧
      e.associatedData = .ok (some (bs.take (Envelope.headerSize + e.salt.length))) ∧
      e.sealing ≠ .ok x := by
  have htrusted : trustedKey.params.FitsHeader := State.isAccepted_cheapParams.fitsHeader
  have hforged : forgedParams.IsAccepted :=
    ⟨by decide, by decide, by decide, by decide, by decide, by decide⟩
  have hsalt : Key.IsSalt trustedKey.salt := ⟨by decide, by decide⟩
  have hsave : (underTrustedKey.save State.blankWorld).result = .ok () :=
    save_ok rfl rfl rfl htrusted hsalt State.isFull_blankWorld (fun _ => ⟨_, rfl⟩)
  obtain ⟨nonce, ciphertext, hseal, hnonce, htag⟩ :=
    seal?_eq (s := underTrustedKey) rfl rfl rfl htrusted hsalt State.isFull_blankWorld
  have hdecode := Envelope.decode_headerStart hforged hsalt hnonce ciphertext htag
  obtain ⟨hdata, -, hsaved⟩ := sealing_ne_of_ne
  obtain ⟨x, hx, hread, hne⟩ := hsaved underTrustedKey State.blankWorld hsave
  cases hseal.symm.trans hx
  have hdiffer : Envelope.headerStart forgedParams trustedKey.salt.length ++
      (trustedKey.salt ++ (nonce ++ ciphertext)) ≠
      Envelope.headerStart trustedKey.params trustedKey.salt.length ++ trustedKey.salt ++
        (nonce ++ ciphertext) := by
    rw [List.append_assoc, ne_eq, List.append_left_inj]
    decide
  exact ⟨hsave, _, _, _, hx, hread, hdiffer, hdecode, rfl, rfl, rfl, (hdata _ _ hdecode rfl).1,
    hne _ _ hdiffer hdecode rfl⟩

end Session

end Coffer
