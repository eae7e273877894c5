import Coffer.Proofs.Seal

/-!
A vault file with a header can be taken apart into what it was put together from, and whatever file
with a header can be taken apart is put together from the result again, byte for byte:
`Envelope.decode_inverts_encode`. The header has to pass the checks that are made before a key is
derived, so the parameters must be accepted (`KeyParams.IsAccepted`) and the salt neither too short
nor too long for its place (`Key.IsSalt`). What comes out of a file is accepted itself
(`isComplete_ofBytes`).
-/

namespace Coffer

def Envelope.Fits (width : Nat) (n : Int) : Prop :=
  0 ≤ n ∧ n.toNat < 256 ^ width

instance (width : Nat) (n : Int) : Decidable (Envelope.Fits width n) :=
  inferInstanceAs (Decidable (_ ∧ _))

/-- Parameters that are valid, cost no more than a header may ask for, and fit into their places in
it. -/
structure KeyParams.IsAccepted (p : KeyParams) : Prop where
  fault : p.fault? = none
  cost : Envelope.isTooCostly p = false
  algorithm : Envelope.Fits 1 p.algorithm
  iterations : Envelope.Fits 4 p.iterations
  memory : Envelope.Fits 4 p.memory
  lanes : Envelope.Fits 1 p.lanes

structure KeyParams.FitsHeader (p : KeyParams) : Prop where
  algorithm : Envelope.Fits 1 p.algorithm
  iterations : Envelope.Fits 4 p.iterations
  memory : Envelope.Fits 4 p.memory
  lanes : Envelope.Fits 1 p.lanes

theorem KeyParams.IsAccepted.fitsHeader {p : KeyParams} (h : p.IsAccepted) : p.FitsHeader :=
  ⟨h.algorithm, h.iterations, h.memory, h.lanes⟩

theorem KeyParams.isAccepted_legacy : KeyParams.legacy.IsAccepted :=
  ⟨by decide, by decide, by decide, by decide, by decide, by decide⟩

/-- A salt that a key can be derived from, and whose length fits into its place in a header. -/
def Key.IsSalt (salt : Bytes) : Prop :=
  minSaltSize ≤ salt.length ∧ salt.length < 256

namespace Envelope

/-! ### The header -/

theorem slot_eq {width : Nat} {n : Int} (h : Fits width n) :
    slot width n = some (Bytes.littleEndian width n.toNat) :=
  if_pos h

def headerStart (p : KeyParams) (saltSize : Nat) : Bytes :=
  magic ++ Bytes.littleEndian 1 currentVersion ++ Bytes.littleEndian 1 p.algorithm.toNat ++
    Bytes.littleEndian 4 p.iterations.toNat ++ Bytes.littleEndian 4 p.memory.toNat ++
    Bytes.littleEndian 1 p.lanes.toNat ++ Bytes.littleEndian 1 saltSize ++
    Bytes.littleEndian 1 Sealed.nonceSize

theorem header_eq {p : KeyParams} {salt : Bytes} (hp : p.FitsHeader) (hsalt : Key.IsSalt salt) :
    header p salt = some (headerStart p salt.length ++ salt) := by
  have hsize : Fits 1 salt.length := ⟨Int.natCast_nonneg _, by simpa using hsalt.2⟩
  have hnonce : Fits 1 Sealed.nonceSize := by decide
  simp only [header, slot_eq hp.algorithm, slot_eq hp.iterations, slot_eq hp.memory,
    slot_eq hp.lanes, slot_eq hsize, slot_eq hnonce, Option.bind_eq_bind, Option.bind_some,
    Int.toNat_natCast]
  rfl

theorem fits_of_slot {width : Nat} {n : Int} {bs : Bytes} (h : slot width n = some bs) :
    Fits width n := by
  rw [slot] at h
  split at h
  · assumption
  · contradiction

theorem fitsHeader_of_header {p : KeyParams} {salt h : Bytes} (hheader : header p salt = some h) :
    p.FitsHeader := by
  unfold header at hheader
  obtain ⟨algorithm, halgorithm, hheader⟩ := Option.bind_eq_some_iff.mp hheader
  obtain ⟨iterations, hiterations, hheader⟩ := Option.bind_eq_some_iff.mp hheader
  obtain ⟨memory, hmemory, hheader⟩ := Option.bind_eq_some_iff.mp hheader
  obtain ⟨lanes, hlanes, -⟩ := Option.bind_eq_some_iff.mp hheader
  exact ⟨fits_of_slot halgorithm, fits_of_slot hiterations, fits_of_slot hmemory,
    fits_of_slot hlanes⟩

theorem associatedData_eq {e : Envelope} (hlegacy : e.isLegacy = false)
    (hp : e.params.FitsHeader) (hsalt : Key.IsSalt e.salt) :
    e.associatedData = .ok (some (headerStart e.params e.salt.length ++ e.salt)) := by
  simp only [associatedData, hlegacy, Bool.false_eq_true, if_false, header_eq hp hsalt]

theorem length_headerStart (p : KeyParams) (saltSize : Nat) :
    (headerStart p saltSize).length = headerSize := rfl

theorem number_headerStart (p : KeyParams) (saltSize : Nat) (rest : Bytes) :
    number (headerStart p saltSize ++ rest) 8 1 = currentVersion ∧
    number (headerStart p saltSize ++ rest) 9 1 =
      Bytes.ofLittleEndian (Bytes.littleEndian 1 p.algorithm.toNat) ∧
    number (headerStart p saltSize ++ rest) 10 4 =
      Bytes.ofLittleEndian (Bytes.littleEndian 4 p.iterations.toNat) ∧
    number (headerStart p saltSize ++ rest) 14 4 =
      Bytes.ofLittleEndian (Bytes.littleEndian 4 p.memory.toNat) ∧
    number (headerStart p saltSize ++ rest) 18 1 =
      Bytes.ofLittleEndian (Bytes.littleEndian 1 p.lanes.toNat) ∧
    number (headerStart p saltSize ++ rest) 19 1 =
      Bytes.ofLittleEndian (Bytes.littleEndian 1 saltSize) ∧
    number (headerStart p saltSize ++ rest) 20 1 = Sealed.nonceSize :=
  ⟨rfl, rfl, rfl, rfl, rfl, rfl, rfl⟩

theorem Fits.read {width : Nat} {n : Int} (h : Fits width n) :
    (Bytes.ofLittleEndian (Bytes.littleEndian width n.toNat) : Int) = n := by
  rw [Bytes.ofLittleEndian_littleEndian h.2]
  exact Int.toNat_of_nonneg h.1

theorem magic_isPrefixOf_headerStart (p : KeyParams) (saltSize : Nat) (rest : Bytes) :
    magic.isPrefixOf (headerStart p saltSize ++ rest) = true := by
  rw [List.isPrefixOf_iff_prefix]
  simp only [headerStart, List.append_assoc]
  exact List.prefix_append _ _

/-! ### Files -/

theorem encode_eq_of_fits {e : Envelope} (hversion : e.version = currentVersion)
    (hp : e.params.FitsHeader) (hsalt : Key.IsSalt e.salt)
    (hnonce : e.nonce.length = Sealed.nonceSize) :
    encode e = .ok (headerStart e.params e.salt.length ++ (e.salt ++ (e.nonce ++ e.ciphertext))) := by
  have hlegacy : e.isLegacy = false := by rw [isLegacy, hversion]; rfl
  rw [encode, hlegacy, header_eq hp hsalt]
  simp only [Bool.false_eq_true, if_false, hnonce, ne_eq, not_true_eq_false, List.append_assoc]

theorem encode_eq {e : Envelope} (hversion : e.version = currentVersion)
    (hp : e.params.IsAccepted) (hsalt : Key.IsSalt e.salt)
    (hnonce : e.nonce.length = Sealed.nonceSize) :
    encode e = .ok (headerStart e.params e.salt.length ++ (e.salt ++ (e.nonce ++ e.ciphertext))) :=
  encode_eq_of_fits hversion hp.fitsHeader hsalt hnonce

/-- A file that is written starts with a header. -/
theorem eq_of_encode {e : Envelope} {bs : Bytes} (h : encode e = .ok bs) :
    ∃ start, header e.params e.salt = some start ∧ bs = start ++ (e.nonce ++ e.ciphertext) := by
  unfold encode at h
  split at h
  · cases h
  · split at h
    · cases h
    · cases hheader : header e.params e.salt with
      | none =>
        rw [hheader] at h
        cases h
      | some start =>
        rw [hheader] at h
        cases h
        exact ⟨start, rfl, List.append_assoc ..⟩

def headerParams (bs : Bytes) : KeyParams :=
  ⟨number bs 9 1, number bs 10 4, number bs 14 4, number bs 18 1⟩

theorem headerParams_headerStart {p : KeyParams} (hp : p.FitsHeader) (saltSize : Nat)
    (rest : Bytes) : headerParams (headerStart p saltSize ++ rest) = p := by
  obtain ⟨-, halgorithm, hiterations, hmemory, hlanes, -, -⟩ := number_headerStart p saltSize rest
  simp only [headerParams, halgorithm, hiterations, hmemory, hlanes, hp.algorithm.read,
    hp.iterations.read, hp.memory.read, hp.lanes.read]

theorem number_saltSize {salt : Bytes} (hsalt : Key.IsSalt salt) (p : KeyParams) (rest : Bytes) :
    number (headerStart p salt.length ++ rest) 19 1 = salt.length := by
  obtain ⟨-, -, -, -, -, hsaltSize, -⟩ := number_headerStart p salt.length rest
  rw [hsaltSize, Bytes.ofLittleEndian_littleEndian (by simpa using hsalt.2)]

/-- The length of the salt and of what comes before it, according to the header. -/
def saltEnd (bs : Bytes) : Nat :=
  headerSize + number bs 19 1

/-- What the bytes of a file with a header must satisfy. -/
structure IsWellFormed (bs : Bytes) : Prop where
  header : headerSize ≤ bs.length
  version : number bs 8 1 = currentVersion
  fault : (headerParams bs).fault? = none
  cost : isTooCostly (headerParams bs) = false
  saltSize : Key.minSaltSize ≤ number bs 19 1
  nonceSize : number bs 20 1 = Sealed.nonceSize
  complete : saltEnd bs + Sealed.nonceSize + Sealed.tagSize ≤ bs.length

/-- The parts of a file with a header. -/
def ofBytes (bs : Bytes) : Envelope :=
  ⟨(bs.drop headerSize).take (number bs 19 1), (bs.drop (saltEnd bs)).take Sealed.nonceSize,
    bs.drop (saltEnd bs + Sealed.nonceSize), headerParams bs, currentVersion⟩

theorem algorithm_of_fault? {p : KeyParams} (h : p.fault? = none) :
    ¬ (p.algorithm ≠ KeyParams.argon2id ∧ p.algorithm ≠ KeyParams.pbkdf2) := by
  rintro ⟨hargon, hpbkdf⟩
  rw [KeyParams.fault?, if_neg hargon, if_neg hpbkdf] at h
  contradiction

theorem decode_eq_ok {bs : Bytes} (hmagic : magic.isPrefixOf bs = true) (h : IsWellFormed bs) :
    decode bs = .ok (ofBytes bs) := by
  have hheader := Nat.not_lt.mpr h.header
  have hsalt := Nat.not_lt.mpr h.saltSize
  have halgorithm := algorithm_of_fault? h.fault
  have hfault := h.fault
  have hcost := h.cost
  have hcomplete := Nat.not_lt.mpr h.complete
  simp only [headerParams] at halgorithm hfault hcost
  rw [saltEnd] at hcomplete
  unfold decode
  simp only [hmagic, hheader, h.version, h.nonceSize, hsalt, halgorithm, hfault, hcost, hcomplete,
    Bool.not_true, Bool.false_eq_true, if_false, ne_eq, not_true_eq_false]
  rfl

/-- A file with a header is taken apart only if it passes every check. -/
theorem isWellFormed_of_decode {bs : Bytes} {e : Envelope} (hmagic : magic.isPrefixOf bs = true)
    (h : decode bs = .ok e) : IsWellFormed bs := by
  unfold decode at h
  simp only [hmagic, Bool.not_true, Bool.false_eq_true, if_false, bind, Except.bind] at h
  split at h
  · contradiction
  next hheader =>
  split at h
  · contradiction
  next hversion =>
  split at h
  · contradiction
  split at h
  · contradiction
  next hnonce =>
  split at h
  · contradiction
  next hsalt =>
  split at h
  · contradiction
  next hfault =>
  split at h
  · contradiction
  next hcost =>
  split at h
  · contradiction
  next hcomplete =>
  -- The last check counts on the length of the nonce, which is known by then.
  have hnonce' := Decidable.not_not.mp hnonce
  rw [hnonce'] at hcomplete
  refine ⟨Nat.not_lt.mp hheader, Decidable.not_not.mp hversion, ?_, Bool.not_eq_true _ ▸ hcost,
    Nat.not_lt.mp hsalt, hnonce', Nat.not_lt.mp hcomplete⟩
  exact Option.eq_none_iff_forall_ne_some.mpr hfault

theorem decode_of_not_magic {bs : Bytes} (hmagic : magic.isPrefixOf bs = false) :
    decode bs = decodeLegacy bs := by
  unfold decode
  simp only [hmagic, Bool.not_false, if_true]

theorem version_of_decode {bs : Bytes} {e : Envelope} (h : decode bs = .ok e) :
    e.version = if magic.isPrefixOf bs then (currentVersion : Int) else 0 := by
  cases hmagic : magic.isPrefixOf bs with
  | true =>
    rw [decode_eq_ok hmagic (isWellFormed_of_decode hmagic h)] at h
    cases h
    rfl
  | false =>
    rw [decode_of_not_magic hmagic, decodeLegacy] at h
    split at h
    · contradiction
    · cases h
      rfl

/-- Salt, nonce and sealed text that do not look like a header are taken apart again. -/
theorem decode_legacy {salt nonce ciphertext : Bytes}
    (hmagic : magic.isPrefixOf (salt ++ (nonce ++ ciphertext)) = false)
    (hsalt : salt.length = legacySaltSize) (hnonce : nonce.length = Sealed.nonceSize)
    (htag : Sealed.tagSize ≤ ciphertext.length) :
    decode (salt ++ (nonce ++ ciphertext)) = .ok ⟨salt, nonce, ciphertext, .legacy, 0⟩ := by
  have hlong : ¬ (salt ++ (nonce ++ ciphertext)).length <
      legacySaltSize + Sealed.nonceSize + Sealed.tagSize := by
    simp only [List.length_append]
    omega
  rw [decode_of_not_magic hmagic, decodeLegacy]
  rw [if_neg hlong, ← hsalt, ← hnonce, ← List.drop_drop, List.take_left, List.drop_left,
    List.take_left, List.drop_left]

theorem fits_number (bs : Bytes) (offset width : Nat) : Fits width (number bs offset width) := by
  have hlt := Bytes.ofLittleEndian_lt ((bs.drop offset).take width)
  refine ⟨Int.natCast_nonneg _, Nat.lt_of_lt_of_le hlt (Nat.pow_le_pow_right (by decide) ?_)⟩
  exact List.length_take_le _ _

/-- An envelope that a file with a header can hold, all of it in its place. -/
structure IsComplete (e : Envelope) : Prop where
  version : e.version = currentVersion
  params : e.params.IsAccepted
  salt : Key.IsSalt e.salt
  nonce : e.nonce.length = Sealed.nonceSize
  ciphertext : Sealed.tagSize ≤ e.ciphertext.length

theorem length_salt {bs : Bytes} (h : IsWellFormed bs) :
    (ofBytes bs).salt.length = number bs 19 1 := by
  have hcomplete := h.complete
  rw [saltEnd] at hcomplete
  rw [ofBytes, List.length_take, List.length_drop]
  omega

/-- What a file that passes every check is taken apart into. -/
theorem isComplete_ofBytes {bs : Bytes} (h : IsWellFormed bs) : (ofBytes bs).IsComplete := by
  have hsize := fits_number bs 19 1
  have hsalt := length_salt h
  have hcomplete := h.complete
  refine ⟨rfl, ⟨h.fault, h.cost, fits_number bs 9 1, fits_number bs 10 4, fits_number bs 14 4,
    fits_number bs 18 1⟩, ⟨?_, ?_⟩, ?_, ?_⟩
  · rw [hsalt]
    exact h.saltSize
  · rw [hsalt]
    simpa using hsize.2
  · rw [ofBytes, List.length_take, List.length_drop]
    omega
  · rw [ofBytes, List.length_drop]
    omega

theorem accepted_of_decode {bs : Bytes} {e : Envelope} (h : decode bs = .ok e) :
    e.params.IsAccepted ∧ Key.IsSalt e.salt := by
  cases hmagic : magic.isPrefixOf bs with
  | false =>
    rw [decode_of_not_magic hmagic, decodeLegacy] at h
    split at h
    · contradiction
    · next hlong =>
      cases h
      have hsalt : (bs.take legacySaltSize).length = legacySaltSize := by
        rw [List.length_take]
        omega
      refine ⟨KeyParams.isAccepted_legacy, ?_⟩
      rw [Key.IsSalt, hsalt]
      decide
  | true =>
    have hwf := isWellFormed_of_decode hmagic h
    rw [decode_eq_ok hmagic hwf] at h
    cases h
    have hcomplete := isComplete_ofBytes hwf
    exact ⟨hcomplete.params, hcomplete.salt⟩

/-- A file whose header asks for too much is not taken apart, though its parameters are valid. -/
theorem decode_of_isTooCostly {p : KeyParams} {salt : Bytes} (hp : p.FitsHeader)
    (hfault : p.fault? = none) (hcost : isTooCostly p = true) (hsalt : Key.IsSalt salt)
    (rest : Bytes) : decode (headerStart p salt.length ++ rest) = .error .costOutOfRange := by
  have hmagic := magic_isPrefixOf_headerStart p salt.length rest
  have hparams := headerParams_headerStart hp salt.length rest
  have hsaltSize := number_saltSize hsalt p rest
  have hheader : headerSize ≤ (headerStart p salt.length ++ rest).length := by
    rw [List.length_append, length_headerStart]
    exact Nat.le_add_right _ _
  obtain ⟨hversion, -, -, -, -, -, hnonceSize⟩ := number_headerStart p salt.length rest
  generalize headerStart p salt.length ++ rest = bs at *
  have halgorithm := algorithm_of_fault? hfault
  rw [← hparams] at halgorithm hfault hcost
  simp only [headerParams] at halgorithm hfault hcost
  unfold decode
  simp only [hmagic, Nat.not_lt.mpr hheader, hversion, hnonceSize, hsaltSize,
    Nat.not_lt.mpr hsalt.1, halgorithm, hfault, hcost, Bool.not_true, Bool.false_eq_true, if_false,
    ne_eq, not_true_eq_false]
  rfl

theorem decode_headerStart {p : KeyParams} {salt nonce : Bytes} (hp : p.IsAccepted)
    (hsalt : Key.IsSalt salt) (hnonce : nonce.length = Sealed.nonceSize) (ciphertext : Bytes)
    (htag : Sealed.tagSize ≤ ciphertext.length) :
    decode (headerStart p salt.length ++ (salt ++ (nonce ++ ciphertext))) =
      .ok ⟨salt, nonce, ciphertext, p, currentVersion⟩ := by
  obtain ⟨hversion, -, -, -, -, -, hnonceSize⟩ :=
    number_headerStart p salt.length (salt ++ (nonce ++ ciphertext))
  have hmagic := magic_isPrefixOf_headerStart p salt.length (salt ++ (nonce ++ ciphertext))
  have hsaltSize := number_saltSize hsalt p (salt ++ (nonce ++ ciphertext))
  have hparams := headerParams_headerStart hp.fitsHeader salt.length (salt ++ (nonce ++ ciphertext))
  -- Of the header only the numbers are needed from here on. The rest is where to cut.
  generalize hbs : headerStart p salt.length ++ (salt ++ (nonce ++ ciphertext)) = bs at *
  have hdrop : bs.drop headerSize = salt ++ (nonce ++ ciphertext) := by
    rw [← hbs, Bytes.drop_append (length_headerStart p salt.length)]
  have hend : saltEnd bs = headerSize + salt.length := by rw [saltEnd, hsaltSize]
  have hlength : bs.length = headerSize + (salt.length + (nonce.length + ciphertext.length)) := by
    rw [← hbs]
    simp only [List.length_append, length_headerStart]
  have hwf : IsWellFormed bs :=
    { header := by omega
      version := hversion
      fault := hparams ▸ hp.fault
      cost := hparams ▸ hp.cost
      saltSize := hsaltSize ▸ hsalt.1
      nonceSize := hnonceSize
      complete := by omega }
  have hrest : bs.drop (saltEnd bs) = nonce ++ ciphertext := by
    rw [hend, ← List.drop_drop, hdrop, List.drop_left]
  rw [decode_eq_ok hmagic hwf, ofBytes, hparams, hsaltSize, ← List.drop_drop, hdrop, hrest,
    ← hnonce, List.take_left, List.take_left, List.drop_left]

/-! ### Both ways -/

theorem littleEndian_number {bs : Bytes} {offset width : Nat} (h : offset + width ≤ bs.length) :
    Bytes.littleEndian width (number bs offset width) ++ bs.drop (offset + width) =
      bs.drop offset := by
  have hlength : ((bs.drop offset).take width).length = width := by
    rw [List.length_take, List.length_drop]
    omega
  have hread := Bytes.littleEndian_ofLittleEndian ((bs.drop offset).take width)
  rw [hlength] at hread
  rw [number, hread, ← List.drop_drop, List.take_append_drop]

theorem headerStart_append_drop {bs : Bytes} (hmagic : magic.isPrefixOf bs = true)
    (h : IsWellFormed bs) :
    headerStart (headerParams bs) (number bs 19 1) ++ bs.drop headerSize = bs := by
  have hlength : 21 ≤ bs.length := h.header
  have hslot : ∀ offset width, offset + width ≤ 21 →
      Bytes.littleEndian width (number bs offset width) ++ bs.drop (offset + width) =
        bs.drop offset := by
    intro offset width hend
    exact littleEndian_number (by omega)
  have hstart : magic ++ bs.drop 8 = bs := by
    obtain ⟨rest, hrest⟩ := List.isPrefixOf_iff_prefix.mp hmagic
    rw [← hrest, List.drop_left' (by rfl)]
  calc
    _ = magic ++ (Bytes.littleEndian 1 (number bs 8 1) ++
        (Bytes.littleEndian 1 (number bs 9 1) ++ (Bytes.littleEndian 4 (number bs 10 4) ++
        (Bytes.littleEndian 4 (number bs 14 4) ++ (Bytes.littleEndian 1 (number bs 18 1) ++
        (Bytes.littleEndian 1 (number bs 19 1) ++ (Bytes.littleEndian 1 (number bs 20 1) ++
        bs.drop 21))))))) := by
      simp only [headerStart, headerParams, headerSize, h.version, h.nonceSize, Int.toNat_natCast,
        List.append_assoc]
    -- From the last number back to the first, each one joins the bytes behind it.
    _ = magic ++ bs.drop 8 := by
      rw [hslot 20 1 (by decide), hslot 19 1 (by decide), hslot 18 1 (by decide),
        hslot 14 4 (by decide), hslot 10 4 (by decide), hslot 9 1 (by decide),
        hslot 8 1 (by decide)]
    _ = bs := hstart

theorem encode_ofBytes {bs : Bytes} (hmagic : magic.isPrefixOf bs = true) (h : IsWellFormed bs) :
    encode (ofBytes bs) = .ok bs := by
  have hcomplete := isComplete_ofBytes h
  rw [encode_eq hcomplete.version hcomplete.params hcomplete.salt hcomplete.nonce, length_salt h]
  have hbody : (ofBytes bs).salt ++ ((ofBytes bs).nonce ++ (ofBytes bs).ciphertext) =
      bs.drop headerSize := by
    simp only [ofBytes, saltEnd, ← List.drop_drop, List.take_append_drop]
  rw [hbody]
  exact congrArg Except.ok (headerStart_append_drop hmagic h)

/-- Every complete envelope can be written, and what is written is taken apart into it again; every
file with a header that is taken apart is what the result is written as. -/
theorem decode_inverts_encode :
    (∀ e : Envelope, e.IsComplete → ∃ bs, encode e = .ok bs ∧ decode bs = .ok e) ∧
    ∀ (bs : Bytes) (e : Envelope), magic.isPrefixOf bs = true → decode bs = .ok e →
      encode e = .ok bs := by
  constructor
  · intro e he
    refine ⟨_, encode_eq he.version he.params he.salt he.nonce, ?_⟩
    rw [decode_headerStart he.params he.salt he.nonce _ he.ciphertext, ← he.version]
  · intro bs e hmagic hdecode
    have hwf := isWellFormed_of_decode hmagic hdecode
    rw [decode_eq_ok hmagic hwf] at hdecode
    cases hdecode
    exact encode_ofBytes hmagic hwf

/-- A file whose costs are the greatest ones and whose salt and contents are the shortest ones. -/
def dearest : Envelope :=
  { salt := [1, 2, 3, 4, 5, 6, 7, 8]
    nonce := List.replicate 12 9
    ciphertext := List.replicate 16 10
    params := ⟨KeyParams.argon2id, 64, 4194304, 64⟩ }

def dearestBytes : Bytes :=
  Bytes.ofText "RGVAULT" ++ [0, 1, 1, 64, 0, 0, 0, 0, 0, 64, 0, 64, 8, 12, 1, 2, 3, 4, 5, 6, 7, 8] ++
    List.replicate 12 9 ++ List.replicate 16 10

theorem decode_inverts_encode_dearest :
    dearest.IsComplete ∧ (∃ bs, encode dearest = .ok bs ∧ decode bs = .ok dearest) ∧
    magic.isPrefixOf dearestBytes = true ∧ decode dearestBytes = .ok dearest ∧
    encode dearest = .ok dearestBytes := by
  have hcomplete : dearest.IsComplete :=
    ⟨rfl, ⟨by decide, by decide, by decide, by decide, by decide, by decide⟩,
      ⟨by decide, by decide⟩, rfl, by decide⟩
  have hdecode : decode dearestBytes = .ok dearest := rfl
  exact ⟨hcomplete, decode_inverts_encode.1 dearest hcomplete, rfl, hdecode,
    decode_inverts_encode.2 dearestBytes dearest rfl hdecode⟩

end Envelope

end Coffer
