import SotifPlausibility.Found.MerkleDamgard
import SotifPlausibility.Zzta.SoftwareCryptoProvider

/-!
# SHA-256 as an iterated hash

The software provider pads a message while it reads it, block by block and byte by byte. Here its
blocks are the padded message, and what that means for two messages with one digest.

* `blocks data` — the blocks the loop fills, in order. `flatMap_blocks`: they are the message, the
  marker, fewer than 64 zeros and the length in bits.
* `sha256Impl_eq` — the digest is that of the chaining value after these blocks.
* `sha256_eq_iff` — two different messages have one digest exactly when the compression function
  collides on blocks of theirs. Nothing is assumed of the hash: a collision is what comes out.
* `hmacSha256_eq_iff` — the same for the keyed hash; `sessionKey_eq_iff` — for session keys.

Source: `CryptoPlatformInterface.cpp`, `Sha256Impl`, `DeriveSessionKey`.
-/

namespace SotifPlausibility.Zzta

open SotifPlausibility.Found SotifPlausibility.Found.MerkleDamgard

/-! ### The padded message -/

section padding

variable (data : List UInt8)

/-- The blocks of a message, as the loop fills them. -/
def blocks : List (Bytes 64) :=
  (List.range (paddedLen data.length / 64)).map fun i => fillBlock data (64 * i)

/-- The digest is read off the chaining value after the blocks. -/
theorem sha256Impl_eq :
    sha256Impl data = digestOf (chain compress kSha256InitHash (blocks data)) := by
  unfold sha256Impl chain blocks
  rw [List.foldl_map]

/-- The zeros between the marker and the length. -/
def zeroPad : ℕ := paddedLen data.length - data.length - 9

/-- The length of a message in bits, most significant byte first. -/
def lengthBytes : List UInt8 :=
  (List.range 8).map fun i =>
    (((UInt64.ofNat data.length * 8) >>> UInt64.ofNat ((7 - i) * 8)) &&& 0xFF).toUInt8

/-- The padded length: the message, the marker, the zeros and the length. -/
theorem paddedLen_eq : paddedLen data.length = data.length + (1 + (zeroPad data + 8)) := by
  unfold zeroPad paddedLen
  omega

/-- Fewer zeros than a block has bytes. -/
theorem zeroPad_lt : zeroPad data < 64 := by
  unfold zeroPad paddedLen
  omega

/-- The padded length is one of whole blocks. -/
theorem sixtyFour_dvd_paddedLen (n : ℕ) : 64 ∣ paddedLen n := Dvd.intro_left _ rfl

/-- Stretches of equal length, one after the other. -/
theorem flatMap_range_map {α : Type} (f : ℕ → α) (m n : ℕ) :
    ((List.range n).flatMap fun i => (List.range m).map fun j => f (m * i + j)) =
      (List.range (m * n)).map f := by
  induction n with
  | zero => rfl
  | succ n ih =>
      rw [List.range_succ, List.flatMap_append, ih, Nat.mul_succ, List.range_add, List.map_append,
        List.map_map]
      simp [Function.comp_def]

/-- A block holds the padded bytes from its start. -/
theorem toList_fillBlock (blockStart : ℕ) :
    (fillBlock data blockStart).toList =
      (List.range 64).map fun j => paddedByte data (blockStart + j) := by
  apply List.ext_getElem (by simp)
  intro i hi hi'
  simp [fillBlock]

/-- **The blocks are the padded message**: the message, the marker, zeros and the length in bits. -/
theorem flatMap_blocks :
    ((blocks data).flatMap fun block => block.toList) =
      data ++ 0x80 :: (List.replicate (zeroPad data) 0 ++ lengthBytes data) := by
  have hbytes : ((blocks data).flatMap fun block => block.toList) =
      (List.range (paddedLen data.length)).map (paddedByte data) := by
    unfold blocks
    rw [List.flatMap_map]
    simp only [toList_fillBlock]
    rw [flatMap_range_map, Nat.mul_div_cancel' (sixtyFour_dvd_paddedLen _)]
  have hmessage : (List.range data.length).map (paddedByte data) = data := by
    apply List.ext_getElem (by simp)
    intro i hi hi'
    simp [paddedByte, hi']
  have hzeros : (List.range (zeroPad data)).map
      (fun i => paddedByte data (data.length + (1 + i))) = List.replicate (zeroPad data) 0 := by
    apply List.eq_replicate_iff.mpr
    refine ⟨by simp, ?_⟩
    intro b hb
    obtain ⟨i, hi, rfl⟩ := List.mem_map.mp hb
    have hlen := paddedLen_eq data
    have hi := List.mem_range.mp hi
    unfold paddedByte
    rw [dif_neg (by omega), if_neg (by omega), if_neg (by omega)]
  have hlength : (List.range 8).map
      (fun i => paddedByte data (data.length + (1 + (zeroPad data + i)))) = lengthBytes data := by
    apply List.map_congr_left
    intro i hi
    have hlen := paddedLen_eq data
    have hi := List.mem_range.mp hi
    have hshift : data.length + (1 + (zeroPad data + i)) - (paddedLen data.length - 8) = i := by
      omega
    unfold paddedByte
    rw [dif_neg (by omega), if_neg (by omega), if_pos (by omega), hshift]
  have hmarker : paddedByte data data.length = 0x80 := by
    unfold paddedByte
    rw [dif_neg (by omega), if_pos rfl]
  rw [hbytes, paddedLen_eq, List.range_add, List.map_append, hmessage, List.range_add,
    List.map_append, List.map_append, List.range_add, List.map_append, List.map_append,
    List.map_append]
  simp only [List.map_map, Function.comp_def]
  rw [hzeros, hlength]
  simp [hmarker]

/-- **A digest is that of the padded message**, whatever the length of the message: blocks of 64
bytes that hold the message, the marker, fewer than 64 zeros and the length in bits. -/
theorem sha256Impl_padded :
    ∃ bs : List (Bytes 64), ∃ zeros < 64,
      (bs.flatMap fun block => block.toList) =
          data ++ 0x80 :: (List.replicate zeros 0 ++ lengthBytes data) ∧
        sha256Impl data = digestOf (bs.foldl compress kSha256InitHash) :=
  ⟨blocks data, zeroPad data, zeroPad_lt data, flatMap_blocks data, sha256Impl_eq data⟩

end padding

/-- The length takes eight bytes. -/
@[simp] theorem length_lengthBytes (data : List UInt8) : (lengthBytes data).length = 8 := by
  simp [lengthBytes]

/-- Eight bytes of a word, most significant first, determine it. -/
theorem eq_of_bytes_eq {x y : UInt64}
    (h : ∀ i < 8, ((x >>> UInt64.ofNat ((7 - i) * 8)) &&& 0xFF).toUInt8 =
      ((y >>> UInt64.ofNat ((7 - i) * 8)) &&& 0xFF).toUInt8) : x = y := by
  have hbyte : ∀ (z : UInt64), ∀ i < 8,
      ((z >>> UInt64.ofNat ((7 - i) * 8)) &&& 0xFF).toUInt8.toNat =
        z.toNat / 2 ^ ((7 - i) * 8) % 2 ^ 8 := by
    intro z i hi
    have hshift : (UInt64.ofNat ((7 - i) * 8)).toNat = (7 - i) * 8 := by
      rw [UInt64.toNat_ofNat']
      exact Nat.mod_eq_of_lt (by omega)
    rw [UInt64.toNat_toUInt8, UInt64.toNat_and, UInt64.toNat_shiftRight, hshift,
      Nat.mod_eq_of_lt (a := (7 - i) * 8) (by omega), Nat.shiftRight_eq_div_pow]
    show (_ &&& (2 ^ 8 - 1)) % _ = _
    rw [Nat.and_two_pow_sub_one_eq_mod, Nat.mod_mod]
  apply UInt64.toNat_inj.mp
  apply Nat.eq_of_testBit_eq
  intro k
  by_cases hk : k < 64
  · have hidx : k % 8 + (7 - (7 - k / 8)) * 8 = k := by omega
    have hlow : k % 8 < 8 := Nat.mod_lt _ (by omega)
    have hbits := congrArg (fun b : UInt8 => b.toNat.testBit (k % 8)) (h (7 - k / 8) (by omega))
    simp only [hbyte _ _ (show 7 - k / 8 < 8 by omega), Nat.testBit_mod_two_pow,
      Nat.testBit_div_two_pow, hlow, decide_true, Bool.true_and] at hbits
    rwa [hidx] at hbits
  · have hbig : ∀ z : UInt64, z.toNat.testBit k = false := fun z =>
      Nat.testBit_lt_two_pow
        (lt_of_lt_of_le z.toNat_lt (Nat.pow_le_pow_right (by omega) (by omega)))
    rw [hbig, hbig]

section collisions

variable {data data' : List UInt8}

/-- The length is read back as long as it fits into 64 bits. -/
theorem length_eq_of_lengthBytes (hlen : data.length < 2 ^ 61) (hlen' : data'.length < 2 ^ 61)
    (h : lengthBytes data = lengthBytes data') : data.length = data'.length := by
  have hword : UInt64.ofNat data.length * 8 = UInt64.ofNat data'.length * 8 := by
    apply eq_of_bytes_eq
    intro i hi
    exact List.map_inj_left.mp h i (List.mem_range.mpr hi)
  have hnat := congrArg UInt64.toNat hword
  rw [UInt64.toNat_mul, UInt64.toNat_mul, UInt64.toNat_ofNat', UInt64.toNat_ofNat'] at hnat
  have height : (8 : UInt64).toNat = 8 := rfl
  rw [height] at hnat
  omega

/-- **The padding is free of suffixes**: the blocks of a message do not end those of another. -/
theorem blocks_not_suffix (hlen : data.length < 2 ^ 61) (hlen' : data'.length < 2 ^ 61)
    (hne : data ≠ data') : ¬ blocks data <:+ blocks data' := by
  rintro ⟨front, hfront⟩
  apply hne
  have hbytes := congrArg (List.flatMap fun block : Bytes 64 => block.toList) hfront
  rw [List.flatMap_append, flatMap_blocks, flatMap_blocks] at hbytes
  -- the last eight bytes give the length
  have hsplit : (front.flatMap fun block : Bytes 64 => block.toList) ++
      (data ++ 0x80 :: List.replicate (zeroPad data) 0) ++ lengthBytes data =
        (data' ++ 0x80 :: List.replicate (zeroPad data') 0) ++ lengthBytes data' := by
    simpa using hbytes
  obtain ⟨hrest, htail⟩ := List.append_inj' hsplit (by simp)
  have hlength := length_eq_of_lengthBytes hlen hlen' htail
  have hpad : zeroPad data = zeroPad data' := by
    unfold zeroPad
    rw [hlength]
  have hnil : (front.flatMap fun block : Bytes 64 => block.toList) = [] := by
    apply List.eq_nil_of_length_eq_zero
    have hcount := congrArg List.length hrest
    simp only [List.length_append, List.length_cons, List.length_replicate] at hcount
    omega
  rw [hnil, List.nil_append] at hrest
  exact (List.append_inj hrest hlength).1

/-- Swapping the bytes twice leaves a word. -/
theorem bswap32_bswap32 (x : UInt32) : bswap32 (bswap32 x) = x := by
  apply UInt32.toBitVec_inj.mp
  apply BitVec.eq_of_getLsbD_eq
  intro i hi
  interval_cases i <;> simp [bswap32]

/-- A word of a digest is a word of the chaining value. -/
theorem load_digestOf (h : Vector UInt32 8) (i : Fin 8) (hfit : 4 * (i : ℕ) + 4 ≤ 32) :
    (digestOf h).load (4 * i) 4 hfit = storeBe32 (h.get i) :=
  Bytes.load_foldl_store (Bytes.zeros 32) (fun i : Fin 8 => storeBe32 (h.get i)) (List.finRange 8)
    (List.mem_finRange i) hfit

/-- A digest determines the chaining value it was read off. -/
theorem digestOf_injective : Function.Injective digestOf := by
  intro h h' heq
  apply Vector.ext
  intro i hi
  have hfit : 4 * (⟨i, hi⟩ : Fin 8).val + 4 ≤ 32 := by
    dsimp only
    omega
  have hword := load_digestOf h ⟨i, hi⟩ hfit
  rw [heq, load_digestOf h' ⟨i, hi⟩ hfit] at hword
  have hswap := congrArg Bytes.unpackU32 hword
  unfold storeBe32 at hswap
  rw [Bytes.unpackU32_packU32, Bytes.unpackU32_packU32] at hswap
  have hget : h.get ⟨i, hi⟩ = h'.get ⟨i, hi⟩ := by
    rw [← bswap32_bswap32 (h.get ⟨i, hi⟩), ← hswap, bswap32_bswap32]
  exact hget

/-- The compression function collides on blocks of the two messages that the same blocks follow. -/
def Collides (data data' : List UInt8) : Prop :=
  CollidesOn compress kSha256InitHash (blocks data) (blocks data')

/-- **Two messages have one digest** exactly when they are equal or the compression function
collides on blocks of theirs: for messages of any two lengths below 2^61 bytes. -/
theorem sha256_eq_iff (hlen : data.length < 2 ^ 61) (hlen' : data'.length < 2 ^ 61) :
    sha256Impl data = sha256Impl data' ↔ data = data' ∨ Collides data data' := by
  by_cases hne : data = data'
  · exact iff_of_true (congrArg sha256Impl hne) (Or.inl hne)
  rw [sha256Impl_eq, sha256Impl_eq, digestOf_injective.eq_iff, chain_eq_iff_collidesOn
    (blocks_not_suffix hlen hlen' hne) (blocks_not_suffix hlen' hlen (Ne.symm hne))]
  exact (or_iff_right hne).symm

end collisions

/-! ### Session keys -/

section keys

/-- The block of a key tells the key. -/
theorem hmacBlock_injective {pad : UInt8} {key key' : Bytes 32}
    (h : hmacBlock pad key = hmacBlock pad key') : key = key' := by
  apply Vector.ext
  intro i hi
  have hbyte := congrArg (fun block : Bytes 64 => getElem block i (by omega)) h
  simp only [hmacBlock, Vector.getElem_ofFn, hi, dite_true] at hbyte
  rw [UInt8.xor_comm pad, UInt8.xor_comm pad] at hbyte
  exact (UInt8.xor_left_inj pad).mp hbyte

/-- The inner hash reads a block and the message. -/
@[simp] theorem length_hmacInner (key : Bytes 32) (message : List UInt8) :
    (hmacInner key message).length = 64 + message.length := by
  simp [hmacInner]

/-- The outer hash reads a block and a digest. -/
@[simp] theorem length_hmacOuter (key : Bytes 32) (message : List UInt8) :
    (hmacOuter key message).length = 96 := by
  simp [hmacOuter]

/-- **Two keyed hashes agree** exactly for one key and one message, or where a hash collides. -/
theorem hmacSha256_eq_iff {key key' : Bytes 32} {message message' : List UInt8}
    (hlen : message.length < 2 ^ 60) (hlen' : message'.length < 2 ^ 60) :
    hmacSha256 key message = hmacSha256 key' message' ↔
      (key = key' ∧ (message = message' ∨
        Collides (hmacInner key message) (hmacInner key' message'))) ∨
        Collides (hmacOuter key message) (hmacOuter key' message') := by
  have houter : hmacOuter key message = hmacOuter key' message' ↔
      key = key' ∧ sha256Impl (hmacInner key message) = sha256Impl (hmacInner key' message') := by
    constructor
    · intro h
      obtain ⟨hblock, hinner⟩ := List.append_inj h (by simp)
      exact ⟨hmacBlock_injective (Vector.toList_inj.mp hblock), Vector.toList_inj.mp hinner⟩
    · rintro ⟨rfl, hinner⟩
      unfold hmacOuter
      rw [hinner]
  have hinner : hmacInner key message = hmacInner key' message' ↔
      key = key' ∧ message = message' := by
    constructor
    · intro h
      obtain ⟨hblock, hmessage⟩ := List.append_inj h (by simp)
      exact ⟨hmacBlock_injective (Vector.toList_inj.mp hblock), hmessage⟩
    · rintro ⟨rfl, rfl⟩
      rfl
  have hcount : ∀ (key : Bytes 32) (message : List UInt8), message.length < 2 ^ 60 →
      (hmacInner key message).length < 2 ^ 61 := by
    intro key message hmessage
    rw [length_hmacInner]
    omega
  unfold hmacSha256
  rw [sha256_eq_iff (by simp) (by simp), houter,
    sha256_eq_iff (hcount _ _ hlen) (hcount _ _ hlen'), hinner, and_or_left, and_or_left]
  simp only [← and_assoc, and_self]

/-- What a session key is extracted from. -/
def keyMaterial (sessionNonce : Nonce) (clientId : ClientId) : List UInt8 :=
  sessionNonce.toList ++ clientId.toList

/-- What a session key is expanded by. -/
def expansion : List UInt8 := kHkdfInfo ++ [0x01]

/-- **Two handshakes share a session key** exactly when they are for one challenge and one client,
or when the compression function collides on what one of three hashes of the derivation reads. -/
theorem sessionKey_eq_iff (nonce nonce' : Nonce) (clientId clientId' : ClientId) :
    SoftwareCryptoProvider.deriveSessionKey nonce clientId =
        SoftwareCryptoProvider.deriveSessionKey nonce' clientId' ↔
      (nonce = nonce' ∧ clientId = clientId') ∨
        Collides (hmacInner kMockMasterSalt (keyMaterial nonce clientId))
          (hmacInner kMockMasterSalt (keyMaterial nonce' clientId')) ∨
        Collides (hmacOuter kMockMasterSalt (keyMaterial nonce clientId))
          (hmacOuter kMockMasterSalt (keyMaterial nonce' clientId')) ∨
        Collides (hmacOuter (sessionPrk nonce clientId) expansion)
          (hmacOuter (sessionPrk nonce' clientId') expansion) := by
  have hshort : ∀ (nonce : Nonce) (clientId : ClientId),
      (keyMaterial nonce clientId).length < 2 ^ 60 := by
    intro nonce clientId
    simp [keyMaterial]
  have hmaterial : keyMaterial nonce clientId = keyMaterial nonce' clientId' ↔
      nonce = nonce' ∧ clientId = clientId' := by
    constructor
    · intro h
      obtain ⟨hnonce, hclient⟩ := List.append_inj h (by simp)
      exact ⟨Vector.toList_inj.mp hnonce, Vector.toList_inj.mp hclient⟩
    · rintro ⟨rfl, rfl⟩
      rfl
  have hprk : sessionPrk nonce clientId = sessionPrk nonce' clientId' ↔ _ :=
    @hmacSha256_eq_iff _ _ (keyMaterial nonce clientId) (keyMaterial nonce' clientId')
      (hshort nonce clientId) (hshort nonce' clientId')
  have hkey : SoftwareCryptoProvider.deriveSessionKey nonce clientId =
      SoftwareCryptoProvider.deriveSessionKey nonce' clientId' ↔ _ :=
    @hmacSha256_eq_iff _ _ expansion expansion (by decide) (by decide)
  rw [hkey, hprk, hmaterial]
  simp only [true_and, true_or, and_true, or_assoc]

end keys

end SotifPlausibility.Zzta
