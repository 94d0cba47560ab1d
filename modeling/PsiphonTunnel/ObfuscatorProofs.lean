import Mathlib.Data.List.Basic
import Mathlib.Algebra.Group.Int

/-! # The obfuscator — the seed-message handshake and the two RC4 streams

    The client stages a seed message: its 16 random seed bytes in clear, then,
    under the client-to-server stream, the magic value, the padding length and
    the padding.  The server reads the seed, derives the same two keys from it
    and the shared keyword, decrypts the fixed-length fields, checks the magic
    value before the length, reads and decrypts the padding, and takes the
    first `prng.SEED_LENGTH` padding bytes as its padding PRNG seed.

    RC4 and SHA-1 are library code, not in the sources: a stream is its key and
    its position (`Cipher`), `XORKeyStream` XORs the keystream byte of each
    position into the buffer (`xorAt`), and the keystream and the hash are
    parameters.  So are `prng.SEED_LENGTH` and `prng.Padding`, the latter under
    its contract (`PaddingContract`): between `min` and `max` bytes, a function
    of the seed.  The reader is the byte list it yields.  Errors carry their
    message; the `ContextError` prefix (function name and line) is left out.

    The headline results: the server reads exactly the client's seed message
    and ends with both streams where the client's are
    (`readSeedMessage_seedMessage`), so that every buffer a session carries
    arrives as it was sent (`session_in_sync`); and the padding range and the
    padding seed the server derives depend only on the config. -/

namespace PsiphonObfuscator

/-! ## Constants and byte encodings -/

def obfuscateSeedLength : Nat := 16
def obfuscateKeyLength : Nat := 16
def obfuscateHashIterations : Nat := 6000
def obfuscateMaxPadding : Nat := 8192
def obfuscateMagicValue : Nat := 0x0BF5CA7E
def obfuscateClientToServerIV : String := "client_to_server"
def obfuscateServerToClientIV : String := "server_to_client"

/-- `[]byte(s)`: the UTF-8 bytes of a Go string. -/
def stringBytes (s : String) : List UInt8 := s.toUTF8.data.toList

/-- `binary.Write(buffer, binary.BigEndian, uint32(v))`: the low 32 bits of `v`,
    most significant byte first. -/
def bigEndianUint32 (v : Nat) : List UInt8 :=
  [UInt8.ofNat (v / 2 ^ 24), UInt8.ofNat (v / 2 ^ 16), UInt8.ofNat (v / 2 ^ 8), UInt8.ofNat v]

/-- `binary.Read(buffer, binary.BigEndian, &v)` into an `int32`: four bytes,
    most significant first, read as a two's-complement integer. -/
def readBigEndianInt32 (b : List UInt8) : Int :=
  let u : Nat := (b.getD 0 0).toNat * 2 ^ 24 + (b.getD 1 0).toNat * 2 ^ 16 +
    (b.getD 2 0).toNat * 2 ^ 8 + (b.getD 3 0).toNat
  if u < 2 ^ 31 then u else (u : Int) - 2 ^ 32

theorem toNat_ofNat_byte (n : Nat) : (UInt8.ofNat n).toNat = n % 2 ^ 8 := rfl

@[simp] theorem length_bigEndianUint32 (v : Nat) : (bigEndianUint32 v).length = 4 := rfl

/-- **INT32 ROUND TRIP**: a value below `2^31` is read back as written. -/
theorem readBigEndianInt32_bigEndianUint32 {v : Nat} (h : v < 2 ^ 31) :
    readBigEndianInt32 (bigEndianUint32 v) = v := by
  have hv : v / 2 ^ 24 % 2 ^ 8 * 2 ^ 24 + v / 2 ^ 16 % 2 ^ 8 * 2 ^ 16 +
      v / 2 ^ 8 % 2 ^ 8 * 2 ^ 8 + v % 2 ^ 8 = v := by omega
  simp only [readBigEndianInt32, bigEndianUint32, List.getD_cons_zero, List.getD_cons_succ,
    toNat_ofNat_byte, hv, if_pos h]

/-! ## `io.ReadFull` on the bytes a reader yields -/

/-- `io.ReadFull(r, make([]byte, n))`: the first `n` bytes and the rest, `EOF`
    when nothing is left, `unexpected EOF` when some but too few bytes are. -/
def readFull (r : List UInt8) (n : Nat) : Except String (List UInt8 × List UInt8) :=
  if n ≤ r.length then .ok (r.take n, r.drop n)
  else if r = [] then .error "EOF" else .error "unexpected EOF"

theorem readFull_append {a : List UInt8} (b : List UInt8) {n : Nat} (h : a.length = n) :
    readFull (a ++ b) n = .ok (a, b) := by
  subst h
  simp [readFull]

/-- Too few bytes: `EOF` if none is left, else `unexpected EOF`. -/
theorem readFull_of_le {r : List UInt8} {n : Nat} (h : n ≤ r.length) :
    readFull r n = .ok (r.take n, r.drop n) := if_pos h

theorem readFull_of_lt {r : List UInt8} {n : Nat} (h : r.length < n) :
    readFull r n = .error (if r = [] then "EOF" else "unexpected EOF") := by
  unfold readFull
  split_ifs <;> first | omega | rfl

/-! ## RC4 streams -/

/-- An RC4 stream: its key and how many keystream bytes it has used. -/
structure Cipher where
  key : List UInt8
  position : Nat
  deriving DecidableEq, Repr

section Stream

variable (keystream : List UInt8 → Nat → UInt8)

/-- The buffer XORed with the key's keystream from position `n` on. -/
def xorAt (key : List UInt8) : Nat → List UInt8 → List UInt8
  | _, [] => []
  | n, b :: bs => (b ^^^ keystream key n) :: xorAt key (n + 1) bs

/-- `cipher.XORKeyStream(buffer, buffer)`. -/
def Cipher.xorKeyStream (c : Cipher) (buffer : List UInt8) : Cipher × List UInt8 :=
  (⟨c.key, c.position + buffer.length⟩, xorAt keystream c.key c.position buffer)

/-- `rc4.NewCipher(key)`. -/
def newCipher (key : List UInt8) : Except String Cipher :=
  if key.length < 1 ∨ 256 < key.length then
    .error ("crypto/rc4: invalid key size " ++ toString key.length)
  else .ok ⟨key, 0⟩

theorem xor_xor_cancel (a b : UInt8) : a ^^^ b ^^^ b = a := by
  apply UInt8.eq_of_toBitVec_eq
  show a.toBitVec ^^^ b.toBitVec ^^^ b.toBitVec = a.toBitVec
  rw [BitVec.xor_assoc, BitVec.xor_self, BitVec.xor_zero]

@[simp] theorem length_xorAt (key : List UInt8) :
    ∀ (n : Nat) (bs : List UInt8), (xorAt keystream key n bs).length = bs.length
  | _, [] => rfl
  | n, _ :: bs => congrArg Nat.succ (length_xorAt key (n + 1) bs)

/-- **XOR TWICE**: the same keystream from the same position undoes itself. -/
@[simp] theorem xorAt_xorAt (key : List UInt8) :
    ∀ (n : Nat) (bs : List UInt8), xorAt keystream key n (xorAt keystream key n bs) = bs
  | _, [] => rfl
  | n, b :: bs => by simp only [xorAt, xorAt_xorAt key (n + 1) bs, xor_xor_cancel]

/-- A buffer in two pieces: the second piece starts where the first ends. -/
theorem xorAt_append (key : List UInt8) :
    ∀ (n : Nat) (a b : List UInt8),
      xorAt keystream key n (a ++ b) = xorAt keystream key n a ++ xorAt keystream key (n + a.length) b
  | _, [], _ => rfl
  | n, x :: a, b => by
      simp only [List.cons_append, xorAt, List.append_eq, xorAt_append key (n + 1) a b,
        List.length_cons]
      rw [Nat.add_right_comm n 1, Nat.add_assoc]

/-- The first `m` bytes out depend only on the first `m` bytes in. -/
theorem take_xorAt (key : List UInt8) :
    ∀ (m n : Nat) (bs : List UInt8), (xorAt keystream key n bs).take m = xorAt keystream key n (bs.take m)
  | 0, _, _ => by simp [xorAt]
  | _ + 1, _, [] => rfl
  | m + 1, n, b :: bs => by simp only [xorAt, List.take_succ_cons, take_xorAt key m (n + 1) bs]

/-- **STREAM STEP**: a stream applied to what the same stream produced gives the
    buffer back and the same next state. -/
theorem xorKeyStream_xorKeyStream (c : Cipher) (buffer : List UInt8) :
    c.xorKeyStream keystream (c.xorKeyStream keystream buffer).2 =
      ((c.xorKeyStream keystream buffer).1, buffer) := by
  simp [Cipher.xorKeyStream]

/-- A stream applied to what it would produce from its own position gives the
    buffer back. -/
@[simp] theorem mk_xorKeyStream_xorAt (key : List UInt8) (n : Nat) (buffer : List UInt8) :
    (Cipher.mk key n).xorKeyStream keystream (xorAt keystream key n buffer) =
      (⟨key, n + buffer.length⟩, buffer) := by
  simp [Cipher.xorKeyStream]

end Stream

/-! ## The obfuscator -/

/-- `ObfuscatorConfig`. -/
structure ObfuscatorConfig where
  keyword : String := ""
  paddingPRNGSeed : Option (List UInt8) := none
  minPadding : Option Int := none
  maxPadding : Option Int := none
  deriving DecidableEq, Repr

/-- `Obfuscator`; the padding PRNG object itself is left out: it is the seeded
    PRNG, and no modelled function reads it. -/
structure Obfuscator where
  seedMessage : List UInt8
  paddingLength : Int
  clientToServerCipher : Cipher
  serverToClientCipher : Cipher
  paddingPRNGSeed : List UInt8
  deriving DecidableEq, Repr

/-- `prng.Padding(min, max)` on a PRNG freshly seeded with `seed` keeps its
    contract: for `0 ≤ min ≤ max`, between `min` and `max` bytes. -/
def PaddingContract (padding : List UInt8 → Int → Int → List UInt8) : Prop :=
  ∀ seed lo hi, 0 ≤ lo → lo ≤ hi → lo ≤ (padding seed lo hi).length ∧ (padding seed lo hi).length ≤ hi

/-- Zero bytes of exactly the minimum length keep the padding contract. -/
theorem paddingContract_replicate_min :
    PaddingContract fun _ lo _ => List.replicate lo.toNat (0 : UInt8) :=
  fun _ lo _ h0 hle => by simp only [List.length_replicate]; omega

section Obfuscator

variable (keystream : List UInt8 → Nat → UInt8) (sha1 : List UInt8 → List UInt8)

/-- The digest `deriveKey` computes: SHA-1 of seed, keyword and IV, then
    rehashed `OBFUSCATE_HASH_ITERATIONS` times. -/
def deriveKeyDigest (obfuscatorSeed keyword iv : List UInt8) : List UInt8 :=
  Nat.iterate sha1 obfuscateHashIterations (sha1 (obfuscatorSeed ++ keyword ++ iv))

/-- `deriveKey(obfuscatorSeed, keyword, iv)`. -/
def deriveKey (obfuscatorSeed keyword iv : List UInt8) : Except String (List UInt8) :=
  let digest := deriveKeyDigest sha1 obfuscatorSeed keyword iv
  if digest.length < obfuscateKeyLength then .error "insufficient bytes for obfuscation key"
  else .ok (digest.take obfuscateKeyLength)

/-- The key of one direction, as `deriveKey` returns it when it succeeds. -/
def obfuscationKey (obfuscatorSeed : List UInt8) (keyword iv : String) : List UInt8 :=
  (deriveKeyDigest sha1 obfuscatorSeed (stringBytes keyword) (stringBytes iv)).take
    obfuscateKeyLength

/-- `initObfuscatorCiphers(obfuscatorSeed, config)`: client-to-server and
    server-to-client streams. -/
def initObfuscatorCiphers (obfuscatorSeed : List UInt8) (config : ObfuscatorConfig) :
    Except String (Cipher × Cipher) := do
  let clientToServerKey ← deriveKey sha1 obfuscatorSeed (stringBytes config.keyword)
    (stringBytes obfuscateClientToServerIV)
  let serverToClientKey ← deriveKey sha1 obfuscatorSeed (stringBytes config.keyword)
    (stringBytes obfuscateServerToClientIV)
  let clientToServerCipher ← newCipher clientToServerKey
  let serverToClientCipher ← newCipher serverToClientKey
  return (clientToServerCipher, serverToClientCipher)

/-- The seed message after the seed, before encryption: magic value, padding
    length, padding. -/
def seedMessagePlaintext (padding : List UInt8) : List UInt8 :=
  bigEndianUint32 obfuscateMagicValue ++ bigEndianUint32 padding.length ++ padding

/-- The plaintext after the seed splits into the eight fixed-length bytes and
    the padding. -/
theorem seedMessagePlaintext_eq (p : List UInt8) :
    seedMessagePlaintext p =
      (bigEndianUint32 obfuscateMagicValue ++ bigEndianUint32 p.length) ++ p := rfl

variable (seedLength : Nat) (padding : List UInt8 → Int → Int → List UInt8)

/-- The padding range `NewClientObfuscator` uses: a configured bound counts only
    inside `[prng.SEED_LENGTH, OBFUSCATE_MAX_PADDING]`, and a maximum only when
    it is not below the minimum. -/
def paddingRange (config : ObfuscatorConfig) : Int × Int :=
  let minPadding : Int :=
    match config.minPadding with
    | some m => if m ≥ seedLength ∧ m ≤ obfuscateMaxPadding then m else seedLength
    | none => seedLength
  let maxPadding : Int :=
    match config.maxPadding with
    | some m =>
        if m ≥ seedLength ∧ m ≤ obfuscateMaxPadding ∧ m ≥ minPadding then m
        else obfuscateMaxPadding
    | none => obfuscateMaxPadding
  (minPadding, maxPadding)

omit keystream sha1 in
/-- **PADDING RANGE**: whatever bounds are configured, the range is
    `SEED_LENGTH ≤ minPadding ≤ maxPadding ≤ OBFUSCATE_MAX_PADDING`. -/
theorem paddingRange_bounds (hseedLength : seedLength ≤ obfuscateMaxPadding)
    (config : ObfuscatorConfig) :
    (seedLength : Int) ≤ (paddingRange seedLength config).1 ∧
      (paddingRange seedLength config).1 ≤ (paddingRange seedLength config).2 ∧
      (paddingRange seedLength config).2 ≤ obfuscateMaxPadding := by
  obtain ⟨_, _, _ | m, _ | m'⟩ := config <;>
    simp only [paddingRange, obfuscateMaxPadding] at * <;> (try split_ifs) <;> omega

omit keystream sha1 in
/-- The padding `NewClientObfuscator` draws: `prng.Padding(minPadding,
    maxPadding)` on a PRNG freshly seeded with the config's seed. -/
def clientPadding (config : ObfuscatorConfig) (paddingPRNGSeed : List UInt8) : List UInt8 :=
  padding paddingPRNGSeed (paddingRange seedLength config).1 (paddingRange seedLength config).2

/-- `makeSeedMessage(paddingPRNG, minPadding, maxPadding, obfuscatorSeed,
    clientToServerCipher)`: the message, the padding length, and the stream
    after encrypting everything past the seed in place. -/
def makeSeedMessage (paddingPRNGSeed : List UInt8) (minPadding maxPadding : Int)
    (obfuscatorSeed : List UInt8) (clientToServerCipher : Cipher) :
    List UInt8 × Int × Cipher :=
  let padding := padding paddingPRNGSeed minPadding maxPadding
  let buffer := obfuscatorSeed ++ bigEndianUint32 obfuscateMagicValue ++
    bigEndianUint32 padding.length ++ padding
  let (clientToServerCipher, encrypted) :=
    clientToServerCipher.xorKeyStream keystream (buffer.drop obfuscatorSeed.length)
  (buffer.take obfuscatorSeed.length ++ encrypted, padding.length, clientToServerCipher)

/-- `NewClientObfuscator(config)`; the 16 bytes of `MakeSecureRandomBytes` are
    the `obfuscatorSeed` argument. -/
def newClientObfuscator (config : ObfuscatorConfig) (obfuscatorSeed : List UInt8) :
    Except String Obfuscator :=
  match config.paddingPRNGSeed with
  | none => .error "missing padding seed"
  | some paddingPRNGSeed => do
      let (clientToServerCipher, serverToClientCipher) ←
        initObfuscatorCiphers sha1 obfuscatorSeed config
      let (minPadding, maxPadding) := paddingRange seedLength config
      let (seedMessage, paddingLength, clientToServerCipher) :=
        makeSeedMessage keystream padding paddingPRNGSeed minPadding maxPadding obfuscatorSeed
          clientToServerCipher
      return { seedMessage, paddingLength, clientToServerCipher, serverToClientCipher,
               paddingPRNGSeed }

/-- `readSeedMessage(clientReader, config)`: both streams, the padding PRNG seed,
    and what the reader has left.  `prng.NewSeed()`, for padding shorter than a
    seed, is the `newSeed` argument. -/
def readSeedMessage (clientReader : List UInt8) (config : ObfuscatorConfig)
    (newSeed : List UInt8) : Except String ((Cipher × Cipher × List UInt8) × List UInt8) := do
  let (seed, clientReader) ← readFull clientReader obfuscateSeedLength
  let (clientToServerCipher, serverToClientCipher) ← initObfuscatorCiphers sha1 seed config
  let (fixedLengthFields, clientReader) ← readFull clientReader 8
  let (clientToServerCipher, fixedLengthFields) :=
    clientToServerCipher.xorKeyStream keystream fixedLengthFields
  let magicValue := readBigEndianInt32 (fixedLengthFields.take 4)
  let paddingLength := readBigEndianInt32 (fixedLengthFields.drop 4)
  if magicValue ≠ obfuscateMagicValue then throw "invalid magic value"
  if paddingLength < 0 ∨ paddingLength > obfuscateMaxPadding then
    throw "invalid padding length"
  let (padding, clientReader) ← readFull clientReader paddingLength.toNat
  let (clientToServerCipher, padding) := clientToServerCipher.xorKeyStream keystream padding
  let paddingPRNGSeed := if padding.length ≥ seedLength then padding.take seedLength else newSeed
  return ((clientToServerCipher, serverToClientCipher, paddingPRNGSeed), clientReader)

omit padding in
/-- The magic value a server with `config` decrypts from a client's stream: the
    four bytes after the seed, under the client-to-server key of that seed. -/
def decryptedMagicValue (config : ObfuscatorConfig) (clientStream : List UInt8) : Int :=
  readBigEndianInt32 (xorAt keystream
    (obfuscationKey sha1 (clientStream.take obfuscateSeedLength) config.keyword
      obfuscateClientToServerIV) 0 ((clientStream.drop obfuscateSeedLength).take 4))

/-- `NewServerObfuscator(clientReader, config)`, with what the reader has left. -/
def newServerObfuscator (clientReader : List UInt8) (config : ObfuscatorConfig)
    (newSeed : List UInt8) : Except String (Obfuscator × List UInt8) := do
  let ((clientToServerCipher, serverToClientCipher, paddingPRNGSeed), clientReader) ←
    readSeedMessage keystream sha1 seedLength clientReader config newSeed
  return ({ seedMessage := [], paddingLength := -1, clientToServerCipher, serverToClientCipher,
            paddingPRNGSeed }, clientReader)

omit padding in
/-- **SERVER SPEC**: the server obfuscator holds what `readSeedMessage` read. -/
theorem newServerObfuscator_ok {clientReader rest : List UInt8} {config : ObfuscatorConfig}
    {newSeed : List UInt8} {clientToServerCipher serverToClientCipher : Cipher}
    {paddingPRNGSeed : List UInt8}
    (h : readSeedMessage keystream sha1 seedLength clientReader config newSeed =
      .ok ((clientToServerCipher, serverToClientCipher, paddingPRNGSeed), rest)) :
    newServerObfuscator keystream sha1 seedLength clientReader config newSeed =
      .ok ({ seedMessage := [], paddingLength := -1, clientToServerCipher, serverToClientCipher,
             paddingPRNGSeed }, rest) := by
  simp [newServerObfuscator, h, bind, Except.bind, pure, Except.pure]

/-- `SendSeedMessage()`: the staged message, dropped from the obfuscator. -/
def Obfuscator.sendSeedMessage (o : Obfuscator) : List UInt8 × Obfuscator :=
  (o.seedMessage, { o with seedMessage := [] })

/-- `GetPaddingLength()`. -/
def Obfuscator.getPaddingLength (o : Obfuscator) : Int := o.paddingLength

/-- `ObfuscateClientToServer(buffer)`. -/
def Obfuscator.obfuscateClientToServer (o : Obfuscator) (buffer : List UInt8) :
    Obfuscator × List UInt8 :=
  let (c, buffer) := o.clientToServerCipher.xorKeyStream keystream buffer
  ({ o with clientToServerCipher := c }, buffer)

/-- `ObfuscateServerToClient(buffer)`. -/
def Obfuscator.obfuscateServerToClient (o : Obfuscator) (buffer : List UInt8) :
    Obfuscator × List UInt8 :=
  let (c, buffer) := o.serverToClientCipher.xorKeyStream keystream buffer
  ({ o with serverToClientCipher := c }, buffer)

end Obfuscator

/-! ## A session over the two streams -/

/-- One buffer of an obfuscated session, with the direction it travels. -/
inductive Transfer where
  | clientToServer (buffer : List UInt8)
  | serverToClient (buffer : List UInt8)

/-- The buffer a transfer carries. -/
def Transfer.buffer : Transfer → List UInt8
  | .clientToServer buffer | .serverToClient buffer => buffer

/-- Client and server hold the same two streams. -/
def InSync (client server : Obfuscator) : Prop :=
  server.clientToServerCipher = client.clientToServerCipher ∧
    server.serverToClientCipher = client.serverToClientCipher

section Session

variable (keystream : List UInt8 → Nat → UInt8)

/-- The sender obfuscates the buffer and the receiver applies its own stream
    to what arrives: both obfuscators after it, and the buffer received. -/
def transfer (client server : Obfuscator) : Transfer → Obfuscator × Obfuscator × List UInt8
  | .clientToServer buffer =>
      let (client, wire) := client.obfuscateClientToServer keystream buffer
      let (server, received) := server.obfuscateClientToServer keystream wire
      (client, server, received)
  | .serverToClient buffer =>
      let (server, wire) := server.obfuscateServerToClient keystream buffer
      let (client, received) := client.obfuscateServerToClient keystream wire
      (client, server, received)

/-- The buffers a session of transfers delivers, in order. -/
def session (client server : Obfuscator) : List Transfer → List (List UInt8)
  | [] => []
  | t :: ts =>
      let r := transfer keystream client server t
      r.2.2 :: session r.1 r.2.1 ts

/-- **SESSION STEP**: in sync, a transfer delivers its buffer and leaves the two
    sides in sync. -/
theorem transfer_in_sync {client server : Obfuscator} (h : InSync client server) (t : Transfer) :
    InSync (transfer keystream client server t).1 (transfer keystream client server t).2.1 ∧
      (transfer keystream client server t).2.2 = t.buffer := by
  obtain ⟨h₁, h₂⟩ := h
  cases t <;>
    simp [transfer, Obfuscator.obfuscateClientToServer, Obfuscator.obfuscateServerToClient,
      InSync, Transfer.buffer, h₁, h₂, xorKeyStream_xorKeyStream]

/-- **SESSION RUN**: from sides in sync, every transfer of a session, in either
    direction, arrives as it was sent. -/
theorem session_in_sync :
    ∀ {client server : Obfuscator} (ts : List Transfer), InSync client server →
      session keystream client server ts = ts.map Transfer.buffer
  | _, _, [], _ => rfl
  | _, _, t :: ts, h => by
      obtain ⟨hs, hb⟩ := transfer_in_sync keystream h t
      rw [session, List.map_cons, hb, session_in_sync ts hs]

end Session

/-! ## Key derivation and the client's seed message -/

section Handshake

variable (keystream : List UInt8 → Nat → UInt8) {sha1 : List UInt8 → List UInt8}
  (hsha1 : ∀ m, obfuscateKeyLength ≤ (sha1 m).length)
include hsha1

/-- The last hash of the loop is a SHA-1 output, long enough for a key. -/
theorem length_deriveKeyDigest (obfuscatorSeed keyword iv : List UInt8) :
    obfuscateKeyLength ≤ (deriveKeyDigest sha1 obfuscatorSeed keyword iv).length := by
  rw [deriveKeyDigest, ← Function.iterate_succ_apply, Function.iterate_succ_apply']
  exact hsha1 _

theorem deriveKey_ok (obfuscatorSeed keyword iv : List UInt8) :
    deriveKey sha1 obfuscatorSeed keyword iv =
      .ok ((deriveKeyDigest sha1 obfuscatorSeed keyword iv).take obfuscateKeyLength) := by
  simp [deriveKey, not_lt.mpr (length_deriveKeyDigest hsha1 obfuscatorSeed keyword iv)]

theorem newCipher_obfuscationKey (obfuscatorSeed : List UInt8) (keyword iv : String) :
    newCipher (obfuscationKey sha1 obfuscatorSeed keyword iv) =
      .ok ⟨obfuscationKey sha1 obfuscatorSeed keyword iv, 0⟩ := by
  have h := length_deriveKeyDigest hsha1 obfuscatorSeed (stringBytes keyword) (stringBytes iv)
  have hk : (obfuscationKey sha1 obfuscatorSeed keyword iv).length = obfuscateKeyLength := by
    simp [obfuscationKey, h]
  simp [newCipher, hk, obfuscateKeyLength]

/-- **KEYS**: both streams start at position 0 under the keys derived from the
    seed and the keyword alone. -/
theorem initObfuscatorCiphers_ok (obfuscatorSeed : List UInt8) (config : ObfuscatorConfig) :
    initObfuscatorCiphers sha1 obfuscatorSeed config =
      .ok (⟨obfuscationKey sha1 obfuscatorSeed config.keyword obfuscateClientToServerIV, 0⟩,
        ⟨obfuscationKey sha1 obfuscatorSeed config.keyword obfuscateServerToClientIV, 0⟩) := by
  simp only [initObfuscatorCiphers, deriveKey_ok hsha1]
  rw [← obfuscationKey, ← obfuscationKey]
  simp only [bind, Except.bind, newCipher_obfuscationKey hsha1]
  rfl

variable (seedLength : Nat) (padding : List UInt8 → Int → Int → List UInt8)

/-- **CLIENT SPEC**: with a padding seed, `NewClientObfuscator` stages the seed
    followed by the encrypted magic value, padding length and padding, and
    leaves its client-to-server stream past them. -/
theorem newClientObfuscator_ok {config : ObfuscatorConfig} {paddingPRNGSeed : List UInt8}
    (hseed : config.paddingPRNGSeed = some paddingPRNGSeed) (obfuscatorSeed : List UInt8) :
    let p := clientPadding seedLength padding config paddingPRNGSeed
    let k := obfuscationKey sha1 obfuscatorSeed config.keyword obfuscateClientToServerIV
    newClientObfuscator keystream sha1 seedLength padding config obfuscatorSeed =
      .ok { seedMessage := obfuscatorSeed ++ xorAt keystream k 0 (seedMessagePlaintext p),
            paddingLength := p.length,
            clientToServerCipher := ⟨k, 8 + p.length⟩,
            serverToClientCipher :=
              ⟨obfuscationKey sha1 obfuscatorSeed config.keyword obfuscateServerToClientIV, 0⟩,
            paddingPRNGSeed } := by
  intro p k
  have hbuf : ∀ q : List UInt8, obfuscatorSeed ++ bigEndianUint32 obfuscateMagicValue ++
      bigEndianUint32 q.length ++ q = obfuscatorSeed ++ seedMessagePlaintext q := fun q => by
    simp [seedMessagePlaintext]
  simp only [newClientObfuscator, hseed, initObfuscatorCiphers_ok hsha1, bind, Except.bind,
    makeSeedMessage, Cipher.xorKeyStream]
  rw [hbuf, List.take_left, List.drop_left]
  simp [seedMessagePlaintext, p, k, clientPadding, pure, Except.pure, ← Nat.add_assoc]

/-- **SERVER READS THE SEED MESSAGE**: on a reader yielding a seed message
    followed by anything, `readSeedMessage` consumes exactly the message, checks
    pass, and its streams end where the client's are: client-to-server past the
    eight fixed bytes and the padding, server-to-client at 0. -/
theorem readSeedMessage_seedMessage (config : ObfuscatorConfig) {obfuscatorSeed : List UInt8}
    (hlen : obfuscatorSeed.length = obfuscateSeedLength) {p : List UInt8}
    (hp : p.length ≤ obfuscateMaxPadding) (rest newSeed : List UInt8) :
    let k := obfuscationKey sha1 obfuscatorSeed config.keyword obfuscateClientToServerIV
    readSeedMessage keystream sha1 seedLength
        (obfuscatorSeed ++ xorAt keystream k 0 (seedMessagePlaintext p) ++ rest) config newSeed =
      .ok ((⟨k, 8 + p.length⟩,
          ⟨obfuscationKey sha1 obfuscatorSeed config.keyword obfuscateServerToClientIV, 0⟩,
          if p.length ≥ seedLength then p.take seedLength else newSeed), rest) := by
  dsimp only
  have hmax : ¬((p.length : Int) < 0 ∨ (p.length : Int) > obfuscateMaxPadding) := by omega
  have h8 : (bigEndianUint32 obfuscateMagicValue ++ bigEndianUint32 p.length).length = 8 := rfl
  have hmagic : readBigEndianInt32
      ((bigEndianUint32 obfuscateMagicValue ++ bigEndianUint32 p.length).take 4) =
        obfuscateMagicValue := by
    rw [List.take_left' (length_bigEndianUint32 _)]
    exact readBigEndianInt32_bigEndianUint32 (by decide)
  have hplen : readBigEndianInt32
      ((bigEndianUint32 obfuscateMagicValue ++ bigEndianUint32 p.length).drop 4) = p.length := by
    rw [List.drop_left' (length_bigEndianUint32 _)]
    exact readBigEndianInt32_bigEndianUint32 (by unfold obfuscateMaxPadding at hp; omega)
  rw [seedMessagePlaintext_eq, xorAt_append, List.append_assoc, List.append_assoc]
  -- the header is kept abstract: only its length and the two values read from it matter
  generalize bigEndianUint32 obfuscateMagicValue ++ bigEndianUint32 p.length = hdr at h8 hmagic hplen
  simp only [readSeedMessage, readFull_append _ hlen, initObfuscatorCiphers_ok hsha1, bind,
    Except.bind, readFull_append _ ((length_xorAt ..).trans h8), mk_xorKeyStream_xorAt, hmagic,
    hplen, ne_eq, not_true_eq_false, if_false, pure, Except.pure, hmax, h8, Nat.zero_add,
    Int.toNat_ofNat, readFull_append rest (length_xorAt ..)]

/-- **MAGIC FIRST**: on a stream of at least 24 bytes whose decrypted magic value
    is wrong, `readSeedMessage` fails with "invalid magic value", whatever the
    padding length field and the bytes after it. -/
theorem readSeedMessage_of_decryptedMagicValue_ne (config : ObfuscatorConfig)
    {r : List UInt8} (hr : 24 ≤ r.length)
    (hmagic : decryptedMagicValue keystream sha1 config r ≠ obfuscateMagicValue)
    (newSeed : List UInt8) :
    readSeedMessage keystream sha1 seedLength r config newSeed = .error "invalid magic value" := by
  have h16 : obfuscateSeedLength ≤ r.length := by unfold obfuscateSeedLength; omega
  have h8 : 8 ≤ (r.drop obfuscateSeedLength).length := by
    rw [List.length_drop]; unfold obfuscateSeedLength; omega
  simp only [decryptedMagicValue] at hmagic
  simp only [readSeedMessage, readFull_of_le h16, readFull_of_le h8, initObfuscatorCiphers_ok hsha1,
    bind, Except.bind]
  have hfix : ∀ k, ((⟨k, 0⟩ : Cipher).xorKeyStream keystream
      ((r.drop obfuscateSeedLength).take 8)).2.take 4 =
        xorAt keystream k 0 ((r.drop obfuscateSeedLength).take 4) := fun k => by
    simp only [Cipher.xorKeyStream, take_xorAt, List.take_take]
    rfl
  rw [hfix, if_pos hmagic]

/-- Fewer than 24 bytes end in an end-of-stream error: the seed and the fixed
    fields are read in full before anything is checked. -/
theorem readSeedMessage_of_length_lt (config : ObfuscatorConfig) {r : List UInt8}
    (hr : r.length < 24) (newSeed : List UInt8) :
    readSeedMessage keystream sha1 seedLength r config newSeed = .error "EOF" ∨
      readSeedMessage keystream sha1 seedLength r config newSeed = .error "unexpected EOF" := by
  suffices ∃ s : List UInt8, readSeedMessage keystream sha1 seedLength r config newSeed =
      .error (if s = [] then "EOF" else "unexpected EOF") by
    obtain ⟨s, h⟩ := this
    rw [h]; split <;> simp
  by_cases h16 : obfuscateSeedLength ≤ r.length
  · have h8 : (r.drop obfuscateSeedLength).length < 8 := by
      rw [List.length_drop]; unfold obfuscateSeedLength at *; omega
    refine ⟨r.drop obfuscateSeedLength, ?_⟩
    simp only [readSeedMessage, readFull_of_le h16, initObfuscatorCiphers_ok hsha1, bind,
      Except.bind, readFull_of_lt h8]
  · exact ⟨r, by simp only [readSeedMessage, readFull_of_lt (not_le.mp h16), bind, Except.bind]⟩

/-- Two client streams of at least 24 bytes that agree on the seed and the
    encrypted magic field, and whose decrypted magic value is wrong, get the
    same "invalid magic value" from servers with the same keyword, and so does
    each stream cut to its first 24 bytes, while a shorter cut ends before any
    check: the server reads exactly 24 bytes, and the padding length field and
    what follows it are never observable. -/
theorem readSeedMessage_rejects_bad_magic_before_length {config config' : ObfuscatorConfig}
    (hkeyword : config.keyword = config'.keyword) {r₁ r₂ : List UInt8} (h₁ : 24 ≤ r₁.length)
    (h₂ : 24 ≤ r₂.length) (hagree : r₁.take 20 = r₂.take 20)
    (hmagic : decryptedMagicValue keystream sha1 config r₁ ≠ obfuscateMagicValue)
    (newSeed₁ newSeed₂ : List UInt8) :
    readSeedMessage keystream sha1 seedLength r₁ config newSeed₁ = .error "invalid magic value" ∧
      readSeedMessage keystream sha1 seedLength r₂ config' newSeed₂ =
        .error "invalid magic value" ∧
      readSeedMessage keystream sha1 seedLength (r₁.take 24) config newSeed₁ =
        .error "invalid magic value" ∧
      readSeedMessage keystream sha1 seedLength (r₂.take 24) config' newSeed₂ =
        .error "invalid magic value" ∧
      ∀ m < 24,
        readSeedMessage keystream sha1 seedLength (r₁.take m) config newSeed₁ ≠
          .error "invalid magic value" ∧
        readSeedMessage keystream sha1 seedLength (r₂.take m) config' newSeed₂ ≠
          .error "invalid magic value" := by
  -- the decrypted magic value reads only the first 20 bytes and the keyword
  have hfirst20 : ∀ {r r' : List UInt8} {c c' : ObfuscatorConfig}, c.keyword = c'.keyword →
      r.take 20 = r'.take 20 →
      decryptedMagicValue keystream sha1 c r = decryptedMagicValue keystream sha1 c' r' := by
    intro r r' c c' hk h
    have ht : ∀ l : List UInt8, l.take obfuscateSeedLength = (l.take 20).take 16 := fun l => by
      rw [List.take_take]; rfl
    have hd : ∀ l : List UInt8, (l.drop obfuscateSeedLength).take 4 = (l.take 20).drop 16 :=
      fun l => by rw [List.drop_take]; rfl
    have h16 : r.take obfuscateSeedLength = r'.take obfuscateSeedLength := by rw [ht, h, ← ht]
    have h4 : (r.drop obfuscateSeedLength).take 4 = (r'.drop obfuscateSeedLength).take 4 := by
      rw [hd, h, ← hd]
    simp only [decryptedMagicValue, hk, h16, h4]
  have hne : ∀ m < 24, ∀ (r : List UInt8) (c : ObfuscatorConfig) (s : List UInt8),
      readSeedMessage keystream sha1 seedLength (r.take m) c s ≠ .error "invalid magic value" :=
    fun m hm r c s => by
      rcases readSeedMessage_of_length_lt keystream hsha1 seedLength c
        (lt_of_le_of_lt (List.length_take_le m r) hm) s with h | h <;> rw [h] <;> simp
  have hmagic₂ := (hfirst20 hkeyword.symm hagree.symm).trans_ne hmagic
  have htake : ∀ r : List UInt8, (r.take 24).take 20 = r.take 20 := fun r => by
    rw [List.take_take]; rfl
  refine ⟨readSeedMessage_of_decryptedMagicValue_ne keystream hsha1 seedLength config h₁ hmagic _,
    readSeedMessage_of_decryptedMagicValue_ne keystream hsha1 seedLength config' h₂ hmagic₂ _,
    readSeedMessage_of_decryptedMagicValue_ne keystream hsha1 seedLength config
      (by rw [List.length_take]; omega) ((hfirst20 rfl (htake r₁)).trans_ne hmagic) _,
    readSeedMessage_of_decryptedMagicValue_ne keystream hsha1 seedLength config'
      (by rw [List.length_take]; omega) ((hfirst20 rfl (htake r₂)).trans_ne hmagic₂) _,
    fun m hm => ⟨hne m hm r₁ config newSeed₁, hne m hm r₂ config' newSeed₂⟩⟩

omit hsha1 in
theorem readSeedMessage_rejects_bad_magic_before_length_on_zero_streams :
    let sha1 : List UInt8 → List UInt8 := fun _ => List.replicate 20 0
    let config : ObfuscatorConfig := { keyword := "keyword" }
    (∀ m, obfuscateKeyLength ≤ (sha1 m).length) ∧ config.keyword = config.keyword ∧
      24 ≤ (List.replicate 24 (0 : UInt8)).length ∧
      24 ≤ (List.replicate 20 (0 : UInt8) ++ List.replicate 9 7).length ∧
      (List.replicate 24 (0 : UInt8)).take 20 = (List.replicate 20 (0 : UInt8) ++ List.replicate 9 7).take 20 ∧
      decryptedMagicValue (fun _ _ => 0) sha1 config (List.replicate 24 0) ≠ obfuscateMagicValue ∧
      readSeedMessage (fun _ _ => 0) sha1 32 (List.replicate 24 0) config [] =
        .error "invalid magic value" ∧
      readSeedMessage (fun _ _ => 0) sha1 32 (List.replicate 20 (0 : UInt8) ++ List.replicate 9 7) config [] =
        .error "invalid magic value" ∧
      readSeedMessage (fun _ _ => 0) sha1 32 ((List.replicate 24 0).take 24) config [] =
        .error "invalid magic value" ∧
      readSeedMessage (fun _ _ => 0) sha1 32
          ((List.replicate 20 (0 : UInt8) ++ List.replicate 9 7).take 24) config [] =
        .error "invalid magic value" ∧
      ∀ m < 24,
        readSeedMessage (fun _ _ => 0) sha1 32 ((List.replicate 24 0).take m) config [] ≠
          .error "invalid magic value" ∧
        readSeedMessage (fun _ _ => 0) sha1 32
            ((List.replicate 20 (0 : UInt8) ++ List.replicate 9 7).take m) config [] ≠
          .error "invalid magic value" :=
  have hsha1 : ∀ m : List UInt8, obfuscateKeyLength ≤ (List.replicate 20 (0 : UInt8)).length :=
    fun _ => by decide
  have hmagic : decryptedMagicValue (fun _ _ => 0) (fun _ => List.replicate 20 0)
      { keyword := "keyword" } (List.replicate 24 0) ≠ obfuscateMagicValue := by
    decide
  ⟨hsha1, rfl, by decide, by decide, by decide, hmagic,
    readSeedMessage_rejects_bad_magic_before_length (fun _ _ => 0) hsha1 32 rfl (by decide)
      (by decide) (by decide) hmagic [] []⟩

/-- **HANDSHAKE**: a client with a padding seed stages a message that a server
    with the same keyword reads exactly, ending in sync with the client and with
    the first `SEED_LENGTH` padding bytes as its padding seed. -/
theorem client_server_handshake (hseedLength : seedLength ≤ obfuscateMaxPadding)
    (hpadding : PaddingContract padding) {config : ObfuscatorConfig}
    {paddingPRNGSeed : List UInt8} (hseed : config.paddingPRNGSeed = some paddingPRNGSeed)
    {obfuscatorSeed : List UInt8} (hlen : obfuscatorSeed.length = obfuscateSeedLength) :
    ∃ client, newClientObfuscator keystream sha1 seedLength padding config obfuscatorSeed =
        .ok client ∧
      client.seedMessage = obfuscatorSeed ++ xorAt keystream client.clientToServerCipher.key 0
        (seedMessagePlaintext (clientPadding seedLength padding config paddingPRNGSeed)) ∧
      client.paddingLength = (clientPadding seedLength padding config paddingPRNGSeed).length ∧
      client.clientToServerCipher.position =
        8 + (clientPadding seedLength padding config paddingPRNGSeed).length ∧
      client.serverToClientCipher.position = 0 ∧
      seedLength ≤ (clientPadding seedLength padding config paddingPRNGSeed).length ∧
      ∀ (serverConfig : ObfuscatorConfig) (rest newSeed : List UInt8),
        serverConfig.keyword = config.keyword →
        ∃ server, newServerObfuscator keystream sha1 seedLength (client.seedMessage ++ rest)
            serverConfig newSeed = .ok (server, rest) ∧
          InSync client server ∧ server.paddingPRNGSeed =
            (clientPadding seedLength padding config paddingPRNGSeed).take seedLength := by
  obtain ⟨hlo, hle, hhi⟩ := paddingRange_bounds seedLength hseedLength config
  obtain ⟨hpl, hph⟩ :
      (paddingRange seedLength config).1 ≤
          (clientPadding seedLength padding config paddingPRNGSeed).length ∧
        ((clientPadding seedLength padding config paddingPRNGSeed).length : Int) ≤
          (paddingRange seedLength config).2 :=
    hpadding paddingPRNGSeed _ _ (by omega) hle
  have hpmin : seedLength ≤ (clientPadding seedLength padding config paddingPRNGSeed).length := by
    omega
  have hpmax :
      (clientPadding seedLength padding config paddingPRNGSeed).length ≤ obfuscateMaxPadding := by
    omega
  have hc := newClientObfuscator_ok keystream hsha1 seedLength padding hseed obfuscatorSeed
  dsimp only at hc
  refine ⟨_, hc, ?_, rfl, rfl, rfl, hpmin, fun serverConfig rest newSeed hkw => ?_⟩
  · dsimp only
  have hread := readSeedMessage_seedMessage keystream hsha1 seedLength serverConfig hlen
    hpmax rest newSeed
  rw [hkw] at hread
  exact ⟨_, newServerObfuscator_ok keystream sha1 seedLength hread, ⟨rfl, rfl⟩, if_pos hpmin⟩

/-- The seed message a client sends is read by a server with the same keyword,
    which consumes exactly its `16 + 8 + L` bytes and ends with the client's two
    streams, at positions `8 + L` and `0`; every buffer of the session that
    follows arrives as it was sent, in both directions. -/
theorem seedMessage_handshake_in_sync (hseedLength : seedLength ≤ obfuscateMaxPadding)
    (hpadding : PaddingContract padding) (config : ObfuscatorConfig)
    {paddingPRNGSeed : List UInt8} (hseed : config.paddingPRNGSeed = some paddingPRNGSeed)
    {obfuscatorSeed : List UInt8} (hlen : obfuscatorSeed.length = obfuscateSeedLength) :
    ∃ client, newClientObfuscator keystream sha1 seedLength padding config obfuscatorSeed =
        .ok client ∧
      client.sendSeedMessage.1.length = obfuscateSeedLength + 8 + client.getPaddingLength.toNat ∧
      client.clientToServerCipher.position = 8 + client.getPaddingLength.toNat ∧
      client.serverToClientCipher.position = 0 ∧
      ∀ (serverConfig : ObfuscatorConfig) (rest newSeed : List UInt8),
        serverConfig.keyword = config.keyword →
        ∃ server, newServerObfuscator keystream sha1 seedLength
            (client.sendSeedMessage.1 ++ rest) serverConfig newSeed = .ok (server, rest) ∧
          InSync client.sendSeedMessage.2 server ∧
          ∀ ts, session keystream client.sendSeedMessage.2 server ts = ts.map Transfer.buffer := by
  obtain ⟨client, hc, hmsg, hplen, hpos, hpos', -, hserver⟩ :=
    client_server_handshake keystream hsha1 seedLength padding hseedLength hpadding hseed hlen
  refine ⟨client, hc, ?_, ?_, hpos', fun serverConfig rest newSeed hkw => ?_⟩
  · simp [Obfuscator.sendSeedMessage, Obfuscator.getPaddingLength, hmsg, hplen, hlen,
      seedMessagePlaintext]
    omega
  · simp [Obfuscator.getPaddingLength, hplen, hpos]
  · obtain ⟨server, hs, hsync, -⟩ := hserver serverConfig rest newSeed hkw
    exact ⟨server, hs, hsync, fun ts => session_in_sync keystream ts hsync⟩

omit hsha1 in
theorem seedMessage_handshake_in_sync_for_constant_hash :
    let sha1 : List UInt8 → List UInt8 := fun _ => List.replicate 20 0
    let padding : List UInt8 → Int → Int → List UInt8 := fun _ lo _ => List.replicate lo.toNat 0
    let config : ObfuscatorConfig := { keyword := "keyword", paddingPRNGSeed := some [] }
    (∀ m, obfuscateKeyLength ≤ (sha1 m).length) ∧ 32 ≤ obfuscateMaxPadding ∧
      PaddingContract padding ∧ config.paddingPRNGSeed = some [] ∧
      (List.replicate 16 (0 : UInt8)).length = obfuscateSeedLength ∧
      ∃ client, newClientObfuscator (fun _ _ => 0) sha1 32 padding config
          (List.replicate 16 0) = .ok client ∧
        client.sendSeedMessage.1.length = obfuscateSeedLength + 8 + client.getPaddingLength.toNat ∧
        client.clientToServerCipher.position = 8 + client.getPaddingLength.toNat ∧
        client.serverToClientCipher.position = 0 ∧
        ∀ (serverConfig : ObfuscatorConfig) (rest newSeed : List UInt8),
          serverConfig.keyword = config.keyword →
          ∃ server, newServerObfuscator (fun _ _ => 0) sha1 32
              (client.sendSeedMessage.1 ++ rest) serverConfig newSeed = .ok (server, rest) ∧
            InSync client.sendSeedMessage.2 server ∧
            ∀ ts, session (fun _ _ => 0) client.sendSeedMessage.2 server ts =
              ts.map Transfer.buffer :=
  have hsha1 : ∀ m : List UInt8, obfuscateKeyLength ≤ (List.replicate 20 (0 : UInt8)).length :=
    fun _ => by decide
  ⟨hsha1, by decide, paddingContract_replicate_min, rfl, rfl,
    seedMessage_handshake_in_sync (fun _ _ => 0) hsha1 32 _ (by decide) paddingContract_replicate_min
      { keyword := "keyword", paddingPRNGSeed := some [] } rfl rfl⟩

/-- Two clients with the same config, whatever their random seeds: the padding
    range is `SEED_LENGTH ≤ min ≤ max ≤ OBFUSCATE_MAX_PADDING`, both seed
    messages carry the same plaintext padding, and a server with the same
    keyword reading either derives the same padding seed, the first
    `SEED_LENGTH` bytes of that padding, never a fresh one. -/
theorem clientObfuscators_share_padding_seed (hseedLength : seedLength ≤ obfuscateMaxPadding)
    (hpadding : PaddingContract padding) (config : ObfuscatorConfig)
    {paddingPRNGSeed : List UInt8} (hseed : config.paddingPRNGSeed = some paddingPRNGSeed)
    {seed₁ seed₂ : List UInt8} (hlen₁ : seed₁.length = obfuscateSeedLength)
    (hlen₂ : seed₂.length = obfuscateSeedLength) :
    ((seedLength : Int) ≤ (paddingRange seedLength config).1 ∧
      (paddingRange seedLength config).1 ≤ (paddingRange seedLength config).2 ∧
      (paddingRange seedLength config).2 ≤ obfuscateMaxPadding) ∧
    ∃ (plaintextPadding : List UInt8) (o₁ o₂ : Obfuscator),
      newClientObfuscator keystream sha1 seedLength padding config seed₁ = .ok o₁ ∧
      newClientObfuscator keystream sha1 seedLength padding config seed₂ = .ok o₂ ∧
      xorAt keystream o₁.clientToServerCipher.key 0 (o₁.seedMessage.drop obfuscateSeedLength) =
        seedMessagePlaintext plaintextPadding ∧
      xorAt keystream o₂.clientToServerCipher.key 0 (o₂.seedMessage.drop obfuscateSeedLength) =
        seedMessagePlaintext plaintextPadding ∧
      seedLength ≤ plaintextPadding.length ∧
      ∀ (serverConfig : ObfuscatorConfig) (rest newSeed : List UInt8),
        serverConfig.keyword = config.keyword →
        (∃ s₁, newServerObfuscator keystream sha1 seedLength (o₁.seedMessage ++ rest) serverConfig
            newSeed = .ok (s₁, rest) ∧ s₁.paddingPRNGSeed = plaintextPadding.take seedLength) ∧
        (∃ s₂, newServerObfuscator keystream sha1 seedLength (o₂.seedMessage ++ rest) serverConfig
            newSeed = .ok (s₂, rest) ∧ s₂.paddingPRNGSeed = plaintextPadding.take seedLength) := by
  obtain ⟨o₁, h₁, hmsg₁, -, -, -, hmin, hs₁⟩ :=
    client_server_handshake keystream hsha1 seedLength padding hseedLength hpadding hseed hlen₁
  obtain ⟨o₂, h₂, hmsg₂, -, -, -, -, hs₂⟩ :=
    client_server_handshake keystream hsha1 seedLength padding hseedLength hpadding hseed hlen₂
  refine ⟨paddingRange_bounds seedLength hseedLength config, _, o₁, o₂, h₁, h₂, ?_, ?_, hmin,
    fun serverConfig rest newSeed hkw => ?_⟩
  · rw [hmsg₁, List.drop_left' hlen₁, xorAt_xorAt]
  · rw [hmsg₂, List.drop_left' hlen₂, xorAt_xorAt]
  · obtain ⟨s₁, hr₁, -, hp₁⟩ := hs₁ serverConfig rest newSeed hkw
    obtain ⟨s₂, hr₂, -, hp₂⟩ := hs₂ serverConfig rest newSeed hkw
    exact ⟨⟨s₁, hr₁, hp₁⟩, ⟨s₂, hr₂, hp₂⟩⟩

omit hsha1 in
theorem clientObfuscators_share_padding_seed_for_crossed_bounds :
    let sha1 : List UInt8 → List UInt8 := fun _ => List.replicate 20 0
    let padding : List UInt8 → Int → Int → List UInt8 := fun _ lo _ => List.replicate lo.toNat 0
    let config : ObfuscatorConfig :=
      { keyword := "keyword", paddingPRNGSeed := some [], minPadding := some 40,
        maxPadding := some 20 }
    (∀ m, obfuscateKeyLength ≤ (sha1 m).length) ∧ 32 ≤ obfuscateMaxPadding ∧
      PaddingContract padding ∧ config.paddingPRNGSeed = some [] ∧
      (List.replicate 16 (0 : UInt8)).length = obfuscateSeedLength ∧
      (List.replicate 16 (1 : UInt8)).length = obfuscateSeedLength ∧
      (((32 : Nat) : Int) ≤ (paddingRange 32 config).1 ∧
        (paddingRange 32 config).1 ≤ (paddingRange 32 config).2 ∧
        (paddingRange 32 config).2 ≤ obfuscateMaxPadding) ∧
      ∃ (plaintextPadding : List UInt8) (o₁ o₂ : Obfuscator),
        newClientObfuscator (fun _ _ => 0) sha1 32 padding config (List.replicate 16 0) =
          .ok o₁ ∧
        newClientObfuscator (fun _ _ => 0) sha1 32 padding config (List.replicate 16 1) =
          .ok o₂ ∧
        xorAt (fun _ _ => 0) o₁.clientToServerCipher.key 0
            (o₁.seedMessage.drop obfuscateSeedLength) = seedMessagePlaintext plaintextPadding ∧
        xorAt (fun _ _ => 0) o₂.clientToServerCipher.key 0
            (o₂.seedMessage.drop obfuscateSeedLength) = seedMessagePlaintext plaintextPadding ∧
        32 ≤ plaintextPadding.length ∧
        ∀ (serverConfig : ObfuscatorConfig) (rest newSeed : List UInt8),
          serverConfig.keyword = config.keyword →
          (∃ s₁, newServerObfuscator (fun _ _ => 0) sha1 32 (o₁.seedMessage ++ rest) serverConfig
              newSeed = .ok (s₁, rest) ∧ s₁.paddingPRNGSeed = plaintextPadding.take 32) ∧
          (∃ s₂, newServerObfuscator (fun _ _ => 0) sha1 32 (o₂.seedMessage ++ rest) serverConfig
              newSeed = .ok (s₂, rest) ∧ s₂.paddingPRNGSeed = plaintextPadding.take 32) :=
  have hsha1 : ∀ m : List UInt8, obfuscateKeyLength ≤ (List.replicate 20 (0 : UInt8)).length :=
    fun _ => by decide
  ⟨hsha1, by decide, paddingContract_replicate_min, rfl, rfl, rfl,
    clientObfuscators_share_padding_seed (fun _ _ => 0) hsha1 32 _ (by decide)
      paddingContract_replicate_min
      { keyword := "keyword", paddingPRNGSeed := some [], minPadding := some 40,
        maxPadding := some 20 } rfl rfl rfl⟩

end Handshake

end PsiphonObfuscator
