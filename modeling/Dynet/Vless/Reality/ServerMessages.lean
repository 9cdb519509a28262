import Dynet.Vless.Reality.ClientHello
import Dynet.Vless.Reality.Messages

/-! The messages of a server, and that the client reads back what they are made of: the
suite and the key share of the ServerHello, the certificate and its signature. -/
namespace Dynet.Vless.Reality
open Dynet.Lib.Checks
open Dynet.Lib.Framing
open Cursor (Extension ok_bind)

def serverExtensions (keyShareData : Bytes) : Bytes :=
  [0x00,0x2b,0x00,0x02,0x03,0x04] ++ [0x00,0x33] ++ toBe16 (2 + 2 + keyShareData.length) ++ [0x00,0x1d] ++
    toBe16 keyShareData.length ++ keyShareData

def serverHelloPayload (serverRandom sessionId : Bytes) (cipherSuite : Nat) (keyShareData : Bytes) : Bytes :=
  let extensions := serverExtensions keyShareData
  [3,3] ++ serverRandom ++ [UInt8.ofNat sessionId.length] ++ sessionId ++ toBe16 cipherSuite ++ [0x00] ++
    toBe16 extensions.length ++ extensions

def constructServerHello (serverRandom sessionId : Bytes) (cipherSuite : Nat) (keyShareData : Bytes) : Bytes :=
  let payload := serverHelloPayload serverRandom sessionId cipherSuite keyShareData
  2::(toBe24 payload.length ++ payload)

def constructEncryptedExtensions : Bytes := [8,0x00,0x00,2] ++ toBe16 0

def constructCertificate (certDer : Bytes) : Bytes :=
  let certListLen := 3 + certDer.length + 2
  let payloadLen := 1 + 3 + certListLen
  handshakeTypeCertificate::(toBe24 payloadLen ++ [0x00] ++ toBe24 certListLen ++ toBe24 certDer.length ++ certDer ++
    [0x00,0x00])

def constructCertificateVerify (prims : Primitives) (signingKey handshakeHash : Bytes) : Bytes :=
  let signature := prims.sign signingKey (signedContent handshakeHash)
  let payload := [0x08,0x07] ++ toBe16 signature.length ++ signature
  handshakeTypeCertificateVerify::(toBe24 payload.length ++ payload)

-- The signature of the certificate is the MAC of its key under the authentication key.
def generateHmacCertificate (prims : Primitives) (authKey hostname signingKey : Bytes) : Except IoError Bytes :=
  let publicKey := prims.verifyingKey signingKey
  if publicKey.length ≠ 32 then .error (invalidData "Ed25519 public key is not 32 bytes")
  else prims.selfSigned publicKey (prims.hmac .sha512 authKey publicKey) hostname

/-! The ServerHello. -/

section ServerHello
variable {serverRandom sessionId keyShareData : Bytes} {cipherSuite : Nat} {front rest : Bytes}

theorem serverExtensions_length (sized : keyShareData.length = 32) : (serverExtensions keyShareData).length = 46 := by
  simp [serverExtensions,toBe16,sized]

theorem serverHelloPayload_length (randomSized : serverRandom.length = 32) (sized : keyShareData.length = 32) :
    (serverHelloPayload serverRandom sessionId cipherSuite keyShareData).length = sessionId.length + 86 := by
  simp only [serverHelloPayload,List.length_append,serverExtensions_length sized,randomSized,toBe16,List.length_cons,
    List.length_nil]
  omega

theorem serverExtensions_split (sized : keyShareData.length = 32) : serverExtensions keyShareData =
    toBe16 43 ++ (toBe16 2 ++ ([3,4] ++ (toBe16 51 ++ (toBe16 36 ++ ((toBe16 29 ++ (toBe16 32 ++ keyShareData)) ++ []))))) := by
  simp [serverExtensions,sized,toBe16]

theorem keyshare_length (sized : keyShareData.length = 32) : (toBe16 29 ++ (toBe16 32 ++ keyShareData)).length = 36 := by
  simp [toBe16,sized]

theorem readExtensions_written (sized : keyShareData.length = 32) (rounds : Nat) :
    BufReader.run (readExtensions (rounds + 3) false) (serverExtensions keyShareData) = .ok true := by
  refine Reads.whole ?_
  rw [serverExtensions_split sized]
  refine Reads.peek (Reads.isConsumed _ _) (Reads.passed (by simp [toBe16]) ?_)
  refine (Reads.u16 (by decide)).bind ((Reads.u16 (by decide)).bind (Reads.chosen rfl (Reads.passed (by simp) ?_)))
  refine (Reads.sliceOf rfl).bind ?_
  refine Reads.peek (Reads.isConsumed _ _) (Reads.passed (by simp [toBe16]) ?_)
  refine (Reads.u16 (by decide)).bind ((Reads.u16 (by decide)).bind (Reads.passed (by decide) ?_))
  refine (Reads.skipOf (keyshare_length sized)).bind ?_
  exact Reads.peek (Reads.isConsumed _ _) (Reads.chosen rfl (Reads.pure _ _ _))

theorem parseServerKeyshareExtension_written (sized : keyShareData.length = 32) :
    BufReader.run parseServerKeyshareExtension (toBe16 29 ++ (toBe16 32 ++ keyShareData)) = .ok keyShareData := by
  refine Reads.whole ((Reads.u16 (by decide)).bind ?_)
  rw [← List.append_nil keyShareData]
  refine (Reads.u16 (by decide)).bind (Reads.chosen rfl (Reads.passed (by simp) ?_))
  rw [List.append_nil]
  exact Reads.sliceOf sized

theorem findServerKeyshare_written (sized : keyShareData.length = 32) (rounds : Nat) :
    Reads front rest (findServerKeyshare (front.length + 46) (rounds + 2)) (serverExtensions keyShareData)
      keyShareData := by
  rw [serverExtensions_split sized]
  refine Reads.peek (Reads.position _ _) (Reads.chosen (by omega) ?_)
  refine (Reads.u16 (by decide)).bind ((Reads.u16 (by decide)).bind (Reads.passed (by decide) ?_))
  refine (Reads.skipOf rfl).bind ?_
  refine Reads.peek (Reads.position _ _) (Reads.chosen ?_ ?_)
  · simp only [List.length_append,toBe16,List.length_cons,List.length_nil]
    omega
  refine (Reads.u16 (by decide)).bind ((Reads.u16 (by decide)).bind (Reads.chosen rfl ?_))
  exact (Reads.sliceOf (keyshare_length sized)).bind (Reads.lifted (parseServerKeyshareExtension_written sized))

/-- The fields of the message, as its readers take them off. -/
theorem constructServerHello_split (serverRandom sessionId : Bytes) (cipherSuite : Nat) (keyShareData : Bytes) :
    constructServerHello serverRandom sessionId cipherSuite keyShareData =
      [2] ++ (toBe24 (serverHelloPayload serverRandom sessionId cipherSuite keyShareData).length ++
        ([3] ++ ([3] ++ (serverRandom ++ ([UInt8.ofNat sessionId.length] ++ (sessionId ++ (toBe16 cipherSuite ++
          ([0] ++ (toBe16 (serverExtensions keyShareData).length ++ (serverExtensions keyShareData ++ [])))))))))) := by
  rw [constructServerHello]
  generalize (serverHelloPayload serverRandom sessionId cipherSuite keyShareData).length = length
  simp only [serverHelloPayload,List.append_assoc,List.append_nil]
  rfl

theorem sessionId_count (few : sessionId.length ≤ 32) : sessionId.length = (UInt8.ofNat sessionId.length).toNat := by
  rw [UInt8.toNat_ofNat']
  omega

/-- What lies in front of the suite. -/
def serverHelloFront (serverRandom sessionId : Bytes) (cipherSuite : Nat) (keyShareData : Bytes) : Bytes :=
  [2] ++ (toBe24 (serverHelloPayload serverRandom sessionId cipherSuite keyShareData).length ++
    ([3,3] ++ (serverRandom ++ ([UInt8.ofNat sessionId.length] ++ sessionId))))

theorem skipServerHelloFront_written (randomSized : serverRandom.length = 32) (few : sessionId.length ≤ 32) :
    Reads front rest skipServerHelloFront (serverHelloFront serverRandom sessionId cipherSuite keyShareData) () := by
  refine (Reads.u8 _ _ _).bind ((Reads.u24 _ _ _ _ _).bind ((Reads.u16 (n := 771) (by decide)).bind ?_))
  exact (Reads.skipOf randomSized).bind ((Reads.u8 _ _ _).bind (Reads.skipOf (sessionId_count few)))

theorem constructServerHello_front (serverRandom sessionId : Bytes) (cipherSuite : Nat) (keyShareData : Bytes) :
    constructServerHello serverRandom sessionId cipherSuite keyShareData =
      serverHelloFront serverRandom sessionId cipherSuite keyShareData ++ (toBe16 cipherSuite ++
        ([0] ++ (toBe16 (serverExtensions keyShareData).length ++ serverExtensions keyShareData))) := by
  rw [constructServerHello_split,serverHelloFront]
  simp only [List.append_assoc,List.append_nil]
  rfl

def handshakeRecord (serverHello : Bytes) : Bytes := writeRecordHeader contentTypeHandshake serverHello.length ++ serverHello

theorem extractServerCipherSuite_written (randomSized : serverRandom.length = 32) (few : sessionId.length ≤ 32)
    (small : cipherSuite < 65536) : extractServerCipherSuite
      (handshakeRecord (constructServerHello serverRandom sessionId cipherSuite keyShareData)) = .ok cipherSuite := by
  rw [extractServerCipherSuite,if_neg (by simp [handshakeRecord,writeRecordHeader,toBe16])]
  change BufReader.run _ (constructServerHello serverRandom sessionId cipherSuite keyShareData) = _
  rw [constructServerHello_front,← List.append_assoc]
  exact Reads.run ((skipServerHelloFront_written randomSized few).bind (Reads.u16 small))

theorem extractServerPublicKey_written (randomSized : serverRandom.length = 32) (few : sessionId.length ≤ 32)
    (sized : keyShareData.length = 32) : extractServerPublicKey
      (handshakeRecord (constructServerHello serverRandom sessionId cipherSuite keyShareData)) = .ok keyShareData := by
  have long : 5 ≤ (handshakeRecord (constructServerHello serverRandom sessionId cipherSuite keyShareData)).length := by
    simp [handshakeRecord,writeRecordHeader,toBe16]
  rw [extractServerPublicKey,if_neg (by omega)]
  obtain ⟨rounds,more⟩ := Nat.exists_eq_add_of_le long
  rw [more]
  change BufReader.run _ (constructServerHello serverRandom sessionId cipherSuite keyShareData) = _
  refine Reads.whole ?_
  rw [constructServerHello_front]
  have short : (serverExtensions keyShareData).length < 65536 := by
    rw [serverExtensions_length sized]
    decide
  refine (skipServerHelloFront_written randomSized few).bind ?_
  refine (Reads.skipOf rfl).bind ((Reads.skipOf rfl).bind ((Reads.u16 short).bind ?_))
  rw [serverExtensions_length sized]
  refine Reads.peek (Reads.position _ _) ?_
  rw [show 5 + rounds + 1 = rounds + 4 + 2 by omega]
  exact findServerKeyshare_written sized (rounds + 4)

theorem parseServerHello_written (randomSized : serverRandom.length = 32) (fresh : serverRandom ≠ retryRequestRandomBytes)
    (few : sessionId.length ≤ 32) (small : cipherSuite < 65536) (sized : keyShareData.length = 32) : parseServerHello
      (handshakeRecord (constructServerHello serverRandom sessionId cipherSuite keyShareData)) =
        .ok ⟨cipherSuite,true⟩ := by
  have length := @serverHelloPayload_length serverRandom sessionId keyShareData cipherSuite randomSized sized
  have long : ¬(handshakeRecord (constructServerHello serverRandom sessionId cipherSuite keyShareData)).length < 47 := by
    simp only [handshakeRecord,writeRecordHeader,constructServerHello,toBe16,toBe24,List.length_append,
      List.length_cons,List.length_nil,length]
    omega
  have short : (serverExtensions keyShareData).length < 65536 := by
    rw [serverExtensions_length sized]
    decide
  unfold parseServerHello
  rw [if_neg long]
  change BufReader.run readServerHello (constructServerHello serverRandom sessionId cipherSuite keyShareData) = _
  refine Reads.whole ?_
  rw [constructServerHello_split]
  refine (Reads.u8 _ _ _).bind (Reads.passed (by decide) ((Reads.u24 _ _ _ _ _).bind ?_))
  rw [be24_toBe24 (by omega)]
  refine Reads.peek (Reads.remaining _ _) (Reads.passed ?_ ?_)
  · simp [serverHelloPayload]
  refine (Reads.u8 _ _ _).bind (Reads.passed (by decide) ((Reads.u8 _ _ _).bind (Reads.passed (by decide) ?_)))
  refine (Reads.sliceOf randomSized).bind (Reads.passed fresh ((Reads.u8 _ _ _).bind (Reads.passed ?_ ?_)))
  · rw [gt_iff_lt,UInt8.lt_iff_toNat_lt,← sessionId_count few]
    exact Nat.not_lt.mpr few
  refine (Reads.skipOf (sessionId_count few)).bind ((Reads.u16 small).bind ((Reads.skipOf rfl).bind ?_))
  refine Reads.peek (Reads.isConsumed _ _) (Reads.passed (by simp [toBe16]) ((Reads.u16 short).bind ?_))
  refine Reads.peek (Reads.remaining _ _) (Reads.passed (by simp) ((Reads.slice _ _ _).bind ?_))
  rw [serverExtensions_length sized]
  exact Reads.peek (Reads.lifted (readExtensions_written sized 44)) (Reads.pure _ _ _)

/-- A ServerHello of this crate is read back by all three of its readers: the Vision filter
finds TLS 1.3 and the suite in it, the connection the suite and the key share. -/
theorem server_hello_read (randomSized : serverRandom.length = 32) (fresh : serverRandom ≠ retryRequestRandomBytes)
    (few : sessionId.length ≤ 32) (small : cipherSuite < 65536) (sized : keyShareData.length = 32) :
    parseServerHello (handshakeRecord (constructServerHello serverRandom sessionId cipherSuite keyShareData)) =
        .ok ⟨cipherSuite,true⟩ ∧
      extractServerCipherSuite (handshakeRecord (constructServerHello serverRandom sessionId cipherSuite keyShareData)) =
        .ok cipherSuite ∧
      extractServerPublicKey (handshakeRecord (constructServerHello serverRandom sessionId cipherSuite keyShareData)) =
        .ok keyShareData :=
  ⟨parseServerHello_written randomSized fresh few small sized,extractServerCipherSuite_written randomSized few small,
    extractServerPublicKey_written randomSized few sized⟩

theorem server_hello_read_sample :
    parseServerHello (handshakeRecord (constructServerHello (List.replicate 32 9) [1,2] 0x1302 (List.replicate 32 4))) =
        .ok ⟨0x1302,true⟩ ∧
      extractServerCipherSuite (handshakeRecord (constructServerHello (List.replicate 32 9) [1,2] 0x1302
        (List.replicate 32 4))) = .ok 0x1302 ∧
      extractServerPublicKey (handshakeRecord (constructServerHello (List.replicate 32 9) [1,2] 0x1302
        (List.replicate 32 4))) = .ok (List.replicate 32 4) :=
  server_hello_read (by decide) (by decide) (by decide) (by decide) (by decide)

end ServerHello

/-! The messages behind it. -/

theorem isMessage_framed (type : UInt8) {body : Bytes} (small : body.length < 16777216) :
    IsMessage (type::(toBe24 body.length ++ body)) := by
  have counted : be24At (type::(toBe24 body.length ++ body)) 1 = body.length := be24_toBe24 small
  rw [IsMessage,messageCut_of_le]
  · rw [counted,List.length_cons,List.length_append]
    simp only [toBe24,List.length_cons,List.length_nil]
    congr 1
    omega
  · rw [counted,List.length_cons,List.length_append]
    simp only [toBe24,List.length_cons,List.length_nil]
    omega

theorem isMessage_constructFinished {verifyData : Bytes} (small : verifyData.length < 16777216) :
    IsMessage (RealityClientConnection.constructFinished verifyData) := isMessage_framed handshakeTypeFinished small

theorem constructCertificate_framed (certDer : Bytes) : ∃ body : Bytes, body.length = certDer.length + 9 ∧
    constructCertificate certDer = handshakeTypeCertificate::(toBe24 body.length ++ body) := by
  refine ⟨[0] ++ toBe24 (3 + certDer.length + 2) ++ toBe24 certDer.length ++ certDer ++ [0,0],?_,?_⟩
  · simp [toBe24]
  · have length : ([0] ++ toBe24 (3 + certDer.length + 2) ++ toBe24 certDer.length ++ certDer ++ [0,0]).length =
        1 + 3 + (3 + certDer.length + 2) := by
      simp [toBe24]
      omega
    rw [length,constructCertificate]
    simp only [List.append_assoc]

theorem extractCertificateDer_written {certDer : Bytes} (small : certDer.length < 16777216) :
    extractCertificateDer (constructCertificate certDer) = .ok certDer := by
  have split : constructCertificate certDer = [11] ++ toBe24 (1 + 3 + (3 + certDer.length + 2)) ++ [0] ++
      toBe24 (3 + certDer.length + 2) ++ toBe24 certDer.length ++ (certDer ++ [0,0]) := by
    rw [constructCertificate]
    simp only [List.append_assoc]
    rfl
  have length : (constructCertificate certDer).length = certDer.length + 13 := by
    rw [split]
    simp [toBe24]
  have context : byteAt (constructCertificate certDer) 4 = 0 := rfl
  have counted : be24At (constructCertificate certDer) 8 = certDer.length := be24_toBe24 small
  have data : (constructCertificate certDer).drop 11 = certDer ++ [0,0] := by
    rw [split]
    rfl
  rw [extractCertificateDer]
  simp only [length,context,UInt8.toNat_zero,Nat.add_zero,Nat.reduceAdd,counted,data,List.take_left]
  rw [if_neg (by omega),if_neg (by omega),if_neg (by omega),if_neg (by omega),if_neg (by omega)]
  rfl

theorem extractCertificateVerifySignature_written {prims : Primitives} (sound : prims.Sound)
    (signingKey handshakeHash : Bytes) :
    extractCertificateVerifySignature (constructCertificateVerify prims signingKey handshakeHash) =
      .ok (prims.sign signingKey (signedContent handshakeHash)) := by
  have sized := sound.signature signingKey (signedContent handshakeHash)
  rw [constructCertificateVerify]
  generalize prims.sign signingKey (signedContent handshakeHash) = signature at sized
  have split : handshakeTypeCertificateVerify::(toBe24 ([0x08,0x07] ++ toBe16 signature.length ++ signature).length ++
      ([0x08,0x07] ++ toBe16 signature.length ++ signature)) = [15,0,0,68,8,7,0,64] ++ signature := by
    simp only [toBe16,toBe24,List.length_append,sized]
    rfl
  rw [split,extractCertificateVerifySignature]
  have length : ([15,0,0,68,8,7,0,64] ++ signature).length = 72 := by
    rw [List.length_append,sized]
    rfl
  have type : byteAt ([15,0,0,68,8,7,0,64] ++ signature) 0 = 0x0f := rfl
  have algorithm : be16At ([15,0,0,68,8,7,0,64] ++ signature) 4 = 0x0807 := (by decide : be16 8 7 = 0x0807)
  have counted : be16At ([15,0,0,68,8,7,0,64] ++ signature) 6 = 64 := (by decide : be16 0 64 = 64)
  have data : (([15,0,0,68,8,7,0,64] ++ signature).drop 8).take 64 = signature := List.take_of_length_le (Nat.le_of_eq sized)
  rw [length,type,algorithm,counted,data]
  rfl

end Dynet.Vless.Reality
