import Dynet.Vless.BufReader

/-! What the Vision filter makes of inner TLS records: it looks at the first few records
of both directions, notes the TLS version, and stops. -/
namespace Dynet.Vless
open BufReader

structure ParsedServerHello where
  cipherSuite : Nat
  isTls13 : Bool
  deriving DecidableEq, Repr

def retryRequestRandomBytes : Bytes :=
  [0xcf,0x21,0xad,0x74,0xe5,0x9a,0x61,0x11,0xbe,0x1d,0x8c,0x02,0x1e,0x65,0xb8,0x91,
    0xc2,0xa2,0x11,0x16,0x7a,0xbb,0x8c,0x5e,0x07,0x9e,0x09,0xe2,0xc8,0xa8,0x33,0x9c]

-- An extension takes four bytes at least, so the bytes of the list bound the rounds.
def readExtensions : Nat → Bool → ReadM Bool
  | 0, isTls13 => return isTls13
  | rounds+1, isTls13 => do
    if ← isConsumed then return isTls13
    let extType ← readU16Be
    let extLen ← readU16Be
    if extType = 43 then
      if extLen ≠ 2 then throw (invalidData "invalid supported_versions length")
      let version ← readSlice 2
      readExtensions rounds (version == [3,4])
    else
      skip extLen
      readExtensions rounds isTls13

def readServerHello : ReadM ParsedServerHello := do
  if (← readU8) ≠ 2 then throw (invalidData "expected ServerHello handshake type")
  let messageLen ← readU24Be
  if (← remaining) < messageLen then throw (invalidData "ServerHello message length exceeds frame")
  -- The second byte of the version is only read when the first fits.
  if (← readU8) ≠ 3 then throw (invalidData "expected ServerHello legacy TLS version 3.3")
  if (← readU8) ≠ 3 then throw (invalidData "expected ServerHello legacy TLS version 3.3")
  if (← readSlice 32) = retryRequestRandomBytes then throw (invalidData "server sent HelloRetryRequest")
  let sessionIdLen ← readU8
  if sessionIdLen > 32 then throw (invalidData "invalid ServerHello session id length")
  skip sessionIdLen.toNat
  let cipherSuite ← readU16Be
  skip 1
  if ← isConsumed then return ⟨cipherSuite,false⟩
  let extensionsLen ← readU16Be
  if (← remaining) < extensionsLen then throw (invalidData "extensions length exceeds ServerHello")
  let extensions ← readSlice extensionsLen
  let isTls13 ← BufReader.run (readExtensions (extensionsLen + 1) false) extensions
  return ⟨cipherSuite,isTls13⟩

def parseServerHello (serverHelloFrame : Bytes) : Except IoError ParsedServerHello :=
  if serverHelloFrame.length < 47 then .error (invalidData "ServerHello frame too short")
  else match serverHelloFrame with
    | contentType::major::minor::_ =>
      if contentType ≠ 0x16 then .error (invalidData "expected handshake content type")
      else if major ≠ 3 ∨ minor ≠ 3 then .error (invalidData "unexpected ServerHello record TLS version")
      else BufReader.run readServerHello (serverHelloFrame.drop 5)
    | _ => .error (invalidData "ServerHello frame too short")

structure VisionFilter where
  recordFilterCount : Nat
  isTls : Bool
  isTls12OrAbove : Bool
  supportsXtls : Bool
  deriving DecidableEq, Repr

namespace VisionFilter

def new : VisionFilter := ⟨8,false,false,false⟩

def isFiltering (filter : VisionFilter) : Bool := filter.recordFilterCount > 0

def decrementFilterCount (filter : VisionFilter) : VisionFilter :=
  {filter with recordFilterCount := filter.recordFilterCount - 1}

def stopFiltering (filter : VisionFilter) : VisionFilter := {filter with recordFilterCount := 0}

def detectClientHello (filter : VisionFilter) : Bytes → VisionFilter
  | 0x16::3::_::_::_::1::_ => {filter with isTls := true}
  | _ => filter

-- TLS 1.3 with any cipher suite but AES_128_CCM_8 may go on around the outer TLS session.
def detectServerHello (filter : VisionFilter) (data : Bytes) : VisionFilter :=
  if filter.isTls12OrAbove then filter
  else match data with
    | 0x16::3::3::_::_::2::_ =>
      let filter := {filter with isTls12OrAbove := true,isTls := true}
      match parseServerHello data with
      | .ok parsed =>
        if parsed.isTls13 then
          {filter with supportsXtls := filter.supportsXtls || parsed.cipherSuite != 0x1305}.stopFiltering
        else filter
      | .error _ => filter.stopFiltering
    | _ => filter

def filterRecord (filter : VisionFilter) (data : Bytes) : VisionFilter :=
  if filter.recordFilterCount = 0 then filter
  else
    let filter := filter.decrementFilterCount
    if data.length < 5 then filter.stopFiltering
    else (filter.detectClientHello data).detectServerHello data

theorem filterRecord_header (filter : VisionFilter) {data : Bytes} (header : data.length = 5) :
    filter.filterRecord data = filter.decrementFilterCount := by
  match data, header with
  | [_,_,_,_,_], _ =>
    rw [filterRecord]
    split
    next stopped =>
      obtain ⟨count,_,_,_⟩ := filter
      cases stopped
      rfl
    next counting => simp [detectClientHello,detectServerHello]

end VisionFilter

end Dynet.Vless
