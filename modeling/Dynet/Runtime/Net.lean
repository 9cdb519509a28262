import Mathlib.Algebra.Group.Nat.Defs
import Mathlib.Algebra.Group.Int.Defs
import Mathlib.Data.List.Basic

/-! Socket and IP addresses with the standard library's text parsers.
Only the accepted grammar matters here: every parser returns what is left of the
input, and a whole-string parse succeeds when nothing is left. -/
namespace Dynet.Runtime

/-- The two variants of `std::net::IpAddr`, each an unsigned big-endian value. -/
inductive IpAddr where
  | v4 (bits : BitVec 32)
  | v6 (bits : BitVec 128)
  deriving DecidableEq, Repr

namespace IpAddr

def isIpv4 : IpAddr → Bool
  | .v4 _ => true
  | .v6 _ => false

def isIpv6 (address : IpAddr) : Bool := !address.isIpv4

end IpAddr

/-- A socket address; `flowinfo` and `scopeId` are read only by the V6 variant. -/
inductive SocketAddr where
  | v4 (address : BitVec 32) (port : UInt16)
  | v6 (address : BitVec 128) (port : UInt16) (flowinfo scopeId : UInt32)
  deriving DecidableEq, Repr

namespace SocketAddr

def ip : SocketAddr → IpAddr
  | .v4 address _ => .v4 address
  | .v6 address _ _ _ => .v6 address

def port : SocketAddr → UInt16
  | .v4 _ port => port
  | .v6 _ port _ _ => port

/-- `SocketAddr::new` leaves flow information and scope at zero. -/
def new : IpAddr → UInt16 → SocketAddr
  | .v4 address, port => .v4 address port
  | .v6 address, port => .v6 address port 0 0

def isIpv6 (address : SocketAddr) : Bool := address.ip.isIpv6

@[simp] theorem new_ip (address : IpAddr) (port : UInt16) : (new address port).ip = address := by
  cases address <;> rfl

/-- What the standard library's `Ord` compares, most significant part first. -/
def orderKey : SocketAddr → List Nat
  | .v4 address port => [0,address.toNat,port.toNat]
  | .v6 address port flowinfo scopeId =>
    [1,address.toNat,port.toNat,flowinfo.toNat,scopeId.toNat]

theorem orderKey_injective : Function.Injective orderKey := by
  intro left right equal
  cases left <;> cases right <;>
    simp_all [orderKey,← BitVec.toNat_inj,← UInt16.toNat_inj,← UInt32.toNat_inj]

instance : Ord SocketAddr := ⟨compareOn orderKey⟩

instance : Std.TransOrd SocketAddr := inferInstanceAs (Std.TransCmp (compareOn orderKey))

instance : Std.LawfulEqOrd SocketAddr where
  eq_of_compare same := orderKey_injective (Std.LawfulEqCmp.eq_of_compare same)

end SocketAddr

namespace Parse

def given (expected : Char) : List Char → Option (List Char)
  | [] => none
  | c::rest => if c = expected then some rest else none

def digit (radix : Nat) (c : Char) : Option Nat :=
  let value :=
    if '0' ≤ c ∧ c ≤ '9' then some (c.toNat - '0'.toNat)
    else if 'a' ≤ c ∧ c ≤ 'z' then some (c.toNat - 'a'.toNat + 10)
    else if 'A' ≤ c ∧ c ≤ 'Z' then some (c.toNat - 'A'.toNat + 10)
    else none
  value.filter (· < radix)

/-- The digits at the front of the input, at most `limit` of them when a limit
is given. A digit past the limit makes the whole number invalid. -/
def digits (radix : Nat) (limit : Option Nat) : List Nat → List Char → Option (List Nat × List Char)
  | seen, [] => some (seen,[])
  | seen, c::rest => match digit radix c with
    | none => some (seen,c::rest)
    | some d => if limit.any (seen.length ≥ ·) then none
        else digits radix limit (seen ++ [d]) rest

/-- `read_number`: `bound` is the exclusive bound of the integer type. -/
def number (radix bound : Nat) (limit : Option Nat) (zeroPrefix : Bool)
    (input : List Char) : Option (Nat × List Char) := do
  let (seen,rest) ← digits radix limit [] input
  let value := seen.foldl (fun acc d => acc * radix + d) 0
  if seen.isEmpty ∨ value ≥ bound then none
  else if !zeroPrefix ∧ seen.head? = some 0 ∧ seen.length > 1 then none
  else some (value,rest)

def separated {α : Type} (separator : Char) (index : Nat)
    (inner : List Char → Option (α × List Char)) (input : List Char) : Option (α × List Char) := do
  inner (← if index > 0 then given separator input else some input)

def ipv4 (input : List Char) : Option (BitVec 32 × List Char) := do
  let octet := number 10 256 (some 3) false
  let (a,rest) ← separated '.' 0 octet input
  let (b,rest) ← separated '.' 1 octet rest
  let (c,rest) ← separated '.' 2 octet rest
  let (d,rest) ← separated '.' 3 octet rest
  return (BitVec.ofNat 32 (((a * 256 + b) * 256 + c) * 256 + d),rest)

/-- `read_groups`: up to `limit` colon-separated groups from position `index` on,
and whether they end in an embedded IPv4 address. -/
def groups (limit : Nat) : Nat → Nat → List Char → List Nat × Bool × List Char
  | 0, _, input => ([],false,input)
  | fuel+1, index, input =>
    let embedded := if index + 1 < limit then separated ':' index ipv4 input else none
    match embedded with
    | some (value,rest) => ([value.toNat / 65536,value.toNat % 65536],true,rest)
    | none => match separated ':' index (number 16 65536 (some 4) true) input with
      | none => ([],false,input)
      | some (group,rest) =>
        let (more,last,rest) := groups limit fuel (index+1) rest
        (group::more,last,rest)

def ipv6 (input : List Char) : Option (BitVec 128 × List Char) := do
  let value := fun (words : List Nat) => BitVec.ofNat 128 (words.foldl (fun acc word => acc * 65536 + word) 0)
  let (head,embedded,rest) := groups 8 8 0 input
  if head.length = 8 then return (value head,rest)
  if embedded then none
  let rest ← given ':' (← given ':' rest)
  let limit := 8 - (head.length + 1)
  let (tail,_,rest) := groups limit limit 0 rest
  return (value (head ++ List.replicate (8 - head.length - tail.length) 0 ++ tail),rest)

def whole {α : Type} (result : Option (α × List Char)) : Option α :=
  result.bind fun (value,rest) => if rest.isEmpty then some value else none

def ipAddr (text : String) : Option IpAddr :=
  whole (((ipv4 text.toList).map fun (value,rest) => (IpAddr.v4 value,rest)) <|>
    ((ipv6 text.toList).map fun (value,rest) => (IpAddr.v6 value,rest)))

def portSuffix (input : List Char) : Option (UInt16 × List Char) := do
  let (value,rest) ← number 10 65536 none true (← given ':' input)
  return (UInt16.ofNat value,rest)

def scopeSuffix (input : List Char) : Option (UInt32 × List Char) := do
  let (value,rest) ← number 10 (2^32) none true (← given '%' input)
  return (UInt32.ofNat value,rest)

def socketV4 (input : List Char) : Option (SocketAddr × List Char) := do
  let (address,rest) ← ipv4 input
  let (port,rest) ← portSuffix rest
  return (.v4 address port,rest)

def socketV6 (input : List Char) : Option (SocketAddr × List Char) := do
  let (address,rest) ← ipv6 (← given '[' input)
  let (scope,rest) := (scopeSuffix rest).getD (0,rest)
  let (port,rest) ← portSuffix (← given ']' rest)
  return (.v6 address port 0 scope,rest)

def socketAddr (text : String) : Option SocketAddr :=
  whole (socketV4 text.toList <|> socketV6 text.toList)

/-- `str::parse::<u8>`, which also takes a leading plus sign. -/
def u8 (text : String) : Option Nat :=
  let body := match text.toList with
    | '+'::rest => rest
    | rest => rest
  whole (number 10 256 none true body)

end Parse

namespace Display

def ipv4 (address : BitVec 32) : String :=
  let bits := address.toNat
  s!"{bits / 2^24}.{bits / 2^16 % 256}.{bits / 2^8 % 256}.{bits % 256}"

def segments (address : BitVec 128) : List Nat :=
  (List.range 8).map fun i => address.toNat / 65536 ^ (7 - i) % 65536

def hextets (words : List Nat) : String :=
  ":".intercalate (words.map fun word => String.ofList (Nat.toDigits 16 word))

/-- Start and length of the first longest run of zero segments. -/
def longestZeroes : Nat → Nat × Nat → Nat × Nat → List Nat → Nat × Nat
  | _, longest, _, [] => longest
  | index, longest, current, word::rest =>
    if word = 0 then
      let current := if current.2 = 0 then (index,1) else (current.1,current.2 + 1)
      longestZeroes (index+1) (if current.2 > longest.2 then current else longest) current rest
    else longestZeroes (index+1) longest (0,0) rest

def ipv6 (address : BitVec 128) : String :=
  let words := segments address
  if words.take 6 = [0,0,0,0,0,0xffff] then s!"::ffff:{ipv4 (address.setWidth 32)}" else
  let (start,length) := longestZeroes 0 (0,0) (0,0) words
  if length > 1 then s!"{hextets (words.take start)}::{hextets (words.drop (start + length))}"
  else hextets words

def ipAddr : IpAddr → String
  | .v4 bits => ipv4 bits
  | .v6 bits => ipv6 bits

/-- The flow information of a V6 address is not printed. -/
def socketAddr : SocketAddr → String
  | .v4 address port => s!"{ipv4 address}:{port.toNat}"
  | .v6 address port _ scopeId =>
    if scopeId = 0 then s!"[{ipv6 address}]:{port.toNat}"
    else s!"[{ipv6 address}%{scopeId.toNat}]:{port.toNat}"

end Display

def splitOnce (separator : Char) : List Char → Option (List Char × List Char)
  | [] => none
  | c::rest => if c = separator then some ([],rest)
      else (splitOnce separator rest).map fun (before,after) => (c::before,after)

theorem splitOnce_some_iff {separator : Char} {text before after : List Char} :
    splitOnce separator text = some (before,after) ↔ separator ∉ before ∧ text = before ++ separator::after := by
  induction text generalizing before with
  | nil => simp [splitOnce]
  | cons c rest ih =>
    unfold splitOnce
    split
    · rename_i same
      constructor
      · intro cut
        cases Option.some.inj cut
        exact ⟨List.not_mem_nil,by rw [same,List.nil_append]⟩
      · rintro ⟨free,shape⟩
        cases before with
        | nil => rw [(List.cons.inj shape).2]
        | cons d before =>
          have first : c = d := (List.cons.inj shape).1
          exact absurd (by rw [← same,first]; exact List.mem_cons_self) free
    · rename_i other
      constructor
      · intro cut
        obtain ⟨⟨front,back⟩,inner,made⟩ := Option.map_eq_some_iff.mp cut
        cases made
        obtain ⟨free,shape⟩ := ih.mp inner
        refine ⟨?_,by rw [shape,List.cons_append]⟩
        rw [List.mem_cons,not_or]
        exact ⟨fun same => other same.symm,free⟩
      · rintro ⟨free,shape⟩
        cases before with
        | nil => exact absurd (List.cons.inj shape).1 other
        | cons d before =>
          obtain ⟨rfl,tail⟩ := List.cons.inj shape
          rw [ih.mpr ⟨fun member => free (List.mem_cons_of_mem _ member),tail⟩]
          rfl

theorem splitOnce_shape {separator : Char} {text before after : List Char}
    (cut : splitOnce separator text = some (before,after)) : text = before ++ separator::after :=
  (splitOnce_some_iff.mp cut).2

/-- Equality of the leading `length` bits; a zero length compares nothing. -/
def maskedEq (w : Nat) (address base : BitVec w) (length : Nat) : Bool :=
  let mask := if length = 0 then 0 else BitVec.allOnes w <<< (w - length)
  address &&& mask == base &&& mask

def ipMatchesCidr (address : IpAddr) (cidr : String) : Bool :=
  match splitOnce '/' cidr.toList with
  | none => false
  | some (base,length) =>
    match address,Parse.ipAddr (String.ofList base),Parse.u8 (String.ofList length) with
    | .v4 address,some (.v4 base),some length => length ≤ 32 && maskedEq 32 address base length
    | .v6 address,some (.v6 base),some length => length ≤ 128 && maskedEq 128 address base length
    | _,_,_ => false

example : ipMatchesCidr (.v4 0xC0000201) "192.0.2.0/24" = true := by decide
example : Parse.ipAddr "2001:db8::10" = some (.v6 0x20010db8000000000000000000000010) := by decide
example : Parse.socketAddr "[2001:db8::10]:443" =
    some (.v6 0x20010db8000000000000000000000010 443 0 0) := by decide
example : Display.socketAddr (.v6 0x20010db8000000000000000000000010 443 0 0) = "[2001:db8::10]:443" := by
  decide +kernel

end Dynet.Runtime
